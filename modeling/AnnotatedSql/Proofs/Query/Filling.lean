import AnnotatedSql.Operation.Arguments
import AnnotatedSql.Query.Placeholder
import AnnotatedSql.Statement.Token
import Mathlib.Data.List.Forall2
import Mathlib.Data.Nat.Notation

/-!
# What stands for the tokens of a body in a query

The text of a query has a text for every token of the body. Literal text stays as it is. A marker
gives way to placeholders, and at the number of a placeholder stands the argument that the marker
names, or one of its elements. A placeholder is a sign and the decimal digits of its number.
-/

set_option autoImplicit false

namespace AnnotatedSql

/-- A value is bound at the number of a placeholder, where the first number is one. -/
structure BindsAt (bound : List Value) (number : ℕ) (v : Value) : Prop where
  pos : 1 ≤ number
  le_length : number ≤ bound.length
  value_eq : bound[number - 1]? = some v

/-- What stands for a number in a query: the sign of the style and the decimal digits of the
number. -/
def PlaceholderStyle.numbered (style : PlaceholderStyle) (number : ℕ) : String :=
  String.ofList (style.sign :: Nat.toDigits 10 number)

/-- The placeholder of a number is its sign and the digits of the number. -/
theorem PlaceholderStyle.render_eq_numbered (style : PlaceholderStyle) (number : ℕ) :
    style.render number = style.numbered number := by
  apply String.toList_inj.mp
  rw [render, write, numbered, String.toList_append, String.toList_ofList,
    Char.toString_eq_singleton, String.toList_singleton, List.singleton_append]
  exact congrArg (style.sign :: ·) String.toList_ofList

/-- The placeholders of some numbers for the elements of a list. -/
def listing (style : PlaceholderStyle) (numbers : List ℕ) : String :=
  if numbers.isEmpty then "NULL" else String.intercalate ", " (numbers.map style.numbered)

/-- A text stands for a token in a query that binds some values. -/
inductive Filled (style : PlaceholderStyle) (bound : List Value)
    (argument : String → Option Value) : Token → String → Prop where
  /-- Literal text stands for itself. -/
  | literal (text : String) : Filled style bound argument (.literal text) text
  /-- A placeholder at whose number the argument is bound. -/
  | scalar {name : String} {v : Value} {number : ℕ} (given : argument name = some v)
      (binds : BindsAt bound number v) :
      Filled style bound argument (.marker ⟨name, .scalar⟩) (style.numbered number)
  /-- Placeholders at whose numbers the elements of the argument are bound, one for each. -/
  | list {name : String} {v : Value} {elements : List Value} {numbers : List ℕ}
      (given : argument name = some v) (read : Parameter.listElements? v = some elements)
      (binds : List.Forall₂ (BindsAt bound) numbers elements) :
      Filled style bound argument (.marker ⟨name, .list⟩) (listing style numbers)

/-- Values to bind have what a marker needs of the arguments: the argument itself, or its elements
once they have been read. -/
def Supplied (argument : String → Option Value) (values : List (String × Value)) (m : Marker) :
    Prop :=
  match m.multiplicity with
  | .scalar => ∃ v, argument m.name = some v ∧ values.lookup m.name = some v
  | .list => ∃ v elements, argument m.name = some v ∧ Parameter.listElements? v = some elements ∧
      values.lookup m.name = some (.list elements)

/-- A marker that is supplied has a value. -/
theorem Supplied.lookup_isSome {argument : String → Option Value}
    {values : List (String × Value)} {m : Marker} (h : Supplied argument values m) :
    ∃ v, values.lookup m.name = some v := by
  unfold Supplied at h
  split at h
  · obtain ⟨v, _, hvalue⟩ := h
    exact ⟨v, hvalue⟩
  · obtain ⟨_, elements, _, _, hvalue⟩ := h
    exact ⟨_, hvalue⟩

/-- Without markers it does not matter what is bound. -/
theorem filled_of_markers_eq_nil {style : PlaceholderStyle} {bound other : List Value}
    {argument : String → Option Value} {tokens : List Token} {texts : List String}
    (hplain : Token.markers tokens = [])
    (h : List.Forall₂ (Filled style bound argument) tokens texts) :
    List.Forall₂ (Filled style other argument) tokens texts := by
  induction h with
  | nil => exact .nil
  | cons hfirst _ ih =>
    cases hfirst with
    | literal => exact .cons (.literal _) (ih hplain)
    | scalar given binds => cases hplain
    | list given read binds => cases hplain

end AnnotatedSql
