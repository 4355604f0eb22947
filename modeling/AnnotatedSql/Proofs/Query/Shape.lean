import AnnotatedSql.Proofs.Entries
import AnnotatedSql.Proofs.Query.Dynamic
import AnnotatedSql.Proofs.Query.Static
import Mathlib.Algebra.GroupWithZero.Nat

/-!
# What the text of a query depends on

The text of a query is that of the statement, in one style of placeholders, for lists of some
lengths. No value is in it. How many values are bound is settled by the lengths too.
-/

set_option autoImplicit false

namespace AnnotatedSql

/-- How many elements the argument of a name has. One that is no list has none. -/
def elementCount (argument : String → Option Value) (name : String) : ℕ :=
  (((argument name).bind Parameter.listElements?).map List.length).getD 0

/-- How many values a marker binds for lists of some lengths. -/
def Marker.width (count : String → ℕ) (m : Marker) : ℕ :=
  match m.multiplicity with
  | .scalar => 1
  | .list => count m.name

namespace BoundQuery

/-- The text of a marker after so many values, for lists of some lengths. -/
def markerText (style : PlaceholderStyle) (count : String → ℕ) (before : ℕ) (m : Marker) : String :=
  match m.multiplicity with
  | .scalar => style.render (before + 1 : ℕ)
  | .list => listText style before (count m.name)

/-- The texts of tokens after so many values, for lists of some lengths. -/
def textsFrom (style : PlaceholderStyle) (count : String → ℕ) (before : ℕ) :
    List Token → List String
  | [] => []
  | .literal text :: rest => text :: textsFrom style count before rest
  | .marker m :: rest =>
    markerText style count before m :: textsFrom style count (before + m.width count) rest

/-- How many values tokens bind for lists of some lengths. -/
def widthOf (count : String → ℕ) (tokens : List Token) : ℕ :=
  ((Token.markers tokens).map (Marker.width count)).sum

/-- The texts of tokens and the number of their values depend on nothing but the lengths of the
lists that have markers. -/
theorem textsFrom_congr (style : PlaceholderStyle) {count count' : String → ℕ}
    {tokens : List Token} (before : ℕ)
    (h : ∀ m ∈ Token.markers tokens, m.multiplicity = .list → count m.name = count' m.name) :
    textsFrom style count before tokens = textsFrom style count' before tokens ∧
      widthOf count tokens = widthOf count' tokens := by
  induction tokens generalizing before with
  | nil => exact ⟨rfl, rfl⟩
  | cons token rest ih =>
    cases token with
    | literal text =>
      obtain ⟨htexts, hwidth⟩ := ih before h
      exact ⟨congrArg (text :: ·) htexts, hwidth⟩
    | marker m =>
      have hfirst := h m List.mem_cons_self
      obtain ⟨htexts, hwidth⟩ := ih (before + m.width count)
        fun n hn => h n (List.mem_cons_of_mem _ hn)
      have hmarker : markerText style count before m = markerText style count' before m ∧
          m.width count = m.width count' := by
        unfold markerText Marker.width
        cases hmultiplicity : m.multiplicity with
        | scalar => exact ⟨rfl, rfl⟩
        | list => exact ⟨by simp only [hfirst hmultiplicity], hfirst hmultiplicity⟩
      refine ⟨?_, congrArg₂ (· + ·) hmarker.2 hwidth⟩
      simp only [textsFrom]
      rw [hmarker.1, htexts, hmarker.2]

/-- The elements that are read of what is given for a name. -/
def elementsOf (given : String → Option Value) (name : String) : List Value :=
  ((given name).bind Value.elements?).getD []

/-- How many elements are read of what is given for a name. -/
def lengthOf (given : String → Option Value) (name : String) : ℕ :=
  (elementsOf given name).length

/-- The values that a token binds. -/
def boundBy (given : String → Option Value) : Token → List Value
  | .literal _ => []
  | .marker ⟨name, .scalar⟩ => (given name).toList
  | .marker ⟨name, .list⟩ => elementsOf given name

/-- What is given for a marker can be used, any number of times. -/
inductive Readable (given : String → Option Value) : Marker → Prop
  /-- One value is bound as it is. -/
  | scalar {name : String} {v : Value} (value : given name = some v) :
      Readable given ⟨name, .scalar⟩
  /-- A list still has its elements once they have been read. -/
  | list {name : String} {v : Value} {elements : List Value} (value : given name = some v)
      (read : v.elements? = some elements) (again : v.afterReading = v) :
      Readable given ⟨name, .list⟩

/-- What is found once the elements of a name have been read. -/
theorem lookup_afterReading (name key : String) (values : List (String × Value)) :
    (afterReading name values).lookup key =
      (values.lookup key).map fun v => if key = name then v.afterReading else v := by
  induction values with
  | nil => rfl
  | cons first rest ih =>
    obtain ⟨k, v⟩ := first
    unfold afterReading at ih ⊢
    rw [List.map_cons, Entries.lookup_cons_ite, Entries.lookup_cons_ite, ih]
    by_cases hkey : key = k
    · simp [hkey]
    · simp [hkey]

/-- Reading a value that can be read again changes nothing of what is found. -/
theorem lookup_afterReading_of_again {name : String} {v : Value}
    {values : List (String × Value)} (hvalue : values.lookup name = some v)
    (hagain : v.afterReading = v) (key : String) :
    (afterReading name values).lookup key = values.lookup key := by
  rw [lookup_afterReading]
  by_cases hkey : key = name
  · simp [hkey, hvalue, hagain]
  · simp [hkey]

/-- The query of tokens whose markers can all be read: the texts for the lengths of the lists, and
the values that the tokens bind, one after the other. -/
theorem assembleFrom_eq (style : PlaceholderStyle) {given : String → Option Value}
    {values : List (String × Value)} {tokens : List Token} (before : ℕ)
    (hvalues : ∀ name, values.lookup name = given name)
    (hreadable : ∀ m ∈ Token.markers tokens, Readable given m) :
    assembleFrom style before values tokens =
      .ok (textsFrom style (lengthOf given) before tokens,
        tokens.flatMap (boundBy given)) := by
  -- What is found stays the same along the tokens, though the values may not.
  induction tokens generalizing before values with
  | nil => rfl
  | cons token rest ih =>
    cases token with
    | literal text =>
      simp only [assembleFrom, ih before hvalues hreadable, Except.map, textsFrom,
        List.flatMap_cons, boundBy, List.nil_append]
    | marker m =>
      have hrest : ∀ n ∈ Token.markers rest, Readable given n :=
        fun n hn => hreadable n (List.mem_cons_of_mem _ hn)
      cases hreadable m List.mem_cons_self with
      | @scalar name v hvalue =>
        have hlookup := (hvalues name).trans hvalue
        simp only [assembleFrom, hlookup, ih (before + 1) hvalues hrest, Except.map, textsFrom,
          markerText, Marker.width, List.flatMap_cons, boundBy, hvalue, Option.toList_some,
          List.singleton_append]
      | @list name v elements hvalue hread hagain =>
        have hlookup := (hvalues name).trans hvalue
        have hvalues' : ∀ key, (afterReading name values).lookup key = given key :=
          fun key => (lookup_afterReading_of_again hlookup hagain key).trans (hvalues key)
        have helements : elementsOf given name = elements := by simp [elementsOf, hvalue, hread]
        simp only [assembleFrom, hlookup, hread, ih (before + elements.length) hvalues' hrest,
          Except.map, textsFrom, markerText, Marker.width, List.flatMap_cons, boundBy, lengthOf,
          helements]

/-- Tokens whose markers can be read bind as many values as is settled by the lengths. -/
theorem length_flatMap_boundBy {given : String → Option Value} {tokens : List Token}
    (hreadable : ∀ m ∈ Token.markers tokens, Readable given m) :
    (tokens.flatMap (boundBy given)).length =
      widthOf (lengthOf given) tokens := by
  induction tokens with
  | nil => rfl
  | cons token rest ih =>
    cases token with
    | literal text => exact ih hreadable
    | marker m =>
      have hrest := ih fun n hn => hreadable n (List.mem_cons_of_mem _ hn)
      rw [List.flatMap_cons, List.length_append, hrest]
      cases hreadable m List.mem_cons_self with
      | scalar hvalue =>
        simp only [boundBy, hvalue, Option.toList_some, List.length_singleton]
        rfl
      | list => rfl

/-- A marker that is supplied can be read, and a list has as many elements as the argument. -/
theorem readable_of_supplied {argument : String → Option Value}
    {values : List (String × Value)} {m : Marker} (h : Supplied argument values m) :
    Readable (values.lookup ·) m ∧ (m.multiplicity = .list →
      elementCount argument m.name = lengthOf (values.lookup ·) m.name) := by
  obtain ⟨name, multiplicity⟩ := m
  cases multiplicity with
  | scalar =>
    obtain ⟨v, _, hlookup⟩ := h
    exact ⟨.scalar hlookup, fun hlist => by cases hlist⟩
  | list =>
    obtain ⟨v, elements, hgiven, helements, hlookup⟩ := h
    refine ⟨.list hlookup rfl rfl, fun _ => ?_⟩
    simp only at hgiven hlookup
    simp [elementCount, lengthOf, elementsOf, hgiven, helements, hlookup, Value.elements?]

/-- Tokens that are supplied have the texts for the lengths of the lists that are given, and as many
values. -/
theorem assembleFrom_eq_textsFrom (style : PlaceholderStyle) {argument : String → Option Value}
    {values : List (String × Value)} {tokens : List Token} (before : ℕ)
    (hsupplied : ∀ m ∈ Token.markers tokens, Supplied argument values m) :
    ∃ bound, assembleFrom style before values tokens =
        .ok (textsFrom style (elementCount argument) before tokens, bound) ∧
      bound.length = widthOf (elementCount argument) tokens := by
  have hreadable : ∀ m ∈ Token.markers tokens, Readable (values.lookup ·) m :=
    fun m hm => (readable_of_supplied (hsupplied m hm)).1
  obtain ⟨htexts, hwidth⟩ := textsFrom_congr style before
    fun m hm => (readable_of_supplied (hsupplied m hm)).2
  refine ⟨tokens.flatMap (boundBy (values.lookup ·)), ?_, ?_⟩
  · rw [htexts]
    exact assembleFrom_eq style before (fun _ => rfl) hreadable
  · rw [hwidth]
    exact length_flatMap_boundBy hreadable

end BoundQuery

namespace Statement

/-- The text of a statement's query, in a style of placeholders and for lists of some lengths. -/
def queryText (s : Statement) (style : PlaceholderStyle) (count : String → ℕ) : String :=
  if s.isDynamic then String.join (BoundQuery.textsFrom style count 0 s.tokens)
  else String.join (s.tokens.map (StaticQuery.numberedText style s))

/-- How many values a statement's query binds for lists of some lengths. -/
def querySize (s : Statement) (count : String → ℕ) : ℕ :=
  if s.isDynamic then BoundQuery.widthOf count s.tokens
  else (StaticQuery.upTo (StaticQuery.highest s) s.parameters).length

/-- The text and the number of values depend on nothing but the lengths of the lists among the
parameters. -/
theorem query_congr {s : Statement} (hfit : Fit s.kind s.parameters s.tokens)
    (style : PlaceholderStyle) {count count' : String → ℕ}
    (h : ∀ p ∈ s.parameters, p.isList = true → count p.name = count' p.name) :
    s.queryText style count = s.queryText style count' ∧
      s.querySize count = s.querySize count' := by
  have hmarkers : ∀ m ∈ Token.markers s.tokens, m.multiplicity = .list →
      count m.name = count' m.name := by
    intro m hm hmultiplicity
    obtain ⟨p, hp, hname, hsame⟩ := hfit.marker_has m hm
    rw [← hname]
    apply h p hp
    simp [Parameter.isList, hsame, hmultiplicity]
  obtain ⟨htexts, hwidth⟩ := BoundQuery.textsFrom_congr style 0 hmarkers
  unfold queryText querySize
  rw [htexts, hwidth]
  exact ⟨rfl, rfl⟩

end Statement

end AnnotatedSql
