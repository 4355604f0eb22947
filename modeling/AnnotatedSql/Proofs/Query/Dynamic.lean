import AnnotatedSql.Proofs.Query.Filling
import AnnotatedSql.Query.Dynamic
import Mathlib.Data.List.Nodup

/-!
# Queries built for one call are filled correctly

The numbers of a query that is built for one call go up along the body, as the bound values do. So
each marker finds its values at the numbers that were free when it was reached.
-/

set_option autoImplicit false

namespace AnnotatedSql

/-- The next value is bound at the next number. -/
theorem bindsAt_next (before : List Value) (v : Value) (after : List Value) :
    BindsAt (before ++ v :: after) (before.length + 1) v := by
  refine ⟨by omega, ?_, ?_⟩
  · simp only [List.length_append, List.length_cons]
    omega
  · simp

/-- The next values are bound at the next numbers. -/
theorem forall₂_bindsAt (before elements after : List Value) :
    List.Forall₂ (BindsAt (before ++ elements ++ after))
      ((List.range elements.length).map fun k => before.length + 1 + k) elements := by
  rw [List.forall₂_iff_get]
  refine ⟨by simp, ?_⟩
  intro i hi _
  have hi : i < elements.length := by simpa using hi
  simp only [List.get_eq_getElem, List.getElem_map, List.getElem_range]
  refine ⟨by omega, ?_, ?_⟩
  · simp only [List.length_append]
    omega
  · rw [List.getElem?_append_left (by simp only [List.length_append]; omega),
      List.getElem?_append_right (by omega)]
    have hplace : before.length + 1 + i - 1 - before.length = i := by omega
    rw [hplace, List.getElem?_eq_getElem hi]

namespace BoundQuery

/-- The text for the elements of a list is the listing of the next numbers. -/
theorem listText_eq_listing (style : PlaceholderStyle) (before count : ℕ) :
    listText style before count =
      listing style ((List.range count).map fun k => before + 1 + k) := by
  unfold listText listing placeholders
  cases count with
  | zero => rfl
  | succ count =>
    rw [if_neg (by omega), if_neg (by simp), List.map_map]
    exact congrArg (String.intercalate ", ") (List.map_congr_left fun k _ =>
      style.render_eq_numbered (before + 1 + k))

/-- Values that are lists can be read any number of times. -/
theorem afterReading_eq_self {name : String} {values : List (String × Value)}
    (h : ∀ v, (name, v) ∈ values → v.afterReading = v) : afterReading name values = values := by
  unfold afterReading
  conv_rhs => rw [← List.map_id values]
  apply List.map_congr_left
  rintro ⟨key, v⟩ hmem
  by_cases hkey : key = name
  · subst hkey
    simp [h v hmem]
  · simp [hkey]

/-- Of values under different names, those of a list marker that is supplied can be read again. -/
theorem afterReading_of_supplied {argument : String → Option Value}
    {values : List (String × Value)} {name : String} (hnodup : (values.map Prod.fst).Nodup)
    (h : Supplied argument values ⟨name, .list⟩) : afterReading name values = values := by
  obtain ⟨_, elements, _, _, hlookup⟩ := h
  apply afterReading_eq_self
  intro v hv
  obtain ⟨first, last, hsplit, _⟩ := List.lookup_eq_some_iff.mp hlookup
  have hmem : (name, Value.list elements) ∈ values := by simp [hsplit]
  have heq := List.inj_on_of_nodup_map hnodup hv hmem rfl
  cases heq
  rfl

/-- A query that is built for one call is filled with the arguments, from any number on. -/
theorem assembleFrom_filled (style : PlaceholderStyle) {argument : String → Option Value}
    {values : List (String × Value)} {tokens : List Token} (before : List Value)
    (hnodup : (values.map Prod.fst).Nodup)
    (hsupplied : ∀ m ∈ Token.markers tokens, Supplied argument values m) :
    ∃ texts bound, assembleFrom style before.length values tokens = .ok (texts, bound) ∧
      List.Forall₂ (Filled style (before ++ bound) argument) tokens texts := by
  induction tokens generalizing before with
  | nil => exact ⟨[], [], rfl, .nil⟩
  | cons token rest ih =>
    cases token with
    | literal text =>
      obtain ⟨texts, bound, hok, hfilled⟩ := ih before hsupplied
      refine ⟨text :: texts, bound, ?_, .cons (.literal text) hfilled⟩
      simp only [assembleFrom, hok, Except.map]
    | marker m =>
      have hfirst := hsupplied m List.mem_cons_self
      have hrest : ∀ n ∈ Token.markers rest, Supplied argument values n :=
        fun n hn => hsupplied n (List.mem_cons_of_mem _ hn)
      obtain ⟨name, multiplicity⟩ := m
      cases multiplicity with
      | scalar =>
        obtain ⟨v, hgiven, hlookup⟩ := hfirst
        obtain ⟨texts, bound, hok, hfilled⟩ := ih (before ++ [v]) hrest
        simp only [List.length_append, List.length_singleton, List.append_assoc,
          List.singleton_append] at hok hfilled
        refine ⟨style.render (before.length + 1 : ℕ) :: texts, v :: bound, ?_, .cons ?_ hfilled⟩
        · simp only [assembleFrom, hlookup, hok, Except.map]
        · rw [style.render_eq_numbered]
          exact .scalar hgiven (bindsAt_next before v bound)
      | list =>
        have hread := afterReading_of_supplied hnodup hfirst
        obtain ⟨v, elements, hgiven, helements, hlookup⟩ := hfirst
        obtain ⟨texts, bound, hok, hfilled⟩ := ih (before ++ elements) hrest
        simp only [List.length_append] at hok
        rw [List.append_assoc] at hfilled
        refine ⟨listText style before.length elements.length :: texts, elements ++ bound, ?_,
          .cons ?_ hfilled⟩
        · simp only [assembleFrom, hlookup, Value.elements?, hread, hok, Except.map]
        · rw [listText_eq_listing, ← List.append_assoc]
          exact .list hgiven helements (forall₂_bindsAt before elements bound)

/-- The query of a statement for one call is filled with the arguments. -/
theorem assembleDynamic_filled {s : Statement} (style : PlaceholderStyle)
    {argument : String → Option Value} {values : List (String × Value)}
    (hnodup : (values.map Prod.fst).Nodup)
    (hsupplied : ∀ m ∈ Token.markers s.tokens, Supplied argument values m) :
    ∃ q texts, assembleDynamic s values style = .ok q ∧ q.sql = String.join texts ∧
      List.Forall₂ (Filled style q.parameters argument) s.tokens texts := by
  obtain ⟨texts, bound, hok, hfilled⟩ := assembleFrom_filled style [] hnodup hsupplied
  refine ⟨⟨String.join texts, bound⟩, texts, ?_, rfl, hfilled⟩
  unfold assembleDynamic
  rw [show (0 : ℕ) = ([] : List Value).length from rfl, hok]
  rfl

end BoundQuery

end AnnotatedSql
