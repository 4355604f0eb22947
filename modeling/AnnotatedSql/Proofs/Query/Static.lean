import AnnotatedSql.Proofs.Outcome
import AnnotatedSql.Proofs.Query.Filling
import AnnotatedSql.Proofs.Statement.Resolution
import AnnotatedSql.Query.Static
import Mathlib.Data.Int.Notation

/-!
# Queries with a fixed text are filled correctly

In a statement whose parameters serve its body every marker has the number of its parameter. The
bound values go up to the greatest number in the body, so that at each number stands the value of
the parameter with that number.
-/

set_option autoImplicit false

namespace AnnotatedSql

namespace StaticQuery

/-- The number of a marker in a statement whose parameters serve its body is one more than the
place of a parameter of its name. -/
theorem index?_of_serves {s : Statement} (h : Serves s.parameters s.tokens) {m : Marker}
    (hm : m ∈ Token.markers s.tokens) :
    ∃ (i : ℕ) (p : Parameter), s.parameters[i]? = some p ∧ p.name = m.name ∧
      index? s m.name = some ((i : ℤ) + 1) := by
  obtain ⟨p, hp, hname, _⟩ := h.marker_has m hm
  unfold index?
  cases hfind : s.parameters.reverse.find? fun q => q.name == m.name with
  | none =>
    have hnone := List.find?_eq_none.mp hfind p (List.mem_reverse.mpr hp)
    simp [hname] at hnone
  | some q =>
    have hq := List.mem_reverse.mp (List.mem_of_find?_eq_some hfind)
    obtain ⟨i, hi⟩ := List.getElem?_of_mem hq
    refine ⟨i, q, hi, by simpa using List.find?_some hfind, ?_⟩
    rw [Option.map_some, Parameter.index, h.position_eq i q hi]

/-- The text of a token whose marker has a number. -/
def numberedText (style : PlaceholderStyle) (s : Statement) : Token → String
  | .literal text => text
  | .marker m => style.render ((index? s m.name).getD 0)

/-- The parameter bound at each number. -/
def bindOrderOf (s : Statement) : List (Option String) :=
  (upTo (highest s) s.parameters).map fun p => if isReferenced s p.name then some p.name else none

/-- A marker of a body is among its markers. -/
theorem mem_markers_of_mem {tokens : List Token} {m : Marker} (h : Token.marker m ∈ tokens) :
    m ∈ Token.markers tokens :=
  List.mem_filterMap.mpr ⟨_, h, rfl⟩

/-- A statement without lists whose parameters serve its body has a query with a fixed text. -/
theorem build_of_serves {s : Statement} (h : Serves s.parameters s.tokens)
    (hstatic : s.isDynamic = false) (style : PlaceholderStyle) :
    build s style =
      .ok ⟨String.join (s.tokens.map (numberedText style s)), bindOrderOf s⟩ := by
  have htexts : s.tokens.mapM (tokenText style s) = .ok (s.tokens.map (numberedText style s)) := by
    apply Outcome.mapM_eq_ok
    intro token htoken
    cases token with
    | literal text => rfl
    | marker m =>
      obtain ⟨i, p, _, _, hindex⟩ := index?_of_serves h (mem_markers_of_mem htoken)
      simp only [tokenText, numberedText, hindex, Option.getD_some]
  unfold build
  rw [hstatic, htexts]
  rfl

/-- The values bound in place of the parameters up to the greatest number. A parameter without
markers leaves a gap. -/
def boundOf (s : Statement) (values : List (String × Value)) : List Value :=
  (upTo (highest s) s.parameters).map fun p =>
    if isReferenced s p.name then (values.lookup p.name).getD .none else .none

/-- A name is referenced when some marker has it. -/
theorem isReferenced_eq_true_iff {s : Statement} {name : String} :
    isReferenced s name = true ↔ ∃ m ∈ Token.markers s.tokens, m.name = name := by
  simp [isReferenced]

/-- All values are there as soon as every marker is supplied. -/
theorem bind_of_supplied {s : Statement} {argument : String → Option Value}
    {values : List (String × Value)} (sql : String)
    (hsupplied : ∀ m ∈ Token.markers s.tokens, Supplied argument values m) :
    bind ⟨sql, bindOrderOf s⟩ values = .ok (boundOf s values) := by
  unfold bind bindOrderOf boundOf
  rw [List.mapM_map]
  apply Outcome.mapM_eq_ok
  intro p _
  by_cases hreferenced : isReferenced s p.name = true
  · obtain ⟨m, hm, hname⟩ := isReferenced_eq_true_iff.mp hreferenced
    obtain ⟨v, hv⟩ := (hsupplied m hm).lookup_isSome
    rw [hname] at hv
    simp [hreferenced, hv]
  · simp [hreferenced]

/-- No number in the body is greater than the greatest. -/
theorem index_le_highest {s : Statement} {m : Marker} {index : ℤ}
    (hm : m ∈ Token.markers s.tokens) (hindex : index? s m.name = some index) :
    index ≤ highest s := by
  have hmem : index ∈ (Token.markers s.tokens).filterMap fun m => index? s m.name :=
    List.mem_filterMap.mpr ⟨m, hm, hindex⟩
  unfold highest
  cases hmax : ((Token.markers s.tokens).filterMap fun m => index? s m.name).max? with
  | none =>
    rw [List.max?_eq_none_iff] at hmax
    rw [hmax] at hmem
    cases hmem
  | some greatest => exact (List.max?_eq_some_iff.mp hmax).2 index hmem

/-- At the number of a marker stands its value. -/
theorem bindsAt_boundOf {s : Statement} (h : Serves s.parameters s.tokens) {m : Marker}
    {values : List (String × Value)} {v : Value} (hm : m ∈ Token.markers s.tokens)
    (hv : values.lookup m.name = some v) :
    ∃ number : ℕ, index? s m.name = some (number : ℤ) ∧
      BindsAt (boundOf s values) number v := by
  obtain ⟨i, p, hp, hname, hindex⟩ := index?_of_serves h hm
  refine ⟨i + 1, hindex, ?_⟩
  have hhighest := index_le_highest hm hindex
  have hslot : (boundOf s values)[i]? = some v := by
    unfold boundOf upTo
    rw [if_neg (by omega), List.getElem?_map, List.getElem?_take_of_lt (by omega), hp]
    have hreferenced := isReferenced_eq_true_iff.mpr ⟨m, hm, hname.symm⟩
    rw [Option.map_some, if_pos hreferenced, hname, hv]
    rfl
  obtain ⟨hlength, _⟩ := List.getElem?_eq_some_iff.mp hslot
  exact ⟨by omega, hlength, by simpa using hslot⟩

/-- A query with a fixed text is filled with the arguments. -/
theorem filled {s : Statement} (h : Serves s.parameters s.tokens)
    (hstatic : s.isDynamic = false) (style : PlaceholderStyle)
    {argument : String → Option Value} {values : List (String × Value)}
    (hsupplied : ∀ m ∈ Token.markers s.tokens, Supplied argument values m) :
    List.Forall₂ (Filled style (boundOf s values) argument) s.tokens
      (s.tokens.map (numberedText style s)) := by
  rw [List.forall₂_map_right_iff, List.forall₂_same]
  intro token htoken
  cases token with
  | literal text => exact .literal text
  | marker m =>
    have hm := mem_markers_of_mem htoken
    obtain ⟨name, multiplicity⟩ := m
    cases multiplicity with
    | scalar =>
      obtain ⟨v, hgiven, hv⟩ := hsupplied _ hm
      obtain ⟨number, hindex, hbinds⟩ := bindsAt_boundOf h hm hv
      simp only at hindex
      simp only [numberedText, hindex, Option.getD_some, style.render_eq_numbered]
      exact .scalar hgiven hbinds
    | list =>
      obtain ⟨p, hp, _, hmultiplicity⟩ := h.marker_has _ hm
      have hlist : s.isDynamic = true := by
        unfold Statement.isDynamic
        rw [List.any_eq_true]
        exact ⟨p, hp, by simp [Parameter.isList, hmultiplicity]⟩
      rw [hstatic] at hlist
      cases hlist

end StaticQuery

end AnnotatedSql
