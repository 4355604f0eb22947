import AnnotatedSql.Proofs.Outcome
import AnnotatedSql.Proofs.Query.Numbering

/-!
# Fixed texts agree with those of a call

A statement without lists has a query with a fixed text, but one could be built for every call just
as well. The two number their placeholders differently: by the place of the parameter, with
repetitions and gaps, or along the body. They ask for the same nevertheless: with the value bound at
its number in place of each placeholder there is no difference.
-/

set_option autoImplicit false

namespace AnnotatedSql

/-- The text of a token that is literal. -/
def Token.literal? : Token → Option String
  | .literal text => some text
  | .marker _ => none

/-- A token with what is given for its marker in its place. -/
def Token.fill? (given : String → Option Value) : Token → Option (String ⊕ Value)
  | .literal text => some (.inl text)
  | .marker m => (given m.name).map .inr

namespace Piece

/-- A piece stands for a token and shows what is given for it: a placeholder at whose number it is
bound. -/
inductive Shows (bound : List Value) (given : String → Option Value) : Token → Piece → Prop
  /-- Literal text stands for itself. -/
  | literal (text : String) : Shows bound given (.literal text) (.text text)
  /-- A placeholder at whose number the value is bound. -/
  | marker {m : Marker} {v : Value} {number : ℕ} (value : given m.name = some v)
      (binds : BindsAt bound number v) : Shows bound given (.marker m) (.placeholder number)

variable {bound : List Value} {given : String → Option Value} {tokens : List Token}
  {pieces : List Piece}

/-- At the number of a value that is bound it is selected. -/
theorem fill?_of_bindsAt {number : ℕ} {v : Value} (h : BindsAt bound number v) :
    fill? bound (placeholder number) = some (.inr v) := by
  obtain ⟨hpos, _, hvalue⟩ := h
  cases number with
  | zero => omega
  | succ number =>
    rw [Nat.add_sub_cancel] at hvalue
    rw [fill?, hvalue, Option.map_some]

/-- Pieces that show tokens have their literal text, in the same places. -/
theorem map_text?_of_shows (h : List.Forall₂ (Shows bound given) tokens pieces) :
    pieces.map text? = tokens.map Token.literal? := by
  induction h with
  | nil => rfl
  | cons hfirst _ ih =>
    rw [List.map_cons, List.map_cons, ih]
    cases hfirst with
    | literal => rfl
    | marker => rfl

/-- Pieces that show tokens are filled with what is given for them. -/
theorem map_fill?_of_shows (h : List.Forall₂ (Shows bound given) tokens pieces) :
    pieces.map (fill? bound) = tokens.map (Token.fill? given) := by
  induction h with
  | nil => rfl
  | cons hfirst _ ih =>
    rw [List.map_cons, List.map_cons, ih]
    cases hfirst with
    | literal => rfl
    | marker hvalue hbinds => rw [fill?_of_bindsAt hbinds, Token.fill?, hvalue, Option.map_some]

end Piece

namespace StaticQuery

variable {s : Statement} {values : List (String × Value)}

/-- The piece of a token whose marker has a number. -/
def numberedPiece (s : Statement) : Token → Piece
  | .literal text => .text text
  | .marker m => .placeholder ((index? s m.name).getD 0).toNat

/-- The pieces of a statement whose parameters serve its body are written as its text. -/
theorem map_write_numberedPiece (h : Serves s.parameters s.tokens) (style : PlaceholderStyle) :
    (s.tokens.map (numberedPiece s)).map (Piece.write style) =
      s.tokens.map (numberedText style s) := by
  rw [List.map_map]
  apply List.map_congr_left
  intro token htoken
  cases token with
  | literal text => rfl
  | marker m =>
    obtain ⟨i, _, _, _, hindex⟩ := index?_of_serves h (mem_markers_of_mem htoken)
    have hnumber : (((i : ℤ) + 1).toNat : ℤ) = (i : ℤ) + 1 := by omega
    simp only [Function.comp_apply, numberedPiece, numberedText, Piece.write, hindex,
      Option.getD_some, ← style.render_eq_numbered, hnumber]

/-- Where every marker has a value, each piece shows that of its token. -/
theorem shows_numberedPiece (h : Serves s.parameters s.tokens)
    (hvalues : ∀ m ∈ Token.markers s.tokens, ∃ v, values.lookup m.name = some v) :
    List.Forall₂ (Piece.Shows (boundOf s values) (values.lookup ·)) s.tokens
      (s.tokens.map (numberedPiece s)) := by
  rw [List.forall₂_map_right_iff, List.forall₂_same]
  intro token htoken
  cases token with
  | literal text => exact .literal text
  | marker m =>
    have hm := mem_markers_of_mem htoken
    obtain ⟨v, hv⟩ := hvalues m hm
    obtain ⟨number, hindex, hbinds⟩ := bindsAt_boundOf h hm hv
    rw [numberedPiece, hindex, Option.getD_some, Int.toNat_natCast]
    exact .marker hv hbinds

/-- The numbers in a fixed text are those of the places of parameters that markers name. -/
theorem mem_numbers_iff (h : Serves s.parameters s.tokens) {number : ℕ} :
    number ∈ Piece.numbers (s.tokens.map (numberedPiece s)) ↔
      ∃ m ∈ Token.markers s.tokens, index? s m.name = some (number : ℤ) := by
  simp only [Piece.numbers, List.mem_filterMap, List.mem_map, exists_exists_and_eq_and]
  constructor
  · rintro ⟨token, htoken, hnumber⟩
    cases token with
    | literal text => cases hnumber
    | marker m =>
      have hm := mem_markers_of_mem htoken
      obtain ⟨i, _, _, _, hindex⟩ := index?_of_serves h hm
      refine ⟨m, hm, ?_⟩
      simp only [numberedPiece, Piece.number?, hindex, Option.getD_some, Option.some.injEq]
        at hnumber ⊢
      omega
  · rintro ⟨m, hm, hindex⟩
    obtain ⟨token, htoken, hmarker⟩ := List.mem_filterMap.mp hm
    refine ⟨token, htoken, ?_⟩
    cases token with
    | literal text => cases hmarker
    | marker k =>
      cases hmarker
      simp only [numberedPiece, Piece.number?, hindex, Option.getD_some, Int.toNat_natCast]

/-- A name that no marker has is not referenced. -/
theorem isReferenced_eq_false {name : String} (h : ∀ m ∈ Token.markers s.tokens, m.name ≠ name) :
    isReferenced s name = false := by
  rw [Bool.eq_false_iff, ne_eq, isReferenced_eq_true_iff]
  rintro ⟨m, hm, hname⟩
  exact h m hm hname

/-- At the place of a number in a fixed text stands the parameter that a marker names. -/
theorem isReferenced_of_mem_numbers (h : Serves s.parameters s.tokens) {i : ℕ} {p : Parameter}
    (hp : s.parameters[i]? = some p)
    (hmem : i + 1 ∈ Piece.numbers (s.tokens.map (numberedPiece s))) :
    isReferenced s p.name = true := by
  obtain ⟨m, hm, hindex⟩ := (mem_numbers_iff h).mp hmem
  obtain ⟨j, k, hk, hname, hindex'⟩ := index?_of_serves h hm
  have hplace : j = i := by
    have hsame := Option.some.inj (hindex'.symm.trans hindex)
    omega
  subst hplace
  obtain rfl := Option.some.inj (hk.symm.trans hp)
  exact isReferenced_eq_true_iff.mpr ⟨m, hm, hname.symm⟩

/-- Among parameters with different names, the places of those that markers name are numbers in a
fixed text. -/
theorem mem_numbers_of_isReferenced (h : Serves s.parameters s.tokens)
    (hnodup : (s.parameters.map Parameter.name).Nodup) {i : ℕ} {p : Parameter}
    (hp : s.parameters[i]? = some p) (hreferenced : isReferenced s p.name = true) :
    i + 1 ∈ Piece.numbers (s.tokens.map (numberedPiece s)) := by
  obtain ⟨m, hm, hmname⟩ := isReferenced_eq_true_iff.mp hreferenced
  obtain ⟨j, k, hk, hname, hindex⟩ := index?_of_serves h hm
  obtain rfl : k = p := List.inj_on_of_nodup_map hnodup (List.mem_of_getElem? hk)
    (List.mem_of_getElem? hp) (hname.trans hmname)
  have hplace : (j : ℤ) = i := (h.position_eq j k hk).symm.trans (h.position_eq i k hp)
  exact (mem_numbers_iff h).mpr ⟨m, hm, by rw [hindex, hplace]; rfl⟩

/-- The first so many of a list are a part of it. -/
theorem upTo_eq_take (n : ℤ) (xs : List Parameter) : ∃ count, upTo n xs = xs.take count := by
  unfold upTo
  split
  · exact ⟨_, rfl⟩
  · exact ⟨_, rfl⟩

/-- No more is bound than there are parameters. -/
theorem length_boundOf_le (s : Statement) (values : List (String × Value)) :
    (boundOf s values).length ≤ s.parameters.length := by
  obtain ⟨count, htake⟩ := upTo_eq_take (highest s) s.parameters
  rw [boundOf, List.length_map, htake]
  exact List.length_take_le' count s.parameters

/-- At the place of a parameter stands its value, or nothing when no marker names it. -/
theorem boundOf_getElem? {i : ℕ} {p : Parameter} (hi : i < (boundOf s values).length)
    (hp : s.parameters[i]? = some p) :
    (boundOf s values)[i]? =
      some (if isReferenced s p.name then (values.lookup p.name).getD .none else .none) := by
  obtain ⟨count, htake⟩ := upTo_eq_take (highest s) s.parameters
  rw [boundOf, List.length_map, htake, List.length_take] at hi
  rw [boundOf, htake, List.getElem?_map, List.getElem?_take_of_lt (by omega), hp, Option.map_some]

end StaticQuery

namespace BoundQuery

/-- The pieces that are numbered along tokens without lists show what is given, one for each
token. -/
theorem shows_piecesFrom (given : String → Option Value) {tokens : List Token}
    (count : String → ℕ) (before : List Value)
    (hscalar : ∀ m ∈ Token.markers tokens, m.multiplicity = .scalar)
    (hvalues : ∀ m ∈ Token.markers tokens, ∃ v, given m.name = some v) :
    List.Forall₂ (Piece.Shows (before ++ tokens.flatMap (boundBy given)) given) tokens
      (piecesFrom count before.length tokens).flatten := by
  induction tokens generalizing before with
  | nil => exact .nil
  | cons token rest ih =>
    cases token with
    | literal text => exact .cons (.literal text) (ih before hscalar hvalues)
    | marker m =>
      obtain ⟨name, multiplicity⟩ := m
      obtain ⟨hfirst, hrest⟩ := List.forall_mem_cons.mp hscalar
      obtain ⟨⟨v, hv⟩, hothers⟩ := List.forall_mem_cons.mp hvalues
      cases multiplicity with
      | list => cases hfirst
      | scalar =>
        have hshows := ih (before ++ [v]) hrest hothers
        have hbound : boundBy given (.marker ⟨name, .scalar⟩) = [v] := by
          simp only [boundBy, hv, Option.toList_some]
        rw [List.length_append, List.length_singleton, List.append_assoc] at hshows
        rw [List.flatMap_cons, hbound]
        exact .cons (.marker hv (bindsAt_next before v _)) hshows

end BoundQuery

/-- The statement of a header has parameters that serve its body. -/
theorem Header.serves_of_resolve {header : Header} {unused : UnusedPolicy} {s : Statement}
    (hresolve : header.resolve unused = .ok s) : Serves s.parameters s.tokens := by
  obtain ⟨found, hfound, rfl⟩ := Outcome.map_eq_ok_iff.mp hresolve
  exact Resolution.serves_of_parameters (Outcome.mapError_eq_ok_iff.mp hfound)

/-- In a statement without lists all markers are those of scalars. -/
theorem Statement.scalar_of_serves {s : Statement} (h : Serves s.parameters s.tokens)
    (hstatic : s.isDynamic = false) :
    ∀ m ∈ Token.markers s.tokens, m.multiplicity = .scalar := by
  intro m hm
  obtain ⟨p, hp, _, hmultiplicity⟩ := h.marker_has m hm
  have hplain : p.isList = false := by
    simpa using List.any_eq_false.mp hstatic p hp
  rw [← hmultiplicity]
  cases hkind : p.multiplicity with
  | scalar => rfl
  | list => simp [Parameter.isList, hkind] at hplain

/-- Values supply the markers of scalars as they are. -/
theorem supplied_of_scalar {tokens : List Token} {values : List (String × Value)}
    (hscalar : ∀ m ∈ Token.markers tokens, m.multiplicity = .scalar)
    (hvalues : ∀ m ∈ Token.markers tokens, ∃ v, values.lookup m.name = some v) :
    ∀ m ∈ Token.markers tokens, Supplied (values.lookup ·) values m := by
  intro m hm
  obtain ⟨v, hv⟩ := hvalues m hm
  unfold Supplied
  rw [hscalar m hm]
  exact ⟨v, hv, hv⟩

namespace StaticQuery

/-- A fixed text, bound to values, agrees with the query that is built for these values, where each
is written from pieces. -/
structure Agrees (style : PlaceholderStyle) (s : Statement) (values : List (String × Value))
    (fixed : StaticQuery) (bound : List Value) (called : BoundQuery)
    (fixedPieces calledPieces : List Piece) : Prop where
  /-- The fixed text is written from its pieces. -/
  fixed_eq : fixed.sql = Piece.writeAll style fixedPieces
  /-- The text of the call is written from its pieces. -/
  called_eq : called.sql = Piece.writeAll style calledPieces
  /-- The fixed text has the literal text of the body, with a placeholder for each marker. -/
  fixed_literal : fixedPieces.map Piece.text? = s.tokens.map Token.literal?
  /-- So has the text of the call. -/
  called_literal : calledPieces.map Piece.text? = s.tokens.map Token.literal?
  /-- With the values in place of the placeholders the two are the same. -/
  fill_eq : fixedPieces.map (Piece.fill? bound) = calledPieces.map (Piece.fill? called.parameters)
  /-- Both are the body with what is given in place of its markers. -/
  fill_tokens : fixedPieces.map (Piece.fill? bound) =
    s.tokens.map (Token.fill? (values.lookup ·))
  /-- In the place of a parameter that no marker names nothing is bound. -/
  gap_none : ∀ (i : ℕ) p, s.parameters[i]? = some p →
    (∀ m ∈ Token.markers s.tokens, m.name ≠ p.name) → i < bound.length → bound[i]? = some .none
  /-- Such a place is not selected. -/
  gap_unselected : ∀ (i : ℕ) p, s.parameters[i]? = some p →
    (∀ m ∈ Token.markers s.tokens, m.name ≠ p.name) → i + 1 ∉ Piece.numbers fixedPieces
  /-- Where the parameters have different names, these are the only places that are not. -/
  unselected_none : (s.parameters.map Parameter.name).Nodup → ∀ i < bound.length,
    i + 1 ∉ Piece.numbers fixedPieces → bound[i]? = some .none

/-- A statement without lists that a header is resolved to has a fixed text, which agrees with the
query that is built for a call, as long as every parameter has a value. -/
theorem agrees_assembleDynamic {header : Header} {unused : UnusedPolicy} {s : Statement}
    (hresolve : header.resolve unused = .ok s) (hstatic : s.isDynamic = false)
    (style : PlaceholderStyle) {values : List (String × Value)}
    (hvalues : ∀ p ∈ s.parameters, ∃ v, values.lookup p.name = some v) :
    ∃ fixed bound called fixedPieces calledPieces,
      build s style = .ok fixed ∧ fixed.bind values = .ok bound ∧
      BoundQuery.assembleDynamic s values style = .ok called ∧
      Agrees style s values fixed bound called fixedPieces calledPieces := by
  have hserves := Header.serves_of_resolve hresolve
  have hscalar := Statement.scalar_of_serves hserves hstatic
  have hgiven : ∀ m ∈ Token.markers s.tokens, ∃ v, values.lookup m.name = some v := by
    intro m hm
    obtain ⟨p, hp, hname, _⟩ := hserves.marker_has m hm
    exact hname ▸ hvalues p hp
  have hsupplied := supplied_of_scalar hscalar hgiven
  have hreadable : ∀ m ∈ Token.markers s.tokens, BoundQuery.Readable (values.lookup ·) m :=
    fun m hm => (BoundQuery.readable_of_supplied (hsupplied m hm)).1
  have hfixed := shows_numberedPiece hserves hgiven
  have hcalled := BoundQuery.shows_piecesFrom (values.lookup ·)
    (BoundQuery.lengthOf (values.lookup ·)) [] hscalar hgiven
  refine ⟨_, _, _, _, _, build_of_serves hserves hstatic style, bind_of_supplied _ hsupplied,
    BoundQuery.assembleDynamic_eq s style hreadable, ?_, rfl, Piece.map_text?_of_shows hfixed,
    Piece.map_text?_of_shows hcalled, ?_, Piece.map_fill?_of_shows hfixed, ?_, ?_, ?_⟩
  · rw [Piece.writeAll, map_write_numberedPiece hserves]
  · rw [Piece.map_fill?_of_shows hfixed]
    exact (Piece.map_fill?_of_shows hcalled).symm
  · intro i p hp hgap hi
    rw [boundOf_getElem? hi hp, isReferenced_eq_false hgap]
    rfl
  · intro i p hp hgap hmem
    have hreferenced := isReferenced_of_mem_numbers hserves hp hmem
    rw [isReferenced_eq_false hgap] at hreferenced
    cases hreferenced
  · intro hnodup i hi hfree
    have hlength : i < s.parameters.length := Nat.lt_of_lt_of_le hi (length_boundOf_le s values)
    obtain ⟨p, hp⟩ : ∃ p, s.parameters[i]? = some p := ⟨_, List.getElem?_eq_getElem hlength⟩
    rw [boundOf_getElem? hi hp, if_neg]
    exact fun hreferenced => hfree (mem_numbers_of_isReferenced hserves hnodup hp hreferenced)

/-- Of four declared parameters the second and the last are not used: there is a gap at the second
number, and nothing for the last. -/
theorem agrees_assembleDynamic_gap :
    ∃ (header : Header) (s : Statement) (fixed : StaticQuery) (called : BoundQuery)
      (fixedPieces calledPieces : List Piece),
      header.resolve .ignore = .ok s ∧ fixed.sql = "select ?3 where x = ?1 or y = ?3" ∧
      fixed.bindOrder = [some "a", none, some "b"] ∧
      BoundQuery.assembleDynamic s
        [("a", .int 1), ("gap", .int 2), ("b", .text "x"), ("last", .none)] .questionMark =
          .ok called ∧
      Agrees .questionMark s [("a", .int 1), ("gap", .int 2), ("b", .text "x"), ("last", .none)]
        fixed [.int 1, .none, .text "x"] called fixedPieces calledPieces := by
  let header : Header :=
    { name := "pick"
      kind := .query
      declarations := [⟨"a", "int", .scalar⟩, ⟨"gap", "int", .scalar⟩, ⟨"b", "str", .scalar⟩,
        ⟨"last", "str", .scalar⟩]
      doc := ""
      body := "select :b where x = :a or y = :b"
      bodyLine := 6
      block := ⟨"", 1, 6, "<string>"⟩ }
  let s : Statement :=
    { name := "pick"
      kind := .query
      parameters := [⟨"a", .scalar, 0, some "int", true⟩, ⟨"gap", .scalar, 1, some "int", false⟩,
        ⟨"b", .scalar, 2, some "str", true⟩, ⟨"last", .scalar, 3, some "str", false⟩]
      tokens := [.literal "select ", .marker ⟨"b", .scalar⟩, .literal " where x = ",
        .marker ⟨"a", .scalar⟩, .literal " or y = ", .marker ⟨"b", .scalar⟩]
      doc := ""
      block := some ⟨"", 1, 6, "<string>"⟩ }
  have hresolve : header.resolve .ignore = .ok s := by decide +kernel
  have hbuild : build s .questionMark =
      .ok ⟨"select ?3 where x = ?1 or y = ?3", [some "a", none, some "b"]⟩ := by decide +kernel
  let values : List (String × Value) :=
    [("a", .int 1), ("gap", .int 2), ("b", .text "x"), ("last", .none)]
  have hnames : ∀ p ∈ s.parameters, p.name ∈ values.map Prod.fst := by decide
  obtain ⟨fixed, bound, called, fixedPieces, calledPieces, hfixed, hbound, hcalled, hagrees⟩ :=
    agrees_assembleDynamic hresolve rfl .questionMark
      fun p hp => Entries.lookup_isSome_of_mem (hnames p hp)
  obtain rfl := Except.ok.inj (hfixed.symm.trans hbuild)
  obtain rfl := Except.ok.inj hbound
  exact ⟨header, s, _, called, fixedPieces, calledPieces, hresolve, rfl, rfl, hcalled, hagrees⟩

end StaticQuery

end AnnotatedSql
