import AnnotatedSql.Proofs.Query.Agreement
import AnnotatedSql.Proofs.Statement.Canonical
import Mathlib.Data.List.TakeWhile

/-!
# Placeholders are read back

Whoever reads the text of a query takes all the digits after the sign of a placeholder for its
number. They are the digits of the number that was written, since no digit ever comes right after
them: not from the text of the body, where a marker takes in all the word characters that follow its
sigil, and not from the text of the next marker.
-/

set_option autoImplicit false

namespace AnnotatedSql

/-- No number goes on at the start of a text. -/
def EndsNumber (cs : List Char) : Prop :=
  ∀ c ∈ cs.head?, c.isDigit = false

/-- Where no word goes on no number does, since digits are word characters. -/
theorem EndsWord.endsNumber {cs : List Char} (h : EndsWord cs) : EndsNumber cs := by
  intro c hc
  by_contra hdigit
  rw [Bool.not_eq_false] at hdigit
  have hascii : Text.isAsciiDigit c = true := hdigit
  have hlow : c.toNat < 128 := by
    simp only [Char.isDigit, Bool.and_eq_true, decide_eq_true_eq] at hdigit
    have hnine : c.toNat ≤ 57 := hdigit.2
    omega
  have hword : Text.isWord c = true := by
    simp [Text.isWord, hlow, hascii]
  rw [h c hc] at hword
  cases hword

/-- The digits of a number are read where no other digit comes after them. -/
theorem takeWhile_isDigit_toString (number : ℕ) {rest : List Char} (h : EndsNumber rest) :
    ((toString number).toList ++ rest).takeWhile Char.isDigit = (toString number).toList := by
  have hdigits : ∀ c ∈ (toString number).toList, c.isDigit = true := by
    intro c hc
    have hrepr : (toString number).toList = Nat.toDigits 10 number := String.toList_ofList
    rw [hrepr] at hc
    exact Nat.isDigit_of_mem_toDigits (by decide) (by decide) hc
  have hrest : rest.takeWhile Char.isDigit = [] := by
    cases rest with
    | nil => rfl
    | cons c cs => rw [List.takeWhile_cons_of_neg (by simp [h c rfl])]
  rw [List.takeWhile_append_of_pos hdigits, hrest, List.append_nil]

namespace Piece

/-- After none of the placeholders among pieces does its number go on. -/
def Apart (style : PlaceholderStyle) : List Piece → Prop
  | [] => True
  | text _ :: rest => Apart style rest
  | placeholder _ :: rest => EndsNumber (writeAll style rest).toList ∧ Apart style rest

variable {style : PlaceholderStyle}

/-- A placeholder is its sign and the digits of its number. -/
theorem toList_write_placeholder (number : ℕ) :
    (write style (placeholder number)).toList = style.sign :: (toString number).toList := by
  have hdigits : (toString number).toList = Nat.toDigits 10 number := String.toList_ofList
  rw [write, PlaceholderStyle.numbered, String.toList_ofList, hdigits]

/-- No number goes on where a placeholder starts. -/
theorem endsNumber_placeholder (number : ℕ) (rest : List Piece) :
    EndsNumber (writeAll style (placeholder number :: rest)).toList := by
  have hsign : style.sign.isDigit = false := by cases style <;> rfl
  rw [writeAll_cons, String.toList_append, toList_write_placeholder]
  rintro c ⟨⟩
  exact hsign

/-- No number goes on where a null stands for an empty list. -/
theorem endsNumber_null (rest : List Piece) :
    EndsNumber (writeAll style (text "NULL" :: rest)).toList := by
  have hnull : "NULL".toList = ['N', 'U', 'L', 'L'] := by decide
  rw [writeAll_cons, String.toList_append, write, hnull]
  rintro c ⟨⟩
  rfl

/-- No number goes on at a comma between two placeholders. -/
theorem endsNumber_comma (rest : List Piece) :
    EndsNumber (writeAll style (text ", " :: rest)).toList := by
  have hcomma : ", ".toList = [',', ' '] := by decide
  rw [writeAll_cons, String.toList_append, write, hcomma]
  rintro c ⟨⟩
  rfl

/-- Placeholders with commas between them are apart, before pieces at which no number goes on. -/
theorem apart_intersperse (numbers : List ℕ) {rest : List Piece} (h : Apart style rest)
    (hends : EndsNumber (writeAll style rest).toList) :
    Apart style ((numbers.map placeholder).intersperse (text ", ") ++ rest) := by
  induction numbers with
  | nil => exact h
  | cons number others ih =>
    cases others with
    | nil => exact ⟨hends, h⟩
    | cons next others => exact ⟨endsNumber_comma _, ih⟩

/-- The pieces of a token are apart, before pieces at which no number goes on if the token is a
marker. -/
theorem StandFor.apart {count : String → ℕ} {token : Token} {group rest : List Piece}
    (h : StandFor count token group) (hrest : Apart style rest)
    (hends : ∀ m, token = .marker m → EndsNumber (writeAll style rest).toList) :
    Apart style (group ++ rest) := by
  cases h with
  | literal text => exact hrest
  | scalar name number => exact ⟨hends _ rfl, hrest⟩
  | null empty => exact hrest
  | list length_eq ne_nil => exact apart_intersperse _ hrest (hends _ rfl)

/-- No number goes on at the pieces of a token that may follow a marker. -/
theorem StandFor.endsNumber {count : String → ℕ} {m : Marker} {token : Token}
    {group : List Piece} (h : StandFor count token group) (hmeets : (Token.marker m).Meets token)
    (hholds : token.Holds) (rest : List Piece) :
    EndsNumber (writeAll style (group ++ rest)).toList := by
  cases h with
  | scalar name number => exact endsNumber_placeholder number rest
  | null empty => exact endsNumber_null rest
  | @list name numbers length_eq ne_nil =>
    cases numbers with
    | nil => exact absurd rfl ne_nil
    | cons number others =>
      cases others with
      | nil => exact endsNumber_placeholder number rest
      | cons next others => exact endsNumber_placeholder number _
  | literal text =>
    cases hmeets with
    | marker_literal m ends =>
      -- The text holds something, so that its own start is the start of all that follows.
      have hne : text.toList ≠ [] := fun hnil => hholds (String.toList_inj.mp hnil)
      obtain ⟨c, cs, hcs⟩ := List.exists_cons_of_ne_nil hne
      rw [List.singleton_append, writeAll_cons, String.toList_append]
      intro d hd
      simp only [write, hcs, List.cons_append, List.head?_cons, Option.mem_def,
        Option.some.injEq] at hd
      exact ends.endsNumber d (by rw [hcs]; simpa using hd)

/-- The pieces of canonical tokens are apart. -/
theorem apart_of_canonical {tokens : List Token} {groups : List (List Piece)}
    (h : List.Forall₂ (fun token group => ∃ count, StandFor count token group) tokens groups)
    (hcanonical : Token.Canonical tokens) : Apart style groups.flatten := by
  induction h with
  | nil => trivial
  | @cons token group tokens groups hfirst hrest ih =>
    obtain ⟨count, hstands⟩ := hfirst
    obtain ⟨_, hholds⟩ := List.forall_mem_cons.mp hcanonical.holds
    have hlater := ih ⟨hholds, hcanonical.meets.tail⟩
    rw [List.flatten_cons]
    apply hstands.apart hlater
    rintro m rfl
    cases hrest with
    | nil =>
      rintro c ⟨⟩
    | @cons next nextGroup _ _ hnext _ =>
      obtain ⟨_, hnextStands⟩ := hnext
      have hmeets := List.isChain_cons_cons.mp hcanonical.meets
      rw [List.flatten_cons]
      exact hnextStands.endsNumber hmeets.1 (hholds next List.mem_cons_self) _

/-- The number of a placeholder that is apart is read back, wherever it stands. -/
theorem read_of_apart {before after : List Piece} {number : ℕ}
    (h : Apart style (before ++ placeholder number :: after)) :
    ∃ rest, (writeAll style (before ++ placeholder number :: after)).toList =
        (writeAll style before).toList ++ style.sign :: rest ∧
      rest.takeWhile Char.isDigit = (toString number).toList := by
  induction before with
  | nil =>
    refine ⟨(toString number).toList ++ (writeAll style after).toList, ?_,
      takeWhile_isDigit_toString number h.1⟩
    rw [List.nil_append, writeAll_cons, String.toList_append, toList_write_placeholder]
    rfl
  | cons piece before ih =>
    have hrest : Apart style (before ++ placeholder number :: after) := by
      cases piece with
      | text text => exact h
      | placeholder other => exact h.2
    obtain ⟨rest, htext, hread⟩ := ih hrest
    refine ⟨rest, ?_, hread⟩
    rw [List.cons_append, writeAll_cons, writeAll_cons, String.toList_append, htext,
      String.toList_append, List.append_assoc]

end Piece

/-- The text of a query with the given numbers is read back, where groups of pieces stand for the
tokens. -/
structure ReadsBack (style : PlaceholderStyle) (tokens : List Token) (numbers : List ℕ)
    (groups : List (List Piece)) (sql : String) : Prop where
  /-- The text is written from the pieces. -/
  sql_eq : sql = Piece.writeAll style groups.flatten
  /-- The pieces stand for the tokens, group by group. -/
  stand : List.Forall₂ (fun token group => ∃ count, Piece.StandFor count token group) tokens groups
  /-- The placeholders have the numbers. -/
  numbers_eq : Piece.numbers groups.flatten = numbers
  /-- After the sign of each placeholder come the digits of its number, and no other digit. -/
  read : ∀ before number after, groups.flatten = before ++ .placeholder number :: after →
    ∃ rest, sql.toList = (Piece.writeAll style before).toList ++ style.sign :: rest ∧
      rest.takeWhile Char.isDigit = (toString number).toList

/-- What is written from pieces that stand for canonical tokens is read back. -/
theorem readsBack_of_stand {style : PlaceholderStyle} {tokens : List Token}
    {groups : List (List Piece)}
    (h : List.Forall₂ (fun token group => ∃ count, Piece.StandFor count token group) tokens groups)
    (hcanonical : Token.Canonical tokens) :
    ReadsBack style tokens (Piece.numbers groups.flatten) groups
      (Piece.writeAll style groups.flatten) := by
  refine ⟨rfl, h, rfl, ?_⟩
  intro before number after hsplit
  have hapart : Piece.Apart style groups.flatten := Piece.apart_of_canonical h hcanonical
  rw [hsplit] at hapart ⊢
  exact Piece.read_of_apart hapart

namespace BoundQuery

/-- The texts of tokens after so many values are written from pieces that stand for them, numbered
in order. What is read of a list may be less each time, if it can be read only once. -/
theorem assembleFrom_stand {style : PlaceholderStyle} {before : ℕ}
    {values : List (String × Value)} {tokens : List Token} {texts : List String}
    {bound : List Value} (h : assembleFrom style before values tokens = .ok (texts, bound)) :
    ∃ groups, texts = groups.map (Piece.writeAll style) ∧
      List.Forall₂ (fun token group => ∃ count, Piece.StandFor count token group) tokens groups ∧
      Piece.numbers groups.flatten = List.range' (before + 1) bound.length := by
  induction tokens generalizing before values texts bound with
  | nil =>
    cases h
    exact ⟨[], rfl, .nil, rfl⟩
  | cons token rest ih =>
    cases token with
    | literal text =>
      obtain ⟨⟨later, laterBound⟩, hrest, heq⟩ := Outcome.map_eq_ok_iff.mp h
      cases heq
      obtain ⟨groups, rfl, hstand, hnumbers⟩ := ih hrest
      refine ⟨[.text text] :: groups, ?_, .cons ⟨fun _ => 0, .literal text⟩ hstand, hnumbers⟩
      rw [List.map_cons, Piece.writeAll_singleton]
      rfl
    | marker m =>
      obtain ⟨name, multiplicity⟩ := m
      unfold assembleFrom at h
      split at h
      · cases h
      · cases multiplicity with
        | scalar =>
          dsimp only at h
          obtain ⟨⟨later, laterBound⟩, hrest, heq⟩ := Outcome.map_eq_ok_iff.mp h
          cases heq
          obtain ⟨groups, rfl, hstand, hnumbers⟩ := ih hrest
          refine ⟨[.placeholder (before + 1)] :: groups, ?_,
            .cons ⟨fun _ => 0, .scalar name (before + 1)⟩ hstand, ?_⟩
          · rw [List.map_cons, Piece.writeAll_singleton, Piece.write,
              ← style.render_eq_numbered]
          · rw [List.flatten_cons, Piece.numbers_append, hnumbers]
            rfl
        | list =>
          dsimp only at h
          split at h
          · cases h
          · next elements helements =>
            obtain ⟨⟨later, laterBound⟩, hrest, heq⟩ := Outcome.map_eq_ok_iff.mp h
            cases heq
            obtain ⟨groups, rfl, hstand, hnumbers⟩ := ih hrest
            let count : String → ℕ := fun _ => elements.length
            refine ⟨markerPieces count before ⟨name, .list⟩ :: groups, ?_,
              .cons ⟨count, standFor_markerPieces count before ⟨name, .list⟩⟩ hstand, ?_⟩
            · rw [List.map_cons, writeAll_markerPieces]
              rfl
            · rw [List.flatten_cons, Piece.numbers_append, numbers_markerPieces, hnumbers,
                List.length_append, ← List.range'_append_1, Nat.add_right_comm]
              rfl

/-- A query that is built for one call of a statement with canonical tokens is read back. Its
numbers are those from one on. -/
theorem readsBack_assembleDynamic {s : Statement} {style : PlaceholderStyle}
    {values : List (String × Value)} {q : BoundQuery} (hcanonical : Token.Canonical s.tokens)
    (h : assembleDynamic s values style = .ok q) :
    ∃ groups, ReadsBack style s.tokens (List.range' 1 q.parameters.length) groups q.sql := by
  obtain ⟨⟨texts, bound⟩, hfrom, heq⟩ := Outcome.map_eq_ok_iff.mp h
  cases heq
  obtain ⟨groups, rfl, hstand, hnumbers⟩ := assembleFrom_stand hfrom
  have hread : ReadsBack style s.tokens (Piece.numbers groups.flatten) groups
      (Piece.writeAll style groups.flatten) := readsBack_of_stand hstand hcanonical
  rw [hnumbers, Nat.zero_add, Piece.writeAll_flatten] at hread
  exact ⟨groups, hread⟩

end BoundQuery

namespace StaticQuery

variable {s : Statement}

/-- In a statement without lists each token has a single piece that stands for it. -/
theorem stand_numberedPiece (hserves : Serves s.parameters s.tokens)
    (hstatic : s.isDynamic = false) :
    List.Forall₂ (fun token group => ∃ count, Piece.StandFor count token group) s.tokens
      (s.tokens.map fun token => [numberedPiece s token]) := by
  rw [List.forall₂_map_right_iff, List.forall₂_same]
  intro token htoken
  refine ⟨fun _ => 0, ?_⟩
  cases token with
  | literal text => exact .literal text
  | marker m =>
    have hscalar := Statement.scalar_of_serves hserves hstatic m (mem_markers_of_mem htoken)
    obtain ⟨name, multiplicity⟩ := m
    obtain rfl : multiplicity = .scalar := hscalar
    exact .scalar name _

/-- The numbers of the pieces are those of the markers, in the order of the body. -/
theorem numbers_numberedPiece (hserves : Serves s.parameters s.tokens) :
    List.Forall₂ (fun m (number : ℕ) => index? s m.name = some (number : ℤ))
      (Token.markers s.tokens) (Piece.numbers (s.tokens.map (numberedPiece s))) := by
  have hindex : ∀ m ∈ Token.markers s.tokens,
      index? s m.name = some ((((index? s m.name).getD 0).toNat : ℕ) : ℤ) := by
    intro m hm
    obtain ⟨i, _, _, _, hi⟩ := index?_of_serves hserves hm
    rw [hi, Option.getD_some]
    congr 1
  have hnumbers : ∀ tokens : List Token, Piece.numbers (tokens.map (numberedPiece s)) =
      (Token.markers tokens).map fun m => ((index? s m.name).getD 0).toNat := by
    intro tokens
    induction tokens with
    | nil => rfl
    | cons token rest ih =>
      cases token with
      | literal text => exact ih
      | marker m => exact congrArg (_ :: ·) ih
  rw [hnumbers, List.forall₂_map_right_iff, List.forall₂_same]
  exact hindex

/-- The fixed text of a statement with canonical tokens, whose parameters serve them, is read back.
The number of each marker is that of its parameter. -/
theorem readsBack_build {style : PlaceholderStyle} {q : StaticQuery}
    (hserves : Serves s.parameters s.tokens) (hcanonical : Token.Canonical s.tokens)
    (hstatic : s.isDynamic = false) (h : build s style = .ok q) :
    ∃ groups numbers, ReadsBack style s.tokens numbers groups q.sql ∧
      List.Forall₂ (fun m (number : ℕ) => index? s m.name = some (number : ℤ))
        (Token.markers s.tokens) numbers := by
  let groups := s.tokens.map fun token => [numberedPiece s token]
  have hflatten : groups.flatten = s.tokens.map (numberedPiece s) :=
    List.map_eq_flatMap.symm
  have hread : ReadsBack style s.tokens (Piece.numbers groups.flatten) groups
      (Piece.writeAll style groups.flatten) :=
    readsBack_of_stand (stand_numberedPiece hserves hstatic) hcanonical
  refine ⟨groups, Piece.numbers groups.flatten, ?_, ?_⟩
  · have hsql : q.sql = Piece.writeAll style groups.flatten := by
      have hbuild := (build_of_serves hserves hstatic style).symm.trans h
      cases hbuild
      rw [hflatten, Piece.writeAll, map_write_numberedPiece hserves]
    rw [hsql]
    exact hread
  · rw [hflatten]
    exact numbers_numberedPiece hserves

end StaticQuery

/-- The statement of a header has canonical tokens. -/
theorem Header.canonical_of_resolve {header : Header} {unused : UnusedPolicy} {s : Statement}
    (hresolve : header.resolve unused = .ok s) : Token.Canonical s.tokens := by
  obtain ⟨found, _, rfl⟩ := Outcome.map_eq_ok_iff.mp hresolve
  exact Token.canonical_tokens header.body

namespace BoundQuery

/-- The query of a statement that a header is resolved to is read back, for whatever values. The
numbers are those from one on, or those of the parameters if the text is fixed. -/
theorem readsBack_assemble {header : Header} {unused : UnusedPolicy} {s : Statement}
    {style : PlaceholderStyle} {values : List (String × Value)} {q : BoundQuery}
    (hresolve : header.resolve unused = .ok s) (h : assemble s values style = .ok q) :
    ∃ groups numbers, ReadsBack style s.tokens numbers groups q.sql ∧
      (s.isDynamic = true → numbers = List.range' 1 q.parameters.length) ∧
      (s.isDynamic = false →
        List.Forall₂ (fun m (number : ℕ) => StaticQuery.index? s m.name = some (number : ℤ))
          (Token.markers s.tokens) numbers) := by
  have hcanonical := header.canonical_of_resolve hresolve
  unfold assemble at h
  split at h
  · next hdynamic =>
    obtain ⟨groups, hread⟩ := readsBack_assembleDynamic hcanonical h
    refine ⟨groups, _, hread, fun _ => rfl, fun hstatic => ?_⟩
    rw [hdynamic] at hstatic
    cases hstatic
  · next hdynamic =>
    have hstatic : s.isDynamic = false := Bool.not_eq_true _ ▸ hdynamic
    split at h
    · cases h
    · next fixed hfixed =>
      obtain ⟨bound, _, rfl⟩ := Outcome.map_eq_ok_iff.mp h
      obtain ⟨groups, numbers, hread, hnumbers⟩ := StaticQuery.readsBack_build
        (header.serves_of_resolve hresolve) hcanonical hstatic hfixed
      refine ⟨groups, numbers, hread, fun hyes => ?_, fun _ => hnumbers⟩
      rw [hstatic] at hyes
      cases hyes

/-- Three markers without anything between them, the last of them of an empty list: there are
three placeholders, and the null takes no number. -/
theorem readsBack_assemble_adjacent :
    ∃ (header : Header) (s : Statement) (groups : List (List Piece)),
      header.body = "select :a:b#c:d" ∧ header.resolve .error = .ok s ∧
      ReadsBack .colon s.tokens [1, 2, 3] groups "select :1:2NULL:3" := by
  let header : Header :=
    { name := "pick"
      kind := .query
      declarations := []
      doc := ""
      body := "select :a:b#c:d"
      bodyLine := 2
      block := ⟨"", 1, 2, "<string>"⟩ }
  let s : Statement :=
    { name := "pick"
      kind := .query
      parameters := [⟨"a", .scalar, 0, none, true⟩, ⟨"b", .scalar, 1, none, true⟩,
        ⟨"c", .list, 2, none, true⟩, ⟨"d", .scalar, 3, none, true⟩]
      tokens := [.literal "select ", .marker ⟨"a", .scalar⟩, .marker ⟨"b", .scalar⟩,
        .marker ⟨"c", .list⟩, .marker ⟨"d", .scalar⟩]
      doc := ""
      block := some ⟨"", 1, 2, "<string>"⟩ }
  have hresolve : header.resolve .error = .ok s := by decide +kernel
  have hassemble : assemble s
      [("a", .int 7), ("b", .text "x"), ("c", .list []), ("d", .none)] .colon =
        .ok ⟨"select :1:2NULL:3", [.int 7, .text "x", .none]⟩ := by rfl
  obtain ⟨groups, numbers, hread, hdynamic, _⟩ := readsBack_assemble hresolve hassemble
  obtain rfl := hdynamic rfl
  exact ⟨header, s, groups, rfl, hresolve, hread⟩

end BoundQuery

end AnnotatedSql
