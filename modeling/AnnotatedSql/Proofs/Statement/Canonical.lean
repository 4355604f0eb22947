import AnnotatedSql.Proofs.Statement.Token
import Mathlib.Data.List.Chain

/-!
# Canonical tokens

The tokens of a body say where its markers are in one way only. No literal text is empty, none
stands next to another, and a marker takes in all the word characters that follow its sigil. As the
tokens together are the body, nothing is lost by scanning, and scanning a template again changes
nothing.
-/

set_option autoImplicit false

namespace AnnotatedSql

open Text

/-- A text is a name that a marker may have: it starts with an ASCII letter or an underscore and
goes on with word characters. -/
def IsMarkerName (name : String) : Prop :=
  ∃ c rest, name.toList = c :: rest ∧ Lexeme.isNameStart c = true ∧ rest.all isWord = true

/-- No word goes on at the start of a text. -/
def EndsWord (cs : List Char) : Prop :=
  ∀ c ∈ cs.head?, isWord c = false

namespace Lexeme

/-- A marker that is read has a name, which ends where the marker does. -/
theorem named_of_marker? {s after name : List Char} {multiplicity : Multiplicity}
    (h : marker? s = some (.marker multiplicity name, after)) :
    IsMarkerName (String.ofList name) ∧ EndsWord after := by
  unfold marker? at h
  split at h
  · next c d rest =>
    split at h
    · split at h
      · next hstart =>
        simp only [Option.some.injEq, Prod.mk.injEq, marker.injEq] at h
        obtain ⟨⟨_, rfl⟩, rfl⟩ := h
        refine ⟨⟨d, rest.takeWhile isWord, String.toList_ofList, hstart, List.all_takeWhile⟩, ?_⟩
        intro e he
        have hhead := List.head?_dropWhile_not isWord rest
        rw [he] at hhead
        exact hhead
      · cases h
    · cases h
  · cases h

/-- The first lexeme of a text, if it is a marker, has a name, which ends where the marker does. -/
theorem named_of_next {c : Char} {rest name : List Char} {multiplicity : Multiplicity}
    (h : (next c rest).1 = .marker multiplicity name) :
    IsMarkerName (String.ofList name) ∧ EndsWord (next c rest).2 := by
  unfold next at h ⊢
  split at h
  · cases h
  · split at h
    · next found hfound =>
      obtain ⟨lexeme, after⟩ := found
      obtain rfl : lexeme = .marker multiplicity name := h
      exact named_of_marker? hfound
    · cases h

end Lexeme

namespace Token

/-- The text before the first marker is what the lexemes start with. -/
theorem passages_isPrefix (lexemes : List Lexeme) :
    (passages lexemes).1 <+: lexemes.flatMap Lexeme.text := by
  induction lexemes with
  | nil => exact List.prefix_rfl
  | cons lexeme rest ih =>
    cases lexeme with
    | plain c => exact (List.prefix_append_right_inj [c]).mpr ih
    | passage cs => exact (List.prefix_append_right_inj cs).mpr ih
    | marker multiplicity name => exact List.nil_prefix

/-- The text before the first marker goes on with no word if the whole text does not. -/
theorem endsWord_passages {cs : List Char} (h : EndsWord cs) :
    EndsWord (passages (Lexeme.scan cs)).1 := by
  have hprefix := passages_isPrefix (Lexeme.scan cs)
  rw [Lexeme.flatMap_text_scan] at hprefix
  obtain ⟨later, hlater⟩ := hprefix
  intro c hc
  apply h
  obtain ⟨others, hothers⟩ := List.head?_eq_some_iff.mp hc
  rw [← hlater, hothers]
  rfl

/-- Every marker of a text has a name, and the text after it goes on with no word. -/
theorem named_of_mem_passages {cs : List Char} :
    ∀ found ∈ (passages (Lexeme.scan cs)).2, IsMarkerName found.1.name ∧ EndsWord found.2 := by
  induction cs using Lexeme.scan.induct with
  | case1 => simp [Lexeme.scan, passages]
  | case2 c rest ih =>
    rw [Lexeme.scan_cons]
    cases hnext : (Lexeme.next c rest).1 with
    | plain d => exact ih
    | passage text => exact ih
    | marker multiplicity name =>
      obtain ⟨hname, hafter⟩ := Lexeme.named_of_next hnext
      exact List.forall_mem_cons.mpr ⟨⟨hname, endsWord_passages hafter⟩, ih⟩

/-- A token holds something: a literal text is not empty, and a marker has a name. -/
def Holds : Token → Prop
  | literal text => text ≠ ""
  | marker m => IsMarkerName m.name

/-- Two tokens may stand next to each other. Two literal texts may not, and a literal text after a
marker does not go on with its name. -/
inductive Meets : Token → Token → Prop
  | literal_marker (text : String) (m : Marker) : Meets (literal text) (marker m)
  | marker_marker (m m' : Marker) : Meets (marker m) (marker m')
  | marker_literal (m : Marker) {text : String} (ends : EndsWord text.toList) :
    Meets (marker m) (literal text)

/-- Tokens are told apart in one way. -/
structure Canonical (tokens : List Token) : Prop where
  /-- Each of them holds something. -/
  holds : ∀ t ∈ tokens, t.Holds
  /-- Each may stand next to the one after it. -/
  meets : tokens.IsChain Meets

/-- No tokens are canonical. -/
theorem canonical_nil : Canonical [] :=
  ⟨List.forall_mem_nil _, List.isChain_nil⟩

/-- A token in front of canonical ones, if it may stand next to the first of these. -/
theorem Canonical.cons {t : Token} {tokens : List Token} (h : Canonical tokens) (ht : t.Holds)
    (hmeets : ∀ u ∈ tokens.head?, t.Meets u) : Canonical (t :: tokens) :=
  ⟨List.forall_mem_cons.mpr ⟨ht, h.holds⟩, h.meets.cons hmeets⟩

/-- The text of a literal token is not empty. -/
theorem holds_literal (c : Char) (cs : List Char) : (literal (String.ofList (c :: cs))).Holds := by
  intro hempty
  have hlist := congrArg String.toList hempty
  rw [String.toList_ofList] at hlist
  cases hlist

/-- A marker may stand before what follows it. -/
theorem meets_head?_ofPassages {m : Marker} {first : List Char} (h : EndsWord first)
    (others : List (Marker × List Char)) :
    ∀ u ∈ (ofPassages first others).head?, (marker m).Meets u := by
  cases first with
  | nil =>
    cases others with
    | nil => simp [ofPassages, ofText]
    | cons other rest =>
      rintro u ⟨⟩
      exact .marker_marker m other.1
  | cons c cs =>
    rintro u ⟨⟩
    exact .marker_literal m (by rwa [String.toList_ofList])

/-- Markers with names and the texts between them make canonical tokens. -/
theorem canonical_ofPassages (first : List Char) {others : List (Marker × List Char)}
    (h : ∀ found ∈ others, IsMarkerName found.1.name ∧ EndsWord found.2) :
    Canonical (ofPassages first others) := by
  induction others generalizing first with
  | nil =>
    cases first with
    | nil => exact canonical_nil
    | cons c cs => exact canonical_nil.cons (holds_literal c cs) (by simp)
  | cons other rest ih =>
    obtain ⟨⟨hname, hends⟩, hrest⟩ := List.forall_mem_cons.mp h
    have hmarker : Canonical (marker other.1 :: ofPassages other.2 rest) :=
      (ih other.2 hrest).cons hname (meets_head?_ofPassages hends rest)
    cases first with
    | nil => exact hmarker
    | cons c cs =>
      refine hmarker.cons (holds_literal c cs) ?_
      rintro u ⟨⟩
      exact .literal_marker _ _

/-- The tokens of a body are canonical. -/
theorem canonical_tokens (body : String) : Canonical (scan body) :=
  canonical_ofPassages _ named_of_mem_passages

/-- The markers of a body have names. -/
theorem isMarkerName_of_mem_markers {body : String} {m : Marker} (h : m ∈ markers (scan body)) :
    IsMarkerName m.name := by
  obtain ⟨t, ht, hm⟩ := List.mem_filterMap.mp h
  have hholds := (canonical_tokens body).holds t ht
  cases t with
  | literal text => cases hm
  | marker k =>
    cases hm
    exact hholds

/-- Scanning loses nothing and finds canonical tokens: together they are the body, so that no other
body has the same, and the template is scanned to the tokens that it is made of. -/
theorem scan_lossless (body : String) :
    template (scan body) = body ∧ Canonical (scan body) ∧
      (∀ other, scan other = scan body → other = body) ∧
      scan (template (scan body)) = scan body := by
  refine ⟨template_scan body, canonical_tokens body, ?_, ?_⟩
  · intro other h
    calc other = template (scan other) := (template_scan other).symm
      _ = template (scan body) := by rw [h]
      _ = body := template_scan body
  · rw [template_scan]

-- The quote that opens last is never closed, so that a marker counts after it.
example : scan "':a':::b''#c_ 'd::e :f" =
    [.literal "':a'::", .marker ⟨"b", .scalar⟩, .literal "''", .marker ⟨"c_", .list⟩,
      .literal " 'd::e ", .marker ⟨"f", .scalar⟩] := by decide +kernel

end Token

end AnnotatedSql
