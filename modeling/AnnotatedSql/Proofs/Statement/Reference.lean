import AnnotatedSql.Proofs.Statement.Canonical
import AnnotatedSql.Proofs.Statement.Header
import Mathlib.Data.List.TakeWhile

/-!
# Markers of declared parameters

A declaration names its parameter as header lines name things, and a body refers to the parameter by
a marker. Header lines ignore case, so that a name in them may start with one of four letters
outside of ASCII. No marker is called by such a name. Every other name that is declared can be
referred to.
-/

set_option autoImplicit false

namespace AnnotatedSql

open Text

/-- The marker of a declared parameter. -/
def Declaration.marker (d : Declaration) : Marker :=
  ⟨d.name, d.multiplicity⟩

/-- The letters outside of ASCII that a name in a header may start with. -/
def foreignStarts : List Char :=
  ['\u0130', '\u0131', '\u017F', '\u212A']

/-- A name starts with a letter outside of ASCII. -/
def StartsForeign (name : String) : Prop :=
  ∃ c ∈ foreignStarts, name.toList.head? = some c

instance (name : String) : Decidable (StartsForeign name) :=
  List.decidableBEx (fun c => name.toList.head? = some c) foreignStarts

/-- Names in headers start like those of markers, or with one of the letters outside of ASCII. -/
theorem isHeaderNameStart_iff {c : Char} :
    isHeaderNameStart c = true ↔ Lexeme.isNameStart c = true ∨ c ∈ foreignStarts := by
  simp only [isHeaderNameStart, Lexeme.isNameStart, foreignStarts, Bool.or_eq_true, beq_iff_eq,
    List.mem_cons, List.not_mem_nil, or_false, or_assoc]

/-- No marker has a name that starts with a letter outside of ASCII. -/
theorem isNameStart_of_mem_foreignStarts {c : Char} (h : c ∈ foreignStarts) :
    Lexeme.isNameStart c = false := by
  have hall : foreignStarts.all (fun d => !Lexeme.isNameStart d) = true := by decide
  simpa using List.all_eq_true.mp hall c h

/-- A name of a header is one that a marker may have, unless it starts with a letter outside of
ASCII. -/
theorem IsHeaderName.isMarkerName_iff {name : String} (h : IsHeaderName name) :
    IsMarkerName name ↔ ¬ StartsForeign name := by
  obtain ⟨c, rest, hname, hstart, hword⟩ := h
  constructor
  · rintro ⟨d, rest', hname', hstart', _⟩ ⟨e, he, hhead⟩
    rw [hname', List.head?_cons, Option.some.injEq] at hhead
    rw [hhead, isNameStart_of_mem_foreignStarts he] at hstart'
    cases hstart'
  · intro hforeign
    rcases isHeaderNameStart_iff.mp hstart with hascii | hmem
    · exact ⟨c, rest, hname, hascii, hword⟩
    · exact absurd ⟨c, hmem, by rw [hname, List.head?_cons]⟩ hforeign

namespace Lexeme

/-- A word character is a lexeme by itself. -/
theorem next_of_isWord {c : Char} (h : isWord c = true) (rest : List Char) :
    next c rest = (plain c, rest) := by
  obtain ⟨hsingle, hdouble, hhyphen, hslash, hcolon, hnumber⟩ := ne_of_isWord h
  have hpassage : passage? (c :: rest) = none := by
    simp [passage?, hsingle, hdouble, hhyphen, hslash, hcolon]
  have hmarker : marker? (c :: rest) = none := by
    cases rest with
    | nil => rfl
    | cons d rest => simp [marker?, Multiplicity.ofSigil?, hcolon, hnumber]
  rw [next, hpassage, hmarker]

/-- The lexemes of a word are its characters. -/
theorem scan_of_isWord {cs : List Char} (h : ∀ c ∈ cs, isWord c = true) :
    scan cs = cs.map plain := by
  induction cs with
  | nil => simp [scan]
  | cons c rest ih =>
    obtain ⟨hc, hrest⟩ := List.forall_mem_cons.mp h
    rw [scan_cons, next_of_isWord hc, ih hrest, List.map_cons]

/-- A sigil that no colon follows is no cast. -/
theorem passage?_sigil (m : Multiplicity) {c : Char} (hc : c ≠ ':') (rest : List Char) :
    passage? (m.sigil :: c :: rest) = none := by
  cases m with
  | scalar => simp [Multiplicity.sigil, passage?, hc]
  | list => rfl

/-- A sigil with the name of a marker is that marker. -/
theorem scan_of_isNameStart (m : Multiplicity) {c : Char} {rest : List Char}
    (hc : isNameStart c = true) (hrest : ∀ d ∈ rest, isWord d = true) :
    scan (m.sigil :: c :: rest) = [marker m (c :: rest)] := by
  have hcolon : c ≠ ':' := by
    rintro rfl
    cases hc
  have hnext : next m.sigil (c :: rest) = (marker m (c :: rest), []) := by
    have htake : rest.takeWhile isWord = rest := List.takeWhile_eq_self_iff.mpr hrest
    have hdrop : rest.dropWhile isWord = [] := List.dropWhile_eq_nil_iff.mpr hrest
    simp [next, passage?_sigil m hcolon, marker?, hc, htake, hdrop]
  rw [scan_cons, hnext, scan]

/-- A sigil with a word that is no name of a marker is no marker. -/
theorem scan_of_not_isNameStart (m : Multiplicity) {c : Char} {rest : List Char}
    (hc : isNameStart c = false) (hword : isWord c = true)
    (hrest : ∀ d ∈ rest, isWord d = true) :
    scan (m.sigil :: c :: rest) = (m.sigil :: c :: rest).map plain := by
  obtain ⟨-, -, -, -, hcolon, -⟩ := ne_of_isWord hword
  have hnext : next m.sigil (c :: rest) = (plain m.sigil, c :: rest) := by
    simp [next, passage?_sigil m hcolon, marker?, hc]
  rw [scan_cons, hnext, scan_of_isWord (List.forall_mem_cons.mpr ⟨hword, hrest⟩)]
  rfl

end Lexeme

namespace Token

/-- Characters without a marker are all text. -/
theorem passages_map_plain (cs : List Char) : passages (cs.map .plain) = (cs, []) := by
  induction cs with
  | nil => rfl
  | cons c rest ih => rw [List.map_cons, passages, ih]

/-- A marker that has the name of one is scanned as it is. -/
theorem scan_of_isMarkerName {m : Marker} (h : IsMarkerName m.name) :
    scan m.text = [marker m] := by
  obtain ⟨c, rest, hname, hstart, hword⟩ := h
  unfold scan
  rw [Marker.toList_text, hname,
    Lexeme.scan_of_isNameStart m.multiplicity hstart (List.all_eq_true.mp hword), ← hname]
  simp [passages, ofPassages, ofText]

/-- A sigil with a name that starts with a letter outside of ASCII is scanned as text. -/
theorem scan_of_startsForeign {m : Marker} (hname : IsHeaderName m.name)
    (hforeign : StartsForeign m.name) : scan m.text = [literal m.text] := by
  obtain ⟨c, rest, hlist, _, hword⟩ := hname
  obtain ⟨d, hd, hhead⟩ := hforeign
  obtain rfl : c = d := by simpa [hlist] using hhead
  have hall : foreignStarts.all isWord = true := by decide +kernel
  have hc : isWord c = true := List.all_eq_true.mp hall c hd
  have htext : m.multiplicity.sigil :: c :: rest = m.text.toList := by
    rw [Marker.toList_text, hlist]
  unfold scan
  rw [← htext, Lexeme.scan_of_not_isNameStart m.multiplicity
    (isNameStart_of_mem_foreignStarts hd) hc (List.all_eq_true.mp hword), passages_map_plain]
  simp [ofPassages, ofText, htext]

end Token

namespace Declaration

/-- A declared parameter can be referred to exactly when its name does not start with a letter
outside of ASCII: its sigil and name are its marker then. Otherwise they are text, and no body has
its marker. -/
theorem scan_marker_iff {line : String} {location : Option String} {d : Declaration}
    (h : parse line location = .ok d) :
    (Token.scan d.marker.text = [.marker d.marker] ↔ ¬ StartsForeign d.name) ∧
      (StartsForeign d.name → Token.scan d.marker.text = [.literal d.marker.text] ∧
        ∀ body, d.marker ∉ Token.markers (Token.scan body)) := by
  have hname : IsHeaderName d.name := isHeaderName_of_declaration h
  refine ⟨⟨?_, ?_⟩, ?_⟩
  · intro hscan hforeign
    have htext : Token.scan d.marker.text = [.literal d.marker.text] :=
      Token.scan_of_startsForeign hname hforeign
    rw [hscan] at htext
    cases htext
  · intro hforeign
    exact Token.scan_of_isMarkerName (hname.isMarkerName_iff.mpr hforeign)
  · intro hforeign
    refine ⟨Token.scan_of_startsForeign hname hforeign, ?_⟩
    intro body hmem
    have hmarker : IsMarkerName d.name := Token.isMarkerName_of_mem_markers hmem
    exact hname.isMarkerName_iff.mp hmarker hforeign

/-- A name with letters of other scripts after its first is referred to. -/
theorem scan_marker_letters :
    parse " --PARAM: _\u00B2\u212A\u4E2D#( f64 ) " none =
        .ok ⟨"_\u00B2\u212A\u4E2D", "f64", .list⟩ ∧
      Token.scan "#_\u00B2\u212A\u4E2D" = [.marker ⟨"_\u00B2\u212A\u4E2D", .list⟩] := by
  have hparse : parse " --PARAM: _\u00B2\u212A\u4E2D#( f64 ) " none =
      .ok ⟨"_\u00B2\u212A\u4E2D", "f64", .list⟩ := by decide +kernel
  exact ⟨hparse, (scan_marker_iff hparse).1.mpr (by decide)⟩

/-- A parameter that is called by the sign for kelvin is declared, and cannot be referred to. -/
theorem scan_marker_kelvin :
    ¬ ∀ (line : String) (location : Option String) (d : Declaration),
      parse line location = .ok d → Token.scan d.marker.text = [.marker d.marker] := by
  intro h
  have hparse : parse "-- param: \u212A : f64" none = .ok ⟨"\u212A", "f64", .scalar⟩ := by
    decide +kernel
  have hscan := h _ _ _ hparse
  revert hscan
  decide +kernel

end Declaration

end AnnotatedSql
