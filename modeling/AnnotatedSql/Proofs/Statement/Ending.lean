import AnnotatedSql.Proofs.Statement.Sections
import AnnotatedSql.Proofs.Text.Blanks
import AnnotatedSql.Proofs.Text.Lines

/-!
# Texts with a terminator line after them

A terminator without blanks around it ends some line exactly when it fits on one itself. Written on
a line of its own after a text, it then ends the text. A terminator with a newline in it, or of
bytes, ends no line of any text, and every text is left over.
-/

set_option autoImplicit false

namespace AnnotatedSql

open Text

/-- Stripping a line puts no newline into it. -/
theorem Text.newline_not_mem_strip {line : String} (h : '\n' ∉ line.toList) :
    '\n' ∉ (strip line).toList := by
  rw [strip, String.toList_ofList]
  exact fun hmem => h (mem_of_mem_trim hmem)

namespace Terminator

/-- Stripping again changes nothing. -/
theorem strip_strip (t : Terminator) : t.strip.strip = t.strip := by
  cases t with
  | text marker => exact congrArg text (Text.strip_strip marker)
  | bytes marker => exact congrArg bytes (stripBytes_stripBytes marker)

/-- The terminator fits on a line: it is a text, and no newline is in it. -/
def OnOneLine : Terminator → Prop
  | text marker => '\n' ∉ marker.toList
  | bytes _ => False

instance : DecidablePred OnOneLine
  | text marker => inferInstanceAs (Decidable ('\n' ∉ marker.toList))
  | bytes _ => inferInstanceAs (Decidable False)

/-- A stripped terminator ends some line exactly when it fits on one. -/
theorem exists_ends_iff {t : Terminator} (hstrip : t.strip = t) :
    (∃ line : String, '\n' ∉ line.toList ∧ t.ends line = true) ↔ t.OnOneLine := by
  cases t with
  | text marker =>
    constructor
    · rintro ⟨line, hline, hends⟩
      have hmarker : Text.strip line = marker := by simpa [ends] using hends
      exact hmarker ▸ newline_not_mem_strip hline
    · intro hmarker
      have hkept : Text.strip marker = marker := text.inj hstrip
      exact ⟨marker, hmarker, by simp [ends, hkept]⟩
  | bytes marker =>
    constructor
    · rintro ⟨line, -, hends⟩
      cases hends
    · intro hfalse
      exact hfalse.elim

/-- A stripped terminator that fits on no line ends no line of a text. -/
theorem ends_eq_false {t : Terminator} (hstrip : t.strip = t) (h : ¬t.OnOneLine)
    {source line : String} (hline : line ∈ lines source) : t.ends line = false := by
  rw [← Bool.not_eq_true]
  intro hends
  exact h ((exists_ends_iff hstrip).mp ⟨line, newline_not_mem_of_mem_lines hline, hends⟩)

end Terminator

variable {text marker sourceName : String} {t : Terminator}

/-- A text no line of which ends anything is left over, and that is an error unless it is blank. -/
theorem segment_of_not_ends (hstrip : t.strip = t) (h : ∀ line ∈ lines text, t.ends line = false) :
    segment text t sourceName =
      { blocks := []
        unterminated := (Section.block? sourceName 1 (lines text)).map fun b =>
          { problem := .unterminated t, statement := none, location := some b.location } } := by
  rw [segment_eq, hstrip, Section.readFrom_of_not_ends h]

/-- The text with the marker on a line of its own after it. -/
def ended (text marker : String) : String :=
  text ++ "\n" ++ marker ++ "\n"

/-- The marker is a line of its own, and an empty one comes after it. -/
theorem lines_ended (h : '\n' ∉ marker.toList) :
    lines (ended text marker) = lines text ++ [marker, ""] := by
  have hempty : ended text marker = text ++ "\n" ++ (marker ++ "\n" ++ "") := by
    simp only [ended, String.append_assoc, String.append_empty]
  have hmarker : lines marker = [marker] := by
    have hone := lines_unlines (List.cons_ne_nil marker []) (by simpa using h)
    rwa [unlines, String.intercalate_singleton] at hone
  rw [hempty, lines_append, lines_append, hmarker]
  rfl

/-- A text that is not ended before becomes one block when its terminator stands after it, unless it
is blank. -/
theorem segment_ended (hstrip : strip marker = marker) (hmarker : '\n' ∉ marker.toList)
    (h : ∀ line ∈ lines text, strip line ≠ marker) :
    segment (ended text marker) (.text marker) sourceName =
      { blocks := (Section.block? sourceName 1 (lines text)).toList, unterminated := none } := by
  have hfront : ∀ line ∈ lines text, (Terminator.text marker).ends line = false := by
    intro line hline
    simpa [Terminator.ends] using h line hline
  have hends : (Terminator.text marker).ends marker = true := by simp [Terminator.ends, hstrip]
  have hblank : ∀ line ∈ [""], Section.isBlankLine line = true :=
    List.forall_mem_singleton.mpr rfl
  have hterminator : (Terminator.text marker).strip = .text marker :=
    congrArg Terminator.text hstrip
  rw [segment_eq, hterminator, lines_ended hmarker, Section.readFrom_append [""] hfront hends,
    Section.readFrom_of_blank hblank, List.append_nil]
  rfl

/-- The text waits for the marker: it is not blank, and no line of it is the marker, blanks apart.
-/
structure Awaits (text marker : String) : Prop where
  filled : ∃ line ∈ lines text, Section.isBlankLine line = false
  not_ended : ∀ line ∈ lines text, strip line ≠ marker

/-- A text that is not blank waits for every marker with a newline in it. -/
theorem awaits_of_newline (hfilled : ∃ line ∈ lines text, Section.isBlankLine line = false)
    (hmarker : '\n' ∈ marker.toList) : Awaits text marker := by
  refine ⟨hfilled, ?_⟩
  rintro line hline rfl
  exact newline_not_mem_strip (newline_not_mem_of_mem_lines hline) hmarker

/-- A text that waits for a marker has a block. -/
theorem Awaits.exists_block (h : Awaits text marker) (sourceName : String) :
    ∃ b, Section.block? sourceName 1 (lines text) = some b := by
  obtain ⟨line, hline, hfilled⟩ := h.filled
  apply Option.ne_none_iff_exists'.mp
  intro hnone
  rw [Section.block?_eq_none_iff.mp hnone line hline] at hfilled
  cases hfilled

/-- Written on a line of its own after any text that waits for it, the terminator makes the text one
block, and nothing is left over. -/
def Terminator.Works (t : Terminator) : Prop :=
  ∃ marker, t = .text marker ∧ ∀ text sourceName, Awaits text marker →
    ∃ b, Section.block? sourceName 1 (lines text) = some b ∧
      segment (ended text marker) t sourceName = { blocks := [b], unterminated := none }

/-- A stripped terminator that fits on a line works. -/
theorem Terminator.works_of_onOneLine (hstrip : t.strip = t) (h : t.OnOneLine) : t.Works := by
  cases t with
  | text marker =>
    refine ⟨marker, rfl, ?_⟩
    intro text sourceName hawaits
    obtain ⟨b, hb⟩ := hawaits.exists_block sourceName
    refine ⟨b, hb, ?_⟩
    rw [segment_ended (Terminator.text.inj hstrip) h hawaits.not_ended, hb]
    rfl
  | bytes marker => exact h.elim

/-- A stripped terminator that works fits on a line: one that does not ends no text of a letter. -/
theorem Terminator.onOneLine_of_works (hstrip : t.strip = t) (h : t.Works) : t.OnOneLine := by
  obtain ⟨marker, rfl, hworks⟩ := h
  by_contra hline
  have hfilled : ∃ line ∈ lines "x", Section.isBlankLine line = false := by decide
  obtain ⟨b, -, hone⟩ := hworks "x" "" (awaits_of_newline hfilled (not_not.mp hline))
  have hnone : (segment (ended "x" marker) (.text marker) "").blocks = [] := by
    rw [segment_of_not_ends hstrip fun line hmem => Terminator.ends_eq_false hstrip hline hmem]
  rw [hone] at hnone
  exact List.cons_ne_nil b [] hnone

/-- A stripped terminator works exactly when it fits on a line. -/
theorem Terminator.works_iff_onOneLine (hstrip : t.strip = t) : t.Works ↔ t.OnOneLine :=
  ⟨onOneLine_of_works hstrip, works_of_onOneLine hstrip⟩

end AnnotatedSql
