import AnnotatedSql.Proofs.Outcome
import AnnotatedSql.Proofs.Statement.Ending
import AnnotatedSql.Settings

/-!
# Terminators that settings accept

Settings are made from values and changed by making them again, and every time the terminator is
stripped. So the terminator of settings works exactly when it fits on a line, however they were made
and changed. A newline inside it is not refused: such settings leave over every text.
-/

set_option autoImplicit false

namespace AnnotatedSql

open Text

namespace Settings

/-- Settings that were made from values, or from such settings by replacing some. -/
inductive Reachable : Settings → Prop where
  | made {values : List (String × Value)} {s : Settings} : make values = .ok s → Reachable s
  | replaced {s later : Settings} {changes : List (String × Value)} :
      Reachable s → s.replace changes = .ok later → Reachable later

/-- A terminator is accepted unless it is blank, and then without the blanks around it. -/
theorem terminatorOf_eq_ok_iff {value : Value} {t : Terminator} :
    terminatorOf value = .ok t ↔
      ∃ given, Terminator.ofValue? value = some given ∧ given.strip.isEmpty = false ∧
        given.strip = t := by
  unfold terminatorOf
  cases Terminator.ofValue? value with
  | none => simp
  | some given =>
    cases hempty : given.strip.isEmpty with
    | true => simp [hempty]
    | false => simp [hempty]

/-- Whatever the settings were before, the terminator of those with new values is stripped. -/
theorem strip_of_withFields {s later : Settings} {changes : List (String × Value)}
    (h : s.withFields changes = .ok later) : later.terminator.strip = later.terminator := by
  unfold withFields at h
  simp only [Outcome.bind_eq_ok_iff] at h
  obtain ⟨terminator, hterminator, _, -, _, -, _, -, hlater⟩ := h
  cases hlater
  obtain ⟨given, -, -, rfl⟩ := terminatorOf_eq_ok_iff.mp hterminator
  exact given.strip_strip

/-- Settings are made with values for their own fields only. -/
theorem withFields_of_make {values : List (String × Value)} {s : Settings}
    (h : make values = .ok s) : standard.withFields values = .ok s := by
  unfold make at h
  split at h
  · cases h
  · exact h

/-- Values are replaced for fields of the settings only. -/
theorem withFields_of_replace {s later : Settings} {changes : List (String × Value)}
    (h : s.replace changes = .ok later) : s.withFields changes = .ok later := by
  unfold replace at h
  split at h
  · exact h
  · cases h

/-- There are no blanks around the terminator of settings. -/
theorem Reachable.strip_terminator {s : Settings} (h : s.Reachable) :
    s.terminator.strip = s.terminator := by
  cases h with
  | made hmake => exact strip_of_withFields (withFields_of_make hmake)
  | replaced _ hreplace => exact strip_of_withFields (withFields_of_replace hreplace)

/-- Every text that is not blank is accepted as a terminator. -/
theorem make_terminator {marker : String} (h : strip marker ≠ "") :
    make [("terminator", .text marker)] =
      .ok { standard with terminator := .text (strip marker) } := by
  have hempty : (Terminator.text marker).strip.isEmpty = false := by
    simpa [Terminator.strip, Terminator.isEmpty] using h
  have hterminator : terminatorOf (.text marker) = .ok (.text (strip marker)) :=
    terminatorOf_eq_ok_iff.mpr ⟨.text marker, rfl, hempty, rfl⟩
  calc make [("terminator", .text marker)]
    _ = terminatorOf (.text marker) >>= fun t => .ok { standard with terminator := t } := rfl
    _ = .ok { standard with terminator := .text (strip marker) } := by rw [hterminator]; rfl

/-- The terminator of settings works exactly when it fits on a line, however they were made and
changed. One that does not ends nothing: every text is left over, which is an error unless it is
blank. -/
theorem Reachable.terminator_works_iff {s : Settings} (h : s.Reachable) :
    (s.terminator.Works ↔ s.terminator.OnOneLine) ∧
      (¬s.terminator.OnOneLine → ∀ text sourceName,
        segment text s.terminator sourceName =
          { blocks := []
            unterminated := (Section.block? sourceName 1 (lines text)).map fun b =>
              { problem := .unterminated s.terminator, statement := none,
                location := some b.location } }) := by
  refine ⟨Terminator.works_iff_onOneLine h.strip_terminator, ?_⟩
  intro hline text sourceName
  exact segment_of_not_ends h.strip_terminator fun line hmem =>
    Terminator.ends_eq_false h.strip_terminator hline hmem

/-- Settings with a newline inside their terminator. -/
def divided : Settings :=
  { standard with terminator := .text "GO\nNOW" }

/-- A newline inside a terminator is not refused. -/
theorem make_divided : make [("terminator", .text "GO\nNOW")] = .ok divided :=
  make_terminator (by decide)

/-- Neither line of a divided terminator ends a text. One put in its place does. -/
theorem Reachable.terminator_works_replaced :
    ∃ later : Settings, divided.replace [("terminator", .text " GO \n")] = .ok later ∧
      divided.Reachable ∧ later.Reachable ∧ later.terminator.Works ∧ ¬divided.terminator.Works ∧
      (segment "select 1\nGO\nNOW\n" divided.terminator "a.sql").blocks = [] := by
  have hreplaced : divided.replace [("terminator", .text " GO \n")] =
      .ok { standard with terminator := .text "GO" } := rfl
  have hdivided : divided.Reachable := .made make_divided
  have hlater : Reachable _ := .replaced hdivided hreplaced
  have hbroken : ¬divided.terminator.OnOneLine := by decide
  refine ⟨_, hreplaced, hdivided, hlater, ?_, ?_, ?_⟩
  · exact (terminator_works_iff hlater).1.mpr (by decide)
  · exact fun hworks => hbroken ((terminator_works_iff hdivided).1.mp hworks)
  · rw [(terminator_works_iff hdivided).2 hbroken]

/-- Not every terminator that settings accept works. -/
theorem not_forall_terminator_works : ¬∀ s : Settings, s.Reachable → s.terminator.Works := by
  intro hall
  have hdivided : divided.Reachable := .made make_divided
  have hline : divided.terminator.OnOneLine :=
    Terminator.onOneLine_of_works hdivided.strip_terminator (hall divided hdivided)
  revert hline
  decide

end Settings

end AnnotatedSql
