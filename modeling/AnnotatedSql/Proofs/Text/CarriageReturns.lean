import AnnotatedSql.Proofs.Text.Blanks
import AnnotatedSql.Proofs.Text.Lines

/-!
# Carriage returns

A text may have a carriage return in front of every newline. Its lines are those of the text without
them, and all but the last end with one. That is a blank, so that trimming a line takes it away.
Normalizing the line ends of such a text gives the text without them.
-/

set_option autoImplicit false

namespace AnnotatedSql.Text

/-- The characters with a carriage return in front of every newline. -/
def returned (cs : List Char) : List Char :=
  cs.flatMap fun c => if c = '\n' then ['\r', '\n'] else [c]

/-- The text with a carriage return in front of every newline. -/
def withReturns (s : String) : String :=
  String.ofList (returned s.toList)

/-- The line with a carriage return at its end. -/
def returnedLine (line : String) : String :=
  line ++ "\r"

/-- Lines with a carriage return at the end of all but the last. -/
def returnedLines : List String → List String
  | [] => []
  | [line] => [line]
  | line :: next :: rest => returnedLine line :: returnedLines (next :: rest)

/-- There are no characters without any. -/
theorem returned_nil : returned [] = [] := rfl

/-- A newline gets a carriage return. -/
theorem returned_newline (rest : List Char) :
    returned ('\n' :: rest) = '\r' :: '\n' :: returned rest := rfl

/-- Every other character stays. -/
theorem returned_cons {c : Char} (h : c ≠ '\n') (rest : List Char) :
    returned (c :: rest) = c :: returned rest := by
  simp [returned, h]

/-- The parts of a text get carriage returns each. -/
theorem returned_append (front rest : List Char) :
    returned (front ++ rest) = returned front ++ returned rest := by
  simp [returned]

/-- A text without newlines stays. -/
theorem returned_of_not_mem {cs : List Char} (h : '\n' ∉ cs) : returned cs = cs := by
  induction cs with
  | nil => rfl
  | cons c rest ih =>
    obtain ⟨hc, hrest⟩ : c ≠ '\n' ∧ '\n' ∉ rest := by simpa [eq_comm] using h
    rw [returned_cons hc, ih hrest]

/-- No character is lost. -/
theorem returned_eq_nil_iff {cs : List Char} : returned cs = [] ↔ cs = [] := by
  constructor
  · intro h
    cases cs with
    | nil => rfl
    | cons c rest =>
      by_cases hc : c = '\n'
      · subst hc
        cases h
      · rw [returned_cons hc] at h
        cases h
  · rintro rfl
    rfl

/-- Characters up to one of another kind are the same, if line ends are of the other kind. -/
theorem takeWhile_returned {p : Char → Bool} (hnewline : p '\n' = false) (hreturn : p '\r' = false)
    (cs : List Char) : (returned cs).takeWhile p = cs.takeWhile p := by
  induction cs with
  | nil => rfl
  | cons c rest ih =>
    by_cases hc : c = '\n'
    · subst hc
      rw [returned_newline, List.takeWhile_cons_of_neg (by simp [hreturn]),
        List.takeWhile_cons_of_neg (by simp [hnewline])]
    · rw [returned_cons hc, List.takeWhile_cons, List.takeWhile_cons, ih]

/-- Characters from one of another kind on have the carriage returns, if line ends are of the other
kind. -/
theorem dropWhile_returned {p : Char → Bool} (hnewline : p '\n' = false) (hreturn : p '\r' = false)
    (cs : List Char) : (returned cs).dropWhile p = returned (cs.dropWhile p) := by
  induction cs with
  | nil => rfl
  | cons c rest ih =>
    by_cases hc : c = '\n'
    · subst hc
      rw [List.dropWhile_cons_of_neg (by simp [hnewline]), returned_newline,
        List.dropWhile_cons_of_neg (by simp [hreturn])]
    · rw [returned_cons hc, List.dropWhile_cons, List.dropWhile_cons, ih]
      split
      · rfl
      · rw [returned_cons hc]

/-- The characters of a text with carriage returns. -/
theorem toList_withReturns (s : String) : (withReturns s).toList = returned s.toList :=
  String.toList_ofList

/-- The parts of a text get carriage returns each. -/
theorem withReturns_append (a b : String) :
    withReturns (a ++ b) = withReturns a ++ withReturns b := by
  apply String.toList_inj.mp
  simp only [toList_withReturns, String.toList_append, returned_append]

/-- A text without newlines stays. -/
theorem withReturns_of_not_mem {s : String} (h : '\n' ∉ s.toList) : withReturns s = s := by
  apply String.toList_inj.mp
  rw [toList_withReturns, returned_of_not_mem h]

/-- Normalizing line ends takes the carriage returns away, if there are no others. -/
theorem normalizeNewlines_returned {cs : List Char} (h : '\r' ∉ cs) :
    normalizeNewlines (returned cs) = cs := by
  induction cs with
  | nil => rfl
  | cons c rest ih =>
    obtain ⟨hc, hrest⟩ : c ≠ '\r' ∧ '\r' ∉ rest := by simpa [eq_comm] using h
    by_cases hnewline : c = '\n'
    · subst hnewline
      rw [returned_newline, normalizeNewlines]
      simp [ih hrest]
    · rw [returned_cons hnewline]
      cases hnext : returned rest with
      | nil =>
        have hnil : rest = [] := returned_eq_nil_iff.mp hnext
        simp [normalizeNewlines, hc, hnil]
      | cons d later =>
        rw [normalizeNewlines, if_neg hc, ← hnext, ih hrest]

section Trimming

/-- A carriage return at the end is trimmed. -/
theorem trimRight_concat_return (cs : List Char) : trimRight (cs ++ ['\r']) = trimRight cs := by
  rw [trimRight_eq_rdropWhile, trimRight_eq_rdropWhile, List.rdropWhile_concat_pos _ _ _ rfl]

/-- Trimming at the start leaves a carriage return at the end, unless nothing is left. -/
theorem trimLeft_concat_return (cs : List Char) :
    trimLeft (cs ++ ['\r']) = if trimLeft cs = [] then [] else trimLeft cs ++ ['\r'] := by
  unfold trimLeft
  rw [List.dropWhile_append]
  cases cs.dropWhile isBlank <;> rfl

/-- A carriage return at the end does not matter to what is trimmed. -/
theorem trim_concat_return (cs : List Char) : trim (cs ++ ['\r']) = trim cs := by
  unfold trim
  rw [trimLeft_concat_return]
  split
  · next hnil => rw [hnil]
  · exact trimRight_concat_return _

/-- A carriage return is blank. -/
theorem isBlankText_concat_return (cs : List Char) :
    isBlankText (cs ++ ['\r']) = isBlankText cs := by
  have hblank : isBlank '\r' = true := rfl
  simp [isBlankText, hblank]

/-- Trimming at the end comes to the same before and after carriage returns are put in. -/
theorem trimRight_returned (cs : List Char) :
    trimRight (returned cs) = returned (trimRight cs) := by
  have hnewline : isBlank '\n' = true := rfl
  have hreturn : isBlank '\r' = true := rfl
  induction cs with
  | nil => rfl
  | cons c rest ih =>
    by_cases hc : c = '\n'
    · subst hc
      rw [returned_newline, trimRight, trimRight, trimRight, ih]
      cases hrest : trimRight rest with
      | nil => simp [returned_nil, hnewline, hreturn]
      | cons d kept =>
        cases hkept : returned (d :: kept) with
        | nil => cases returned_eq_nil_iff.mp hkept
        | cons e others => simp only [returned_newline, hkept]
    · rw [returned_cons hc, trimRight, trimRight, ih]
      cases hrest : trimRight rest with
      | nil =>
        cases hblank : isBlank c with
        | true => rfl
        | false => simp [returned, hc]
      | cons d kept =>
        cases hkept : returned (d :: kept) with
        | nil => cases returned_eq_nil_iff.mp hkept
        | cons e others => simp only [returned_cons hc, hkept]

end Trimming

section Lines

/-- The characters of a line with a carriage return. -/
theorem toList_returnedLine (line : String) :
    (returnedLine line).toList = line.toList ++ ['\r'] := by
  rw [returnedLine, String.toList_append]
  rfl

/-- Stripping a line takes its carriage return away. -/
theorem strip_returnedLine (line : String) : strip (returnedLine line) = strip line := by
  rw [strip, strip, toList_returnedLine, trim_concat_return]

/-- A line with a carriage return has no newline if it has none without. -/
theorem newline_not_mem_returnedLine {line : String} (h : '\n' ∉ line.toList) :
    '\n' ∉ (returnedLine line).toList := by
  rw [toList_returnedLine]
  simpa using h

/-- Lines with carriage returns at the end of all but the last, before a last line. -/
theorem returnedLines_append (front : List String) (line : String) (rest : List String) :
    returnedLines (front ++ line :: rest) =
      front.map returnedLine ++ returnedLines (line :: rest) := by
  induction front with
  | nil => rfl
  | cons first others ih =>
    cases others with
    | nil => rfl
    | cons second more =>
      rw [List.cons_append, List.cons_append, returnedLines, ← List.cons_append, ih]
      rfl

/-- The first line keeps its place. -/
theorem returnedLines_cons (line : String) (rest : List String) :
    ∃ first, returnedLines (line :: rest) = first :: returnedLines rest ∧
      (first = line ∨ first = returnedLine line) := by
  cases rest with
  | nil => exact ⟨line, rfl, Or.inl rfl⟩
  | cons next more => exact ⟨returnedLine line, rfl, Or.inr rfl⟩

/-- There are as many lines with carriage returns as without. -/
theorem returnedLines_ne_nil {ls : List String} (h : ls ≠ []) : returnedLines ls ≠ [] := by
  cases ls with
  | nil => exact absurd rfl h
  | cons line rest =>
    obtain ⟨first, hfirst, _⟩ := returnedLines_cons line rest
    simp [hfirst]

/-- Each line is one without a carriage return, or with it. -/
theorem exists_of_mem_returnedLines {ls : List String} {line : String}
    (h : line ∈ returnedLines ls) : ∃ l ∈ ls, line = l ∨ line = returnedLine l := by
  induction ls with
  | nil => cases h
  | cons first rest ih =>
    obtain ⟨kept, hkept, heq⟩ := returnedLines_cons first rest
    rw [hkept] at h
    rcases List.mem_cons.mp h with rfl | h
    · exact ⟨first, List.mem_cons_self, heq⟩
    · obtain ⟨l, hl, hline⟩ := ih h
      exact ⟨l, List.mem_cons_of_mem _ hl, hline⟩

/-- Lines with carriage returns have no newlines if they have none without. -/
theorem newline_not_mem_of_mem_returnedLines {ls : List String}
    (h : ∀ line ∈ ls, '\n' ∉ line.toList) : ∀ line ∈ returnedLines ls, '\n' ∉ line.toList := by
  intro line hline
  obtain ⟨l, hl, rfl | rfl⟩ := exists_of_mem_returnedLines hline
  · exact h _ hl
  · exact newline_not_mem_returnedLine (h l hl)

/-- Joined lines get a carriage return each but the last. -/
theorem withReturns_unlines {ls : List String} (h : ∀ line ∈ ls, '\n' ∉ line.toList) :
    withReturns (unlines ls) = unlines (returnedLines ls) := by
  induction ls with
  | nil => rfl
  | cons line rest ih =>
    have hline := withReturns_of_not_mem (h line List.mem_cons_self)
    cases rest with
    | nil => simpa [unlines, returnedLines] using hline
    | cons next more =>
      have hrest := ih fun l hl => h l (List.mem_cons_of_mem _ hl)
      have hne : next :: more ≠ [] := List.cons_ne_nil _ _
      have hreturn : withReturns "\n" = "\r" ++ "\n" := by decide
      unfold unlines at hrest ⊢
      rw [returnedLines, String.intercalate_cons_of_ne_nil hne,
        String.intercalate_cons_of_ne_nil (returnedLines_ne_nil hne), withReturns_append,
        withReturns_append, hrest, hline, hreturn]
      simp only [returnedLine, String.append_assoc]

/-- Joined lines with a carriage return each have one more at the end. -/
theorem unlines_map_returnedLine {ls : List String} (h : ls ≠ []) :
    unlines (ls.map returnedLine) = returnedLine (unlines (returnedLines ls)) := by
  induction ls with
  | nil => exact absurd rfl h
  | cons line rest ih =>
    cases rest with
    | nil => simp [unlines, returnedLines]
    | cons next more =>
      have hne : next :: more ≠ [] := List.cons_ne_nil _ _
      have hrest := ih hne
      unfold unlines at hrest ⊢
      rw [returnedLines, List.map_cons,
        String.intercalate_cons_of_ne_nil (by simp),
        String.intercalate_cons_of_ne_nil (returnedLines_ne_nil hne), hrest]
      simp only [returnedLine, String.append_assoc]

/-- The lines of a text with carriage returns. -/
theorem lines_withReturns (s : String) : lines (withReturns s) = returnedLines (lines s) := by
  have hlines : ∀ line ∈ lines s, '\n' ∉ line.toList := fun _ => newline_not_mem_of_mem_lines
  have htext : withReturns s = unlines (returnedLines (lines s)) := by
    rw [← withReturns_unlines hlines, unlines_lines]
  rw [htext, lines_unlines (returnedLines_ne_nil (lines_ne_nil s))
    (newline_not_mem_of_mem_returnedLines hlines)]

/-- The lines of a text with carriage returns and one more at the end. -/
theorem lines_returnedLine_withReturns (s : String) :
    lines (returnedLine (withReturns s)) = (lines s).map returnedLine := by
  have hlines : ∀ line ∈ lines s, '\n' ∉ line.toList := fun _ => newline_not_mem_of_mem_lines
  have htext : returnedLine (withReturns s) = unlines ((lines s).map returnedLine) := by
    rw [unlines_map_returnedLine (lines_ne_nil s), ← withReturns_unlines hlines, unlines_lines]
  rw [htext, lines_unlines (by simpa using lines_ne_nil s)]
  intro line hline
  obtain ⟨l, hl, rfl⟩ := List.mem_map.mp hline
  exact newline_not_mem_returnedLine (hlines l hl)

/-- Joined lines with a carriage return each, trimmed at the end, are those without, trimmed at the
end, with carriage returns. -/
theorem stripRight_unlines_map_returnedLine {ls : List String} (hne : ls ≠ [])
    (h : ∀ line ∈ ls, '\n' ∉ line.toList) :
    stripRight (unlines (ls.map returnedLine)) = withReturns (stripRight (unlines ls)) := by
  rw [unlines_map_returnedLine hne, ← withReturns_unlines h]
  unfold stripRight
  rw [toList_returnedLine, trimRight_concat_return, toList_withReturns, trimRight_returned]
  apply String.toList_inj.mp
  rw [toList_withReturns, String.toList_ofList, String.toList_ofList]

end Lines

end AnnotatedSql.Text
