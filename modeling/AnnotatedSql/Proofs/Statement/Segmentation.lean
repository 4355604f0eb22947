import AnnotatedSql.Statement.Segmentation
import Mathlib.Data.Int.Notation
import Mathlib.Data.List.TakeWhile
import Mathlib.Data.Nat.Notation

/-!
# Where blocks stand

The blocks of a text come section by section, and none starts before the first line. Lines that
are written between terminator lines are the sections again, and each section's block holds its
lines from the first on that is not blank.
-/

set_option autoImplicit false

namespace AnnotatedSql

namespace Section

/-- The block of a section starts at the section's number or later. -/
theorem startLine_of_block? {sourceName : String} {number : ℕ} {sectionLines : List String}
    {b : Block} (h : block? sourceName number sectionLines = some b) :
    (number : ℤ) ≤ b.startLine ∧ b.sourceName = sourceName := by
  unfold block? at h
  split at h
  · cases h
  · simp only [Option.some.injEq] at h
    subst h
    constructor
    · simp only
      omega
    · rfl

/-- No block starts before the first of its sections. -/
theorem startLine_of_mem_blocks {sourceName : String} {number : ℕ}
    {sections : List (List String)} {b : Block} (h : b ∈ blocks sourceName number sections) :
    (number : ℤ) ≤ b.startLine := by
  induction sections generalizing number with
  | nil => cases h
  | cons s rest ih =>
    rcases List.mem_append.mp h with hfirst | hlater
    · have hblock : block? sourceName number s = some b := Option.mem_toList.mp hfirst
      exact (startLine_of_block? hblock).1
    · have hrest := ih hlater
      omega

/-- Lines that end nothing are all left over. -/
theorem cut_of_not_ends {ends : String → Bool} {ls : List String}
    (h : ∀ line ∈ ls, ends line = false) : cut ends ls = ([], ls) := by
  induction ls with
  | nil => rfl
  | cons line rest ih =>
    have hrest := ih fun l hl => h l (List.mem_cons_of_mem _ hl)
    simp [cut, hrest, h line List.mem_cons_self]

/-- Lines up to the first that ends a section are that section. -/
theorem cut_append {ends : String → Bool} {ls : List String} {line : String} (rest : List String)
    (h : ∀ l ∈ ls, ends l = false) (hends : ends line = true) :
    cut ends (ls ++ line :: rest) = (ls :: (cut ends rest).1, (cut ends rest).2) := by
  induction ls with
  | nil => simp [cut, hends]
  | cons first others ih =>
    have hothers := ih fun l hl => h l (List.mem_cons_of_mem _ hl)
    simp [cut, hothers, h first List.mem_cons_self]

/-- Lines make no block exactly when they are blank. -/
theorem block?_eq_none_iff {sourceName : String} {number : ℕ} {s : List String} :
    block? sourceName number s = none ↔ ∀ line ∈ s, isBlankLine line = true := by
  rw [← List.dropWhile_eq_nil_iff]
  unfold block?
  split
  · next hnil => simp [hnil]
  · next hne => simpa using hne

/-- A block leaves out the blank lines in front of it. -/
theorem block?_of_blank_append {sourceName first : String} {number : ℕ}
    {blanks rest : List String} (h : ∀ line ∈ blanks, isBlankLine line = true)
    (hfirst : isBlankLine first = false) :
    block? sourceName number (blanks ++ first :: rest) =
      some {
        text := Text.unlines (first :: rest)
        startLine := (number + blanks.length : ℕ)
        endLine := (number + blanks.length + rest.length : ℕ)
        sourceName := sourceName } := by
  have hdrop : (blanks ++ first :: rest).dropWhile isBlankLine = first :: rest := by
    rw [List.dropWhile_append_of_pos h, List.dropWhile_cons_of_neg (by simp [hfirst])]
  have htake : (blanks ++ first :: rest).takeWhile isBlankLine = blanks := by
    rw [List.takeWhile_append_of_pos h, List.takeWhile_cons_of_neg (by simp [hfirst]),
      List.append_nil]
  unfold block?
  rw [hdrop, htake]
  simp only [Option.some.injEq, Block.mk.injEq, true_and, and_true, List.length_append,
    List.length_cons]
  omega

end Section

/-- Every block of a text starts at line one or later. -/
theorem one_le_startLine {text sourceName : String} {terminator : Terminator} {b : Block}
    (h : b ∈ (segment text terminator sourceName).blocks) : 1 ≤ b.startLine := by
  exact_mod_cast Section.startLine_of_mem_blocks h

end AnnotatedSql
