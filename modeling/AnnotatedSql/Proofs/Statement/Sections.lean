import AnnotatedSql.Proofs.Statement.Segmentation
import Mathlib.Tactic.Basic

/-!
# Texts section by section

The lines of a text are sections, each with the line that ends it, and the lines after the last of
these. What cutting such lines gives is said here for lines from any number on, one section at a
time. A blank line in front never matters: it only moves the numbers.
-/

set_option autoImplicit false

namespace AnnotatedSql

namespace Section

/-- Lines are made of lines that end nothing, and of sections with the line that ends each. -/
@[elab_as_elim]
theorem sectionsInduction (ends : String → Bool) {motive : List String → Prop}
    (tail : ∀ ls, (∀ l ∈ ls, ends l = false) → motive ls)
    (ended : ∀ s line rest, (∀ l ∈ s, ends l = false) → ends line = true → motive rest →
      motive (s ++ line :: rest))
    (ls : List String) : motive ls := by
  -- The lines of the section that is not ended yet are carried along.
  suffices h : ∀ s, (∀ l ∈ s, ends l = false) → motive (s ++ ls) from h [] (by simp)
  induction ls with
  | nil =>
    intro s hs
    simpa using tail s hs
  | cons line rest ih =>
    intro s hs
    cases hends : ends line with
    | true => exact ended s line rest hs hends (ih [] (by simp))
    | false =>
      have hlonger : ∀ l ∈ s ++ [line], ends l = false := by
        intro l hl
        rcases List.mem_append.mp hl with hl | hl
        · exact hs l hl
        · rwa [List.mem_singleton.mp hl]
      simpa using ih (s ++ [line]) hlonger

variable (ends : String → Bool) (sourceName : String)

/-- What lines hold, the first of which has the given number: their blocks, and what the lines after
the last section would be as a block, unless these are blank. -/
def readFrom (number : ℕ) (ls : List String) : List Block × Option Block :=
  (blocks sourceName number (cut ends ls).1,
    block? sourceName (number + lineCount (cut ends ls).1) (cut ends ls).2)

variable {ends sourceName} {number : ℕ}

/-- Lines that end nothing are all left over. -/
theorem readFrom_of_not_ends {ls : List String} (h : ∀ l ∈ ls, ends l = false) :
    readFrom ends sourceName number ls = ([], block? sourceName number ls) := by
  rw [readFrom, cut_of_not_ends h]
  rfl

/-- The block of the first section comes before what the lines after it hold. -/
theorem readFrom_append {s : List String} {line : String} (rest : List String)
    (hs : ∀ l ∈ s, ends l = false) (hline : ends line = true) :
    readFrom ends sourceName number (s ++ line :: rest) =
      ((block? sourceName number s).toList ++
          (readFrom ends sourceName (number + s.length + 1) rest).1,
        (readFrom ends sourceName (number + s.length + 1) rest).2) := by
  unfold readFrom
  rw [cut_append rest hs hline]
  simp only [blocks, lineCount, Nat.add_assoc]

/-- A terminator line that no section stands before moves what comes after it. -/
theorem readFrom_cons_of_ends {line : String} (rest : List String) (hline : ends line = true) :
    readFrom ends sourceName number (line :: rest) = readFrom ends sourceName (number + 1) rest :=
  readFrom_append rest (fun _ hmem => absurd hmem List.not_mem_nil) hline

/-- A blank line in front of a section is no part of its block. -/
theorem block?_cons_of_blank {line : String} (s : List String) (h : isBlankLine line = true) :
    block? sourceName number (line :: s) = block? sourceName (number + 1) s := by
  have hdrop : (line :: s).dropWhile isBlankLine = s.dropWhile isBlankLine :=
    List.dropWhile_cons_of_pos h
  have htake : (line :: s).takeWhile isBlankLine = line :: s.takeWhile isBlankLine :=
    List.takeWhile_cons_of_pos h
  unfold block?
  rw [hdrop, htake]
  split
  · rfl
  · simp only [List.length_cons, Option.some.injEq, Block.mk.injEq, true_and, and_true]
    omega

/-- A section whose first line is not blank is a block as it is. -/
theorem block?_cons_of_filled {line : String} (s : List String) (h : isBlankLine line = false) :
    block? sourceName number (line :: s) =
      some {
        text := Text.unlines (line :: s)
        startLine := (number : ℕ)
        endLine := (number + s.length : ℕ)
        sourceName := sourceName } :=
  block?_of_blank_append (fun _ hmem => absurd hmem List.not_mem_nil) h

/-- A blank line in front moves what comes after it, whether or not it ends a section. -/
theorem readFrom_cons_of_blank {line : String} (ls : List String) (h : isBlankLine line = true) :
    readFrom ends sourceName number (line :: ls) = readFrom ends sourceName (number + 1) ls := by
  unfold readFrom
  rw [cut]
  cases hcut : cut ends ls with
  | mk sections tail =>
    cases hends : ends line with
    | true =>
      have hcount : number + lineCount ([] :: sections) = number + 1 + lineCount sections := by
        simp only [lineCount, List.length_nil]
        omega
      simp only [if_true, hcount]
      rfl
    | false =>
      cases sections with
      | nil => exact congrArg (Prod.mk []) (block?_cons_of_blank tail h)
      | cons first others =>
        have hnumber : number + (line :: first).length + 1 = number + 1 + first.length + 1 := by
          simp only [List.length_cons]
          omega
        have hcount : number + lineCount ((line :: first) :: others) =
            number + 1 + lineCount (first :: others) := by
          simp only [lineCount, List.length_cons]
          omega
        simp only [Bool.false_eq_true, if_false, blocks, block?_cons_of_blank first h, hnumber,
          hcount]

/-- Blank lines in front move what comes after them. -/
theorem readFrom_append_of_blank {blanks : List String} (ls : List String)
    (h : ∀ line ∈ blanks, isBlankLine line = true) :
    readFrom ends sourceName number (blanks ++ ls) =
      readFrom ends sourceName (number + blanks.length) ls := by
  induction blanks generalizing number with
  | nil => rfl
  | cons line rest ih =>
    have hnumber : number + 1 + rest.length = number + (line :: rest).length := by
      simp only [List.length_cons]
      omega
    rw [List.cons_append, readFrom_cons_of_blank _ (h line List.mem_cons_self),
      ih fun l hl => h l (List.mem_cons_of_mem _ hl), hnumber]

/-- Blank lines hold nothing. -/
theorem readFrom_of_blank {blanks : List String} (h : ∀ line ∈ blanks, isBlankLine line = true) :
    readFrom ends sourceName number blanks = ([], none) := by
  rw [← List.append_nil blanks, readFrom_append_of_blank [] h]
  rfl

end Section

/-- A text is cut into what its lines hold. -/
theorem segment_eq (text : String) (terminator : Terminator) (sourceName : String) :
    segment text terminator sourceName =
      { blocks := (Section.readFrom terminator.strip.ends sourceName 1 (Text.lines text)).1
        unterminated :=
          (Section.readFrom terminator.strip.ends sourceName 1 (Text.lines text)).2.map fun b =>
            { problem := .unterminated terminator.strip, statement := none,
              location := some b.location } } := by
  unfold segment Section.readFrom
  simp only [Nat.add_comm 1]

end AnnotatedSql
