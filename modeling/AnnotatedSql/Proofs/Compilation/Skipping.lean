import AnnotatedSql.Proofs.Compilation
import AnnotatedSql.Proofs.Statement.Partition

/-!
# Skipping malformed statements

To skip what cannot be read comes to the same as to blank it out: a text is compiled under the
policy to skip as the text without the lines in question is under the policy to abort. Those lines
are left blank, so that all others keep their numbers.
-/

set_option autoImplicit false

namespace AnnotatedSql

open Text

/-- A line that is no declaration is a syntax error. -/
theorem Declaration.kind_of_parse {line : String} {location : Option String} {e : CompileError}
    (h : parse line location = .error e) : e.kind = .statementSyntax := by
  unfold parse at h
  split at h
  · cases h
    rfl
  · cases h
    rfl
  · cases h

namespace Header

/-- Whatever is wrong with the lines of a header is a syntax error. -/
theorem kind_of_contents {block : Block} {name : String} {offset : ℕ} {declared ls : List String}
    {e : CompileError} (h : contents block name offset declared ls = .error e) :
    e.kind = .statementSyntax := by
  induction ls generalizing offset declared with
  | nil => cases h
  | cons line rest ih =>
    unfold contents at h
    cases hline : HeaderLine.ofLine line with
    | blank =>
      simp only [hline] at h
      exact ih h
    | sql =>
      simp only [hline] at h
      exact ih h
    | remark text =>
      simp only [hline] at h
      exact ih (Outcome.map_eq_error_iff.mp h)
    | directive directive =>
      cases directive with
      | name =>
        simp only [hline] at h
        cases h
        rfl
      | param =>
        simp only [hline] at h
        split at h
        · next hparse =>
          cases h
          exact Declaration.kind_of_parse hparse
        · split at h
          · cases h
            rfl
          · exact ih (Outcome.map_eq_error_iff.mp h)

/-- Without a header that can be read after the preamble, there is a syntax error. -/
theorem kind_of_parseFrom {block : Block} {offset : ℕ} {ls : List String} {e : CompileError}
    (h : parseFrom block offset ls = .error e) : e.kind = .statementSyntax := by
  cases ls with
  | nil =>
    cases h
    rfl
  | cons line rest =>
    unfold parseFrom at h
    cases hline : HeaderLine.ofLine line with
    | blank =>
      simp only [hline] at h
      cases h
      rfl
    | sql =>
      simp only [hline] at h
      cases h
      rfl
    | remark text =>
      simp only [hline] at h
      cases h
      rfl
    | directive directive =>
      cases directive with
      | param =>
        simp only [hline] at h
        cases h
        rfl
      | name =>
        simp only [hline] at h
        split at h
        · cases h
          rfl
        · split at h
          · next hcontents =>
            cases h
            exact kind_of_contents hcontents
          · split at h
            · cases h
              rfl
            · cases h

/-- A header that cannot be read is a syntax error. -/
theorem kind_of_parse {block : Block} {e : CompileError} (h : parse block = .error e) :
    e.kind = .statementSyntax :=
  kind_of_parseFrom h

end Header

namespace Block

/-- Reading the header of the block is a syntax error. -/
def isMalformed (b : Block) : Bool :=
  match Header.parse b with
  | .error e => e.kind.isBelow .statementSyntax
  | .ok _ => false

/-- The line of a number is one of the block's. -/
def covers (b : Block) (number : ℕ) : Bool :=
  decide (b.startLine ≤ number ∧ (number : ℤ) ≤ b.endLine)

/-- A block whose header cannot be read is malformed. -/
theorem isMalformed_of_error {b : Block} {e : CompileError} (h : Header.parse b = .error e) :
    b.isMalformed = true := by
  unfold isMalformed
  simp only [h, Header.kind_of_parse h]
  decide

/-- A block whose header can be read is not malformed. -/
theorem isMalformed_of_ok {b : Block} {header : Header} (h : Header.parse b = .ok header) :
    b.isMalformed = false := by
  unfold isMalformed
  simp only [h]

/-- A malformed block covers the line of a number. -/
def malformedAt (found : List Block) (number : ℕ) : Bool :=
  found.any fun b => b.isMalformed && b.covers number

/-- A line before or after each of some blocks is none of theirs. -/
theorem malformedAt_eq_false {found : List Block} {number : ℕ}
    (h : ∀ b ∈ found, (number : ℤ) < b.startLine ∨ b.endLine < (number : ℤ)) :
    malformedAt found number = false := by
  rw [malformedAt, List.any_eq_false]
  intro b hb
  have houtside := h b hb
  have hcovers : b.covers number = false := decide_eq_false (by omega)
  simp [hcovers]

/-- A malformed block among some is one of the first of them or one of the others. -/
theorem malformedAt_append (found later : List Block) (number : ℕ) :
    malformedAt (found ++ later) number = (malformedAt found number || malformedAt later number) :=
  List.any_append

end Block

namespace Section

/-- The line at a place is left out: it belongs to a malformed block, or to the text that is left
over, which no terminator line follows. -/
def isLeftOut (ends : String → Bool) (found : List Block) (leftOver : Bool) (number : ℕ)
    (ls : List String) (place : ℕ) : Bool :=
  Block.malformedAt found (number + place) || leftOver && (ls.drop place).all fun line => !ends line

/-- The lines with an empty one for each that is left out. -/
def blankLines (ends : String → Bool) (found : List Block) (leftOver : Bool) (number : ℕ)
    (ls : List String) : List String :=
  ls.mapIdx fun place line => if isLeftOut ends found leftOver number ls place then "" else line

variable {ends : String → Bool} {sourceName : String} {number : ℕ}

/-- The block of a section ends with the section. -/
theorem endLine_of_block? {s : List String} {b : Block}
    (h : block? sourceName number s = some b) : b.endLine < (number + s.length : ℕ) := by
  obtain ⟨start, _, rfl⟩ := block?_eq_some_iff.mp h
  simp only [blockAt]
  omega

/-- Only blank lines come before the block of a section. -/
theorem isBlankLine_of_lt_startLine {s : List String} {b : Block}
    (h : block? sourceName number s = some b) {place : ℕ} (hplace : place < s.length)
    (hlt : (number + place : ℕ) < b.startLine) : isBlankLine s[place] = true := by
  obtain ⟨start, hstart, rfl⟩ := block?_eq_some_iff.mp h
  simp only [blockAt] at hlt
  have hbefore := hstart.before place (Nat.zero_le _) (by omega)
  rw [holdsAt, List.getElem?_eq_getElem hplace] at hbefore
  simpa [isFilled] using hbefore

/-- The empty line is blank. -/
theorem isBlankLine_empty : isBlankLine "" = true := rfl

section Parts

variable {s rest : List String} {line : String} {leftOver : Bool} {place : ℕ}

/-- A terminator line follows every place up to it. -/
theorem all_drop_of_le (hline : ends line = true) (hplace : place ≤ s.length) :
    ((s ++ line :: rest).drop place).all (fun l => !ends l) = false := by
  rw [List.drop_append_of_le_length hplace, List.all_eq_false]
  exact ⟨line, by simp, by simp [hline]⟩

/-- Up to the first terminator line, what is left out is left out with the first block. -/
theorem isLeftOut_of_le (hs : ∀ l ∈ s, ends l = false) (hline : ends line = true)
    (hplace : place ≤ s.length) :
    isLeftOut ends (readFrom ends sourceName number (s ++ line :: rest)).1 leftOver number
        (s ++ line :: rest) place =
      Block.malformedAt (block? sourceName number s).toList (number + place) := by
  have hlater : Block.malformedAt (readFrom ends sourceName (number + s.length + 1) rest).1
      (number + place) = false := by
    apply Block.malformedAt_eq_false
    intro b hb
    have hstart := startLine_of_mem_blocks hb
    omega
  rw [isLeftOut, all_drop_of_le hline hplace, readFrom_append rest hs hline,
    Block.malformedAt_append, hlater]
  simp

/-- After the first terminator line, the same lines are left out as without the lines up to it. -/
theorem isLeftOut_add (hs : ∀ l ∈ s, ends l = false) (hline : ends line = true) :
    isLeftOut ends (readFrom ends sourceName number (s ++ line :: rest)).1 leftOver number
        (s ++ line :: rest) (place + 1 + s.length) =
      isLeftOut ends (readFrom ends sourceName (number + s.length + 1) rest).1 leftOver
        (number + s.length + 1) rest place := by
  have hnumber : number + (place + 1 + s.length) = number + s.length + 1 + place := by omega
  have hfirst : Block.malformedAt (block? sourceName number s).toList
      (number + s.length + 1 + place) = false := by
    apply Block.malformedAt_eq_false
    intro b hb
    have hend := endLine_of_block? (Option.mem_toList.mp hb)
    omega
  have hdrop : (s ++ line :: rest).drop (place + 1 + s.length) = rest.drop place := by
    rw [Nat.add_comm, List.drop_length_add_append, List.drop_succ_cons]
  rw [isLeftOut, hnumber, hdrop, readFrom_append rest hs hline, Block.malformedAt_append, hfirst,
    Bool.false_or]
  rfl

/-- The first section, its terminator line and the lines after it are blanked out apart. -/
theorem blankLines_append (hs : ∀ l ∈ s, ends l = false) (hline : ends line = true) :
    blankLines ends (readFrom ends sourceName number (s ++ line :: rest)).1 leftOver number
        (s ++ line :: rest) =
      blankLines ends (block? sourceName number s).toList false number s ++
        line :: blankLines ends (readFrom ends sourceName (number + s.length + 1) rest).1 leftOver
          (number + s.length + 1) rest := by
  have hend : Block.malformedAt (block? sourceName number s).toList (number + s.length) =
      false := by
    apply Block.malformedAt_eq_false
    intro b hb
    exact Or.inr (endLine_of_block? (Option.mem_toList.mp hb))
  unfold blankLines
  rw [List.mapIdx_append, List.mapIdx_cons, Nat.zero_add, isLeftOut_of_le hs hline le_rfl, hend]
  simp only [isLeftOut_add hs hline, Bool.false_eq_true, if_false]
  congr 1
  rw [List.mapIdx_eq_mapIdx_iff]
  intro place hplace
  rw [isLeftOut_of_le hs hline (by omega), isLeftOut, Bool.false_and, Bool.or_false]

end Parts

/-- A section without a malformed block stays. -/
theorem blankLines_of_not_malformed {found : List Block} (s : List String)
    (h : ∀ b ∈ found, b.isMalformed = false) : blankLines ends found false number s = s := by
  have hnone : ∀ place, Block.malformedAt found place = false := by
    intro place
    rw [Block.malformedAt, List.any_eq_false]
    intro b hb
    simp [h b hb]
  apply List.ext_getElem List.length_mapIdx
  intro place _ _
  simp [isLeftOut, hnone]

/-- A section with a malformed block has only blank lines after it is blanked out. -/
theorem isBlankLine_of_mem_blankLines {s : List String} {b : Block}
    (hb : block? sourceName number s = some b) (hmalformed : b.isMalformed = true) :
    ∀ l ∈ blankLines ends [b] false number s, isBlankLine l = true := by
  intro l hl
  obtain ⟨place, hplace, rfl⟩ := List.mem_mapIdx.mp hl
  split
  · exact isBlankLine_empty
  · next hkept =>
    apply isBlankLine_of_lt_startLine hb hplace
    -- The block covers the lines from its start to the end of the section.
    have hend : b.endLine = (number + s.length : ℕ) - 1 := by
      obtain ⟨start, _, rfl⟩ := block?_eq_some_iff.mp hb
      rfl
    simp only [isLeftOut, Block.malformedAt, List.any_cons, List.any_nil, hmalformed, Block.covers,
      Bool.true_and, Bool.false_and, Bool.or_false, decide_eq_true_eq] at hkept
    omega

/-- Lines that end nothing are all left out when there is text among them. -/
theorem isBlankLine_of_mem_tail {ls : List String} (hls : ∀ l ∈ ls, ends l = false) :
    ∀ l ∈ blankLines ends [] true number ls, isBlankLine l = true := by
  intro l hl
  obtain ⟨place, hplace, rfl⟩ := List.mem_mapIdx.mp hl
  have hall : ((ls.drop place).all fun line => !ends line) = true := by
    rw [List.all_eq_true]
    intro line hmem
    simp [hls line (List.mem_of_mem_drop hmem)]
  simp [isLeftOut, hall, isBlankLine_empty]

/-- Blanking out takes the malformed blocks and what is left over from the lines, and moves
nothing. -/
theorem readFrom_blankLines (ls : List String) :
    readFrom ends sourceName number
        (blankLines ends (readFrom ends sourceName number ls).1
          (readFrom ends sourceName number ls).2.isSome number ls) =
      ((readFrom ends sourceName number ls).1.filter fun b => !b.isMalformed, none) := by
  induction ls using sectionsInduction ends generalizing number with
  | tail ls hls =>
    rw [readFrom_of_not_ends hls, List.filter_nil]
    cases hblock : block? sourceName number ls with
    | none =>
      have hstays : blankLines ends [] false number ls = ls :=
        blankLines_of_not_malformed ls fun _ hb => absurd hb List.not_mem_nil
      rw [Option.isSome_none, hstays, readFrom_of_not_ends hls, hblock]
    | some b => exact readFrom_of_blank (isBlankLine_of_mem_tail hls)
  | ended s line rest hs hline ih =>
    rw [blankLines_append hs hline, readFrom_append rest hs hline, List.filter_append]
    by_cases hkept : ∀ b ∈ (block? sourceName number s).toList, b.isMalformed = false
    · have hfilter : (block? sourceName number s).toList.filter (fun b => !b.isMalformed) =
          (block? sourceName number s).toList := by
        rw [List.filter_eq_self]
        intro b hb
        simp [hkept b hb]
      rw [blankLines_of_not_malformed s hkept, readFrom_append _ hs hline, ih, hfilter]
    · obtain ⟨b, hb, hmalformed⟩ : ∃ b, block? sourceName number s = some b ∧
          b.isMalformed = true := by simpa using hkept
      have hlength : (blankLines ends [b] false number s).length = s.length := List.length_mapIdx
      have hfilter : [b].filter (fun b => !b.isMalformed) = [] := by simp [hmalformed]
      rw [hb, Option.toList_some,
        readFrom_append_of_blank _ (isBlankLine_of_mem_blankLines hb hmalformed), hlength,
        readFrom_cons_of_ends _ hline, ih, hfilter, List.nil_append]

end Section

namespace Compilation

/-- To skip malformed blocks and what is left over comes to the same as not to have them. -/
theorem result_ofBlocks_skip (settings : Settings) (unterminated : Option CompileError)
    (earlier : List (String × String)) (blocks : List Block) :
    (ofBlocks { settings with onSyntaxError := .skip } unterminated earlier blocks).result =
      (ofBlocks { settings with onSyntaxError := .abort } none earlier
        (blocks.filter fun b => !b.isMalformed)).result := by
  induction blocks generalizing earlier with
  | nil =>
    rw [List.filter_nil, result_ofBlocks_nil, result_ofBlocks_nil]
  | cons block rest ih =>
    rw [result_ofBlocks_cons]
    cases hparse : Header.parse block with
    | error e =>
      rw [List.filter_cons_of_neg (by simp [Block.isMalformed_of_error hparse])]
      exact ih earlier
    | ok header =>
      rw [List.filter_cons_of_pos (by simp [Block.isMalformed_of_ok hparse]), result_ofBlocks_cons]
      simp only [hparse]
      cases earlier.lookup header.name with
      | some location => rfl
      | none =>
        cases header.resolve settings.unused with
        | error e => rfl
        | ok s => exact congrArg (Except.map (s :: ·)) (ih _)

end Compilation

/-- The text with an empty line for each line of a malformed block, and for each line after the last
terminator line if one of these is not blank. -/
def blankOut (terminator : Terminator) (sourceName text : String) : String :=
  let found := segment text terminator sourceName
  unlines (Section.blankLines terminator.strip.ends found.blocks found.unterminated.isSome 1
    (lines text))

/-- The lines of a blanked out text. -/
theorem lines_blankOut (terminator : Terminator) (sourceName text : String) :
    lines (blankOut terminator sourceName text) =
      Section.blankLines terminator.strip.ends (segment text terminator sourceName).blocks
        (segment text terminator sourceName).unterminated.isSome 1 (lines text) := by
  apply lines_unlines
  · intro hnil
    have hlength := congrArg List.length hnil
    rw [Section.blankLines, List.length_mapIdx] at hlength
    exact lines_ne_nil text (List.eq_nil_of_length_eq_zero hlength)
  · intro line hmem
    obtain ⟨place, hplace, rfl⟩ := List.mem_mapIdx.mp hmem
    split
    · simp
    · exact newline_not_mem_of_mem_lines (List.getElem_mem hplace)

/-- Blanking out a text takes what is malformed from what it is cut into. -/
theorem segment_blankOut (terminator : Terminator) (sourceName text : String) :
    segment (blankOut terminator sourceName text) terminator sourceName =
      { blocks := (segment text terminator sourceName).blocks.filter fun b => !b.isMalformed
        unterminated := none } := by
  rw [segment_eq (blankOut terminator sourceName text), lines_blankOut, segment_eq text,
    Option.isSome_map, Section.readFrom_blankLines]
  rfl

example : blankOut .standard "<string>" "select 1\n/\n-- name: one!\nselect 2\n/\nrest" =
    "\n/\n-- name: one!\nselect 2\n/\n" := by decide +kernel

/-- To skip the malformed statements of a text comes to the same as to compile the text without
their lines, which are left empty. -/
theorem result_compile_skip (settings : Settings) (text sourceName : String) :
    (compile { settings with onSyntaxError := .skip } text sourceName).result =
      (compile { settings with onSyntaxError := .abort }
        (blankOut settings.terminator sourceName text) sourceName).result := by
  unfold compile
  simp only [segment_blankOut]
  exact Compilation.result_ofBlocks_skip settings _ [] _

end AnnotatedSql
