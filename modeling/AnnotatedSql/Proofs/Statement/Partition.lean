import AnnotatedSql.Proofs.Statement.Sections
import AnnotatedSql.Proofs.Text.Lines
import Mathlib.Data.List.Basic

/-!
# Blocks partition a text

The blocks of a text are its longest runs of lines that end nothing, as far as a terminator line
follows and a line is not blank. Each starts at the first line of its run that is not blank and goes
on to the end of the run. So no line that is not blank is lost, doubled or moved. Places of lines
count from zero here, and the numbers that blocks have count from one.
-/

set_option autoImplicit false

namespace AnnotatedSql

open Text

namespace Section

/-- The line is not blank. -/
def isFilled (line : String) : Bool :=
  !isBlankLine line

/-- There is a line at a place, and it has a property. -/
def holdsAt (p : String → Bool) (ls : List String) (place : ℕ) : Bool :=
  ls[place]?.any p

/-- A place is the first one, from another one on, whose line has a property. -/
structure IsFirst (p : String → Bool) (ls : List String) (start found : ℕ) : Prop where
  /-- It does not come before the other place. -/
  le : start ≤ found
  /-- Its line has the property. -/
  holds : holdsAt p ls found = true
  /-- No line between has it. -/
  before : ∀ i, start ≤ i → i < found → holdsAt p ls i = false

/-- The text starts at a place, or the line before it ends a section. -/
def Opens (ends : String → Bool) (ls : List String) (first : ℕ) : Prop :=
  first = 0 ∨ holdsAt ends ls (first - 1) = true

/-- The lines from one place up to another are a longest run that a terminator line follows, and its
first line that is not blank is at a place between. -/
structure IsRun (ends : String → Bool) (ls : List String) (first start last : ℕ) : Prop where
  /-- The run could not start earlier. -/
  opens : Opens ends ls first
  /-- It goes on up to the next terminator line. -/
  closes : IsFirst ends ls first last
  /-- The first line that is not blank. -/
  starts : IsFirst isFilled ls first start
  /-- That line belongs to the run. -/
  lt : start < last

/-- The lines from a place on are those after the last terminator line. -/
structure IsTail (ends : String → Bool) (ls : List String) (first : ℕ) : Prop where
  /-- They could not start earlier. -/
  opens : Opens ends ls first
  /-- None of them ends anything. -/
  inside : ∀ i, first ≤ i → holdsAt ends ls i = false

/-- The block of the lines from one place up to another, where the first line has a number. -/
def blockAt (sourceName : String) (number : ℕ) (ls : List String) (start last : ℕ) : Block :=
  { text := unlines ((ls.take last).drop start)
    startLine := (number + start : ℕ)
    endLine := (number + last : ℕ) - 1
    sourceName := sourceName }

/-- The lines that are not blank with their numbers, where the first line has a number. -/
def filledLines (number : ℕ) (ls : List String) : List (String × ℕ) :=
  (ls.zipIdx number).filter fun l => isFilled l.1

section Places

variable {p ends : String → Bool}

/-- Lines in front move the places. -/
theorem holdsAt_append_add (front ls : List String) (i : ℕ) :
    holdsAt p (front ++ ls) (front.length + i) = holdsAt p ls i := by
  unfold holdsAt
  rw [List.getElem?_append_right (Nat.le_add_right _ _), Nat.add_sub_cancel_left]

/-- Lines after others do not move these. -/
theorem holdsAt_append_of_lt {front : List String} (ls : List String) {i : ℕ}
    (h : i < front.length) : holdsAt p (front ++ ls) i = holdsAt p front i := by
  unfold holdsAt
  rw [List.getElem?_append_left h]

/-- A place whose line has a property is a place of a line. -/
theorem lt_length_of_holdsAt {ls : List String} {i : ℕ} (h : holdsAt p ls i = true) :
    i < ls.length := by
  by_contra hlt
  rw [holdsAt, List.getElem?_eq_none (by omega)] at h
  cases h

/-- No place has a property that no line has. -/
theorem holdsAt_eq_false {ls : List String} (h : ∀ l ∈ ls, p l = false) (i : ℕ) :
    holdsAt p ls i = false := by
  unfold holdsAt
  cases hline : ls[i]? with
  | none => rfl
  | some line => exact h line (List.mem_of_getElem? hline)

/-- Lines in front move the first place of a property. -/
theorem isFirst_append_add_iff {front ls : List String} {start found : ℕ} :
    IsFirst p (front ++ ls) (front.length + start) (front.length + found) ↔
      IsFirst p ls start found := by
  constructor
  · rintro ⟨hle, hholds, hbefore⟩
    refine ⟨by omega, by rwa [holdsAt_append_add] at hholds, ?_⟩
    intro i hi hlt
    rw [← holdsAt_append_add front]
    exact hbefore _ (by omega) (by omega)
  · rintro ⟨hle, hholds, hbefore⟩
    refine ⟨by omega, by rwa [holdsAt_append_add], ?_⟩
    intro i hi hlt
    obtain ⟨k, rfl⟩ : ∃ k, i = front.length + k := ⟨i - front.length, by omega⟩
    rw [holdsAt_append_add]
    exact hbefore k (by omega) (by omega)

/-- Lines after others do not move the first place among these. -/
theorem isFirst_append_iff {front ls : List String} {start found : ℕ}
    (h : found < front.length) :
    IsFirst p (front ++ ls) start found ↔ IsFirst p front start found := by
  constructor
  · rintro ⟨hle, hholds, hbefore⟩
    refine ⟨hle, by rwa [holdsAt_append_of_lt ls h] at hholds, ?_⟩
    intro i hi hlt
    rw [← holdsAt_append_of_lt ls (by omega)]
    exact hbefore i hi hlt
  · rintro ⟨hle, hholds, hbefore⟩
    refine ⟨hle, by rwa [holdsAt_append_of_lt ls h], ?_⟩
    intro i hi hlt
    rw [holdsAt_append_of_lt ls (by omega)]
    exact hbefore i hi hlt

/-- The first place of a property is not one whose line does not have it. -/
theorem isFirst_succ_iff {ls : List String} {start found : ℕ}
    (h : holdsAt p ls start = false) :
    IsFirst p ls (start + 1) found ↔ IsFirst p ls start found := by
  constructor
  · rintro ⟨hle, hholds, hbefore⟩
    refine ⟨by omega, hholds, ?_⟩
    intro i hi hlt
    rcases Nat.eq_or_lt_of_le hi with rfl | hi
    · exact h
    · exact hbefore i hi hlt
  · rintro ⟨hle, hholds, hbefore⟩
    have hne : start ≠ found := by
      rintro rfl
      rw [h] at hholds
      cases hholds
    exact ⟨by omega, hholds, fun i hi hlt => hbefore i (by omega) hlt⟩

/-- The first place of a property is one place. -/
theorem IsFirst.unique {ls : List String} {start found other : ℕ} (h : IsFirst p ls start found)
    (hother : IsFirst p ls start other) : found = other := by
  by_contra hne
  rcases Nat.lt_or_gt_of_ne hne with hlt | hlt
  · simpa [h.holds] using hother.before found h.le hlt
  · simpa [hother.holds] using h.before other hother.le hlt

end Places

/-- Lines in front move the block of some lines. -/
theorem blockAt_append_add (sourceName : String) (number : ℕ) (front ls : List String)
    (start last : ℕ) :
    blockAt sourceName number (front ++ ls) (front.length + start) (front.length + last) =
      blockAt sourceName (number + front.length) ls start last := by
  unfold blockAt
  simp only [List.take_length_add_append, List.drop_length_add_append, Nat.add_assoc]

/-- Lines after others are no part of a block of these. -/
theorem blockAt_append (sourceName : String) (number : ℕ) (front ls : List String) (start : ℕ) :
    blockAt sourceName number (front ++ ls) start front.length =
      blockAt sourceName number front start front.length := by
  unfold blockAt
  rw [List.take_left, List.take_length]

/-- The block of a section goes from its first line that is not blank to its end. -/
theorem block?_eq_some_iff {sourceName : String} {number : ℕ} {s : List String} {b : Block} :
    block? sourceName number s = some b ↔
      ∃ start, IsFirst isFilled s 0 start ∧ b = blockAt sourceName number s start s.length := by
  induction s generalizing number with
  | nil =>
    constructor
    · intro h
      cases h
    · rintro ⟨start, hstart, _⟩
      exact absurd (lt_length_of_holdsAt hstart.holds) (by simp)
  | cons line rest ih =>
    cases hline : isBlankLine line with
    | true =>
      have hzero : holdsAt isFilled (line :: rest) 0 = false := by simp [holdsAt, isFilled, hline]
      have hmove : ∀ start, IsFirst isFilled (line :: rest) 0 ([line].length + start) ↔
          IsFirst isFilled rest 0 start := by
        intro start
        have h : IsFirst isFilled ([line] ++ rest) ([line].length + 0) ([line].length + start) ↔
            IsFirst isFilled rest 0 start := isFirst_append_add_iff
        rw [← isFirst_succ_iff hzero]
        exact h
      have hblock : ∀ start,
          blockAt sourceName number (line :: rest) ([line].length + start) (line :: rest).length =
            blockAt sourceName (number + 1) rest start rest.length := by
        intro start
        have hlength : (line :: rest).length = [line].length + rest.length := Nat.add_comm _ _
        rw [hlength]
        exact blockAt_append_add sourceName number [line] rest start rest.length
      rw [block?_cons_of_blank rest hline, ih]
      constructor
      · rintro ⟨start, hstart, rfl⟩
        exact ⟨[line].length + start, (hmove start).mpr hstart, (hblock start).symm⟩
      · rintro ⟨start, hstart, rfl⟩
        have hle := ((isFirst_succ_iff hzero).mpr hstart).le
        obtain ⟨k, rfl⟩ : ∃ k, start = [line].length + k := ⟨start - 1, by
          rw [List.length_singleton]
          omega⟩
        exact ⟨k, (hmove k).mp hstart, hblock k⟩
    | false =>
      have hzero : IsFirst isFilled (line :: rest) 0 0 :=
        ⟨le_rfl, by simp [holdsAt, isFilled, hline], by omega⟩
      have hblock : block? sourceName number (line :: rest) =
          some (blockAt sourceName number (line :: rest) 0 (line :: rest).length) := by
        rw [block?_cons_of_filled rest hline, blockAt, List.take_length]
        simp only [List.drop_zero, List.length_cons, Option.some.injEq, Block.mk.injEq, true_and,
          and_true]
        omega
      rw [hblock, Option.some.injEq]
      constructor
      · intro h
        exact ⟨0, hzero, h.symm⟩
      · rintro ⟨start, hstart, rfl⟩
        rw [hstart.unique hzero]

section Runs

variable {ends : String → Bool} {s rest : List String} {line : String}

/-- Lines up to a terminator line end there. -/
theorem isFirst_ends (hs : ∀ l ∈ s, ends l = false) (hline : ends line = true) :
    IsFirst ends (s ++ [line] ++ rest) 0 s.length := by
  refine ⟨Nat.zero_le _, ?_, ?_⟩
  · simp [holdsAt, hline]
  · intro i _ hi
    rw [List.append_assoc, holdsAt_append_of_lt _ hi]
    exact holdsAt_eq_false hs i

/-- After a section, runs open where they do in the lines after it. -/
theorem opens_append_add_iff (hline : ends line = true) {first : ℕ} :
    Opens ends (s ++ [line] ++ rest) ((s ++ [line]).length + first) ↔ Opens ends rest first := by
  cases first with
  | zero =>
    have hholds : holdsAt ends (s ++ [line] ++ rest) ((s ++ [line]).length + 0 - 1) = true := by
      simp [holdsAt, hline]
    exact iff_of_true (Or.inr hholds) (Or.inl rfl)
  | succ k =>
    have hplace : (s ++ [line]).length + (k + 1) - 1 = (s ++ [line]).length + k := rfl
    simp only [Opens, hplace, holdsAt_append_add, Nat.add_sub_cancel]
    simp

/-- No run opens within a section but at its start. -/
theorem eq_zero_of_opens (hs : ∀ l ∈ s, ends l = false) {first : ℕ}
    (h : Opens ends (s ++ [line] ++ rest) first) (hle : first ≤ s.length) : first = 0 := by
  rcases h with h | h
  · exact h
  · by_contra hne
    rw [List.append_assoc, holdsAt_append_of_lt _ (by omega), holdsAt_eq_false hs] at h
    cases h

/-- A run is the first section, or a run of the lines after it. -/
theorem isRun_append_iff (hs : ∀ l ∈ s, ends l = false) (hline : ends line = true)
    {first start last : ℕ} :
    IsRun ends (s ++ [line] ++ rest) first start last ↔
      (first = 0 ∧ IsFirst isFilled s 0 start ∧ last = s.length) ∨
      ∃ f n l, IsRun ends rest f n l ∧ first = (s ++ [line]).length + f ∧
        start = (s ++ [line]).length + n ∧ last = (s ++ [line]).length + l := by
  have hlength : (s ++ [line]).length = s.length + 1 := by simp
  constructor
  · rintro ⟨hopens, hcloses, hstarts, hlt⟩
    by_cases hle : first ≤ s.length
    · left
      have hfirst : first = 0 := eq_zero_of_opens hs hopens hle
      subst hfirst
      have hlast : last = s.length := hcloses.unique (isFirst_ends hs hline)
      subst hlast
      refine ⟨rfl, ?_, rfl⟩
      rw [List.append_assoc] at hstarts
      exact (isFirst_append_iff hlt).mp hstarts
    · right
      have hstart := hstarts.le
      obtain ⟨f, rfl⟩ : ∃ f, first = (s ++ [line]).length + f :=
        ⟨first - (s ++ [line]).length, by omega⟩
      obtain ⟨n, rfl⟩ : ∃ n, start = (s ++ [line]).length + n :=
        ⟨start - (s ++ [line]).length, by omega⟩
      obtain ⟨l, rfl⟩ : ∃ l, last = (s ++ [line]).length + l :=
        ⟨last - (s ++ [line]).length, by omega⟩
      refine ⟨f, n, l, ⟨?_, ?_, ?_, by omega⟩, rfl, rfl, rfl⟩
      · exact (opens_append_add_iff hline).mp hopens
      · exact isFirst_append_add_iff.mp hcloses
      · exact isFirst_append_add_iff.mp hstarts
  · rintro (⟨rfl, hstarts, rfl⟩ | ⟨f, n, l, hrun, rfl, rfl, rfl⟩)
    · have hlt := lt_length_of_holdsAt hstarts.holds
      refine ⟨Or.inl rfl, isFirst_ends hs hline, ?_, hlt⟩
      rw [List.append_assoc]
      exact (isFirst_append_iff hlt).mpr hstarts
    · have hlt := hrun.lt
      exact ⟨(opens_append_add_iff hline).mpr hrun.opens, isFirst_append_add_iff.mpr hrun.closes,
        isFirst_append_add_iff.mpr hrun.starts, by omega⟩

/-- The lines after the last terminator line are those of the lines after a section. -/
theorem isTail_append_iff (hs : ∀ l ∈ s, ends l = false) (hline : ends line = true) {first : ℕ} :
    IsTail ends (s ++ [line] ++ rest) first ↔
      ∃ f, IsTail ends rest f ∧ first = (s ++ [line]).length + f := by
  have hlength : (s ++ [line]).length = s.length + 1 := by simp
  constructor
  · rintro ⟨hopens, hinside⟩
    have hlt : s.length < first := by
      by_contra hle
      have hends := hinside s.length (by omega)
      rw [(isFirst_ends hs hline).holds] at hends
      cases hends
    obtain ⟨f, rfl⟩ : ∃ f, first = (s ++ [line]).length + f :=
      ⟨first - (s ++ [line]).length, by omega⟩
    refine ⟨f, ⟨(opens_append_add_iff hline).mp hopens, ?_⟩, rfl⟩
    intro i hi
    rw [← holdsAt_append_add (s ++ [line])]
    exact hinside _ (by omega)
  · rintro ⟨f, ⟨hopens, hinside⟩, rfl⟩
    refine ⟨(opens_append_add_iff hline).mpr hopens, ?_⟩
    intro i hi
    obtain ⟨k, rfl⟩ : ∃ k, i = (s ++ [line]).length + k :=
      ⟨i - (s ++ [line]).length, by omega⟩
    rw [holdsAt_append_add]
    exact hinside k (by omega)

end Runs

section Found

variable {ends : String → Bool} {sourceName : String} {number : ℕ}

/-- The block of the first section comes before what the lines after the terminator line hold. -/
theorem readFrom_section {s : List String} {line : String} (rest : List String)
    (hs : ∀ l ∈ s, ends l = false) (hline : ends line = true) :
    readFrom ends sourceName number (s ++ [line] ++ rest) =
      ((block? sourceName number s).toList ++
          (readFrom ends sourceName (number + (s ++ [line]).length) rest).1,
        (readFrom ends sourceName (number + (s ++ [line]).length) rest).2) := by
  have hnumber : number + (s ++ [line]).length = number + s.length + 1 := by
    rw [List.length_append, List.length_singleton, Nat.add_assoc]
  rw [hnumber, ← List.append_cons, readFrom_append rest hs hline]

/-- There is a block exactly for each run with a line that is not blank. -/
theorem mem_readFrom_iff {ls : List String} {b : Block} :
    b ∈ (readFrom ends sourceName number ls).1 ↔
      ∃ first start last, IsRun ends ls first start last ∧
        b = blockAt sourceName number ls start last := by
  induction ls using sectionsInduction ends generalizing number with
  | tail ls hls =>
    rw [readFrom_of_not_ends hls]
    constructor
    · intro h
      cases h
    · rintro ⟨first, start, last, hrun, _⟩
      have hholds := hrun.closes.holds
      rw [holdsAt_eq_false hls] at hholds
      cases hholds
  | ended s line rest hs hline ih =>
    rw [List.append_cons, readFrom_section rest hs hline]
    constructor
    · intro h
      rcases List.mem_append.mp h with hfirst | hlater
      · obtain ⟨start, hstart, rfl⟩ := block?_eq_some_iff.mp (Option.mem_toList.mp hfirst)
        refine ⟨0, start, s.length, (isRun_append_iff hs hline).mpr (Or.inl ⟨rfl, hstart, rfl⟩), ?_⟩
        rw [List.append_assoc, blockAt_append]
      · obtain ⟨first, start, last, hrun, rfl⟩ := ih.mp hlater
        exact ⟨_, _, _, (isRun_append_iff hs hline).mpr
          (Or.inr ⟨first, start, last, hrun, rfl, rfl, rfl⟩),
          (blockAt_append_add sourceName number _ rest start last).symm⟩
    · rintro ⟨first, start, last, hrun, rfl⟩
      rcases (isRun_append_iff hs hline).mp hrun with
        ⟨rfl, hstart, rfl⟩ | ⟨f, n, l, hrest, rfl, rfl, rfl⟩
      · apply List.mem_append_left
        rw [List.append_assoc, blockAt_append]
        exact Option.mem_toList.mpr (block?_eq_some_iff.mpr ⟨start, hstart, rfl⟩)
      · apply List.mem_append_right
        exact ih.mpr ⟨f, n, l, hrest, blockAt_append_add sourceName number _ rest n l⟩

/-- Text is left over when a line after the last terminator line is not blank. -/
theorem readFrom_eq_some_iff {ls : List String} {b : Block} :
    (readFrom ends sourceName number ls).2 = some b ↔
      ∃ first start, IsTail ends ls first ∧ IsFirst isFilled ls first start ∧
        b = blockAt sourceName number ls start ls.length := by
  induction ls using sectionsInduction ends generalizing number with
  | tail ls hls =>
    rw [readFrom_of_not_ends hls, block?_eq_some_iff]
    constructor
    · rintro ⟨start, hstart, rfl⟩
      exact ⟨0, start, ⟨Or.inl rfl, fun i _ => holdsAt_eq_false hls i⟩, hstart, rfl⟩
    · rintro ⟨first, start, htail, hstart, rfl⟩
      rcases htail.opens with rfl | hends
      · exact ⟨start, hstart, rfl⟩
      · rw [holdsAt_eq_false hls] at hends
        cases hends
  | ended s line rest hs hline ih =>
    have hblock : ∀ start, blockAt sourceName number (s ++ [line] ++ rest)
        ((s ++ [line]).length + start) (s ++ [line] ++ rest).length =
          blockAt sourceName (number + (s ++ [line]).length) rest start rest.length := by
      intro start
      have hlength : (s ++ [line] ++ rest).length = (s ++ [line]).length + rest.length :=
        List.length_append
      rw [hlength]
      exact blockAt_append_add sourceName number _ rest start rest.length
    rw [List.append_cons, readFrom_section rest hs hline, ih]
    constructor
    · rintro ⟨first, start, htail, hstart, rfl⟩
      exact ⟨_, _, (isTail_append_iff hs hline).mpr ⟨first, htail, rfl⟩,
        isFirst_append_add_iff.mpr hstart, (hblock start).symm⟩
    · rintro ⟨first, start, htail, hstart, rfl⟩
      obtain ⟨f, hrest, rfl⟩ := (isTail_append_iff hs hline).mp htail
      have hle := hstart.le
      obtain ⟨n, rfl⟩ : ∃ n, start = (s ++ [line]).length + n :=
        ⟨start - (s ++ [line]).length, by omega⟩
      exact ⟨f, n, hrest, isFirst_append_add_iff.mp hstart, hblock n⟩

/-- Every block ends before the next one starts. -/
theorem pairwise_readFrom (ls : List String) :
    (readFrom ends sourceName number ls).1.Pairwise fun a b => a.endLine < b.startLine := by
  induction ls using sectionsInduction ends generalizing number with
  | tail ls hls =>
    rw [readFrom_of_not_ends hls]
    exact List.Pairwise.nil
  | ended s line rest hs hline ih =>
    rw [readFrom_append rest hs hline, List.pairwise_append]
    refine ⟨?_, ih, ?_⟩
    · cases block? sourceName number s with
      | none => exact List.Pairwise.nil
      | some b => exact List.pairwise_singleton _ b
    · intro a ha b hb
      obtain ⟨start, _, rfl⟩ := block?_eq_some_iff.mp (Option.mem_toList.mp ha)
      have hlater := startLine_of_mem_blocks hb
      simp only [blockAt]
      omega

/-- The lines of a section that are not blank are those of its block. -/
theorem flatMap_block? {s : List String} (hs : ∀ l ∈ s, '\n' ∉ l.toList) :
    (block? sourceName number s).toList.flatMap
        (fun b => filledLines b.startLine.toNat (lines b.text)) = filledLines number s := by
  induction s generalizing number with
  | nil => rfl
  | cons line rest ih =>
    cases hline : isBlankLine line with
    | true =>
      rw [block?_cons_of_blank rest hline, ih fun l hl => hs l (List.mem_cons_of_mem _ hl)]
      simp [filledLines, isFilled, hline]
    | false =>
      rw [block?_cons_of_filled rest hline]
      simp [lines_unlines (List.cons_ne_nil line rest) hs]

/-- The lines that are not blank and end nothing are those of the blocks and those that are left
over, in order and with their numbers. -/
theorem filter_zipIdx_eq {ls : List String} (hls : ∀ l ∈ ls, '\n' ∉ l.toList) :
    ∃ first, IsTail ends ls first ∧
      (ls.zipIdx number).filter (fun l => isFilled l.1 && !ends l.1) =
        (readFrom ends sourceName number ls).1.flatMap
            (fun b => filledLines b.startLine.toNat (lines b.text)) ++
          filledLines (number + first) (ls.drop first) := by
  have hplain : ∀ (number : ℕ) (s : List String), (∀ l ∈ s, ends l = false) →
      (s.zipIdx number).filter (fun l => isFilled l.1 && !ends l.1) = filledLines number s := by
    intro number s hs
    apply List.filter_congr
    intro l hl
    simp [hs l.1 (List.fst_mem_of_mem_zipIdx hl)]
  induction ls using sectionsInduction ends generalizing number with
  | tail ls hends =>
    refine ⟨0, ⟨Or.inl rfl, fun i _ => holdsAt_eq_false hends i⟩, ?_⟩
    rw [readFrom_of_not_ends hends, hplain number ls hends]
    rfl
  | ended s line rest hs hline ih =>
    obtain ⟨first, htail, hrest⟩ :=
      @ih (number + (s ++ [line]).length) fun l hl => hls l (by simp [hl])
    rw [List.append_cons]
    refine ⟨(s ++ [line]).length + first, ?_, ?_⟩
    · exact (isTail_append_iff hs hline).mpr ⟨first, htail, rfl⟩
    · have hsection := @flatMap_block? sourceName number s fun l hl => hls l (by simp [hl])
      have hends : ([line].zipIdx (number + s.length)).filter
          (fun l => isFilled l.1 && !ends l.1) = [] := by simp [hline]
      rw [readFrom_section rest hs hline, List.flatMap_append, hsection, ← hplain number s hs]
      rw [List.zipIdx_append, List.zipIdx_append, List.filter_append, List.filter_append, hends,
        List.append_nil, List.drop_length_add_append, hrest, List.append_assoc, Nat.add_assoc]

end Found

end Section

namespace Segmentation

/-- Blocks and an error are what there is to find in a text. -/
structure Partitions (text : String) (terminator : Terminator) (sourceName : String)
    (found : Segmentation) : Prop where
  /-- There is a block exactly for each run of lines that a terminator line follows and that is not
  blank. It starts at the first line of the run that is not blank. -/
  mem_blocks_iff : ∀ b, b ∈ found.blocks ↔
    ∃ first start last, Section.IsRun terminator.strip.ends (lines text) first start last ∧
      b = Section.blockAt sourceName 1 (lines text) start last
  /-- The blocks come in order, and each is there once. -/
  ordered : found.blocks.Pairwise fun a b => a.endLine < b.startLine
  /-- There is an error exactly when a line after the last terminator line is not blank. It names
  the first such line. -/
  unterminated_iff : ∀ e, found.unterminated = some e ↔
    ∃ first start, Section.IsTail terminator.strip.ends (lines text) first ∧
      Section.IsFirst Section.isFilled (lines text) first start ∧
      e = { problem := .unterminated terminator.strip, statement := none,
            location := some (sourceName ++ ":" ++ toString (start + 1)) }
  /-- The lines that are not blank and no terminator lines are those of the blocks, and after them
  those after the last terminator line, in order and with their numbers. -/
  filled_eq : ∃ first, Section.IsTail terminator.strip.ends (lines text) first ∧
    ((lines text).zipIdx 1).filter (fun l => Section.isFilled l.1 && !terminator.strip.ends l.1) =
      found.blocks.flatMap (fun b => Section.filledLines b.startLine.toNat (lines b.text)) ++
        Section.filledLines (first + 1) ((lines text).drop first)

end Segmentation

/-- Cutting a text finds what there is to find in it. -/
theorem partitions_segment (text : String) (terminator : Terminator) (sourceName : String) :
    (segment text terminator sourceName).Partitions text terminator sourceName := by
  have hlines : ∀ line ∈ lines text, '\n' ∉ line.toList := fun _ => newline_not_mem_of_mem_lines
  rw [segment_eq]
  refine ⟨fun b => Section.mem_readFrom_iff, Section.pairwise_readFrom _, ?_, ?_⟩
  · intro e
    rw [Option.map_eq_some_iff]
    constructor
    · rintro ⟨b, hb, rfl⟩
      obtain ⟨first, start, htail, hstart, rfl⟩ := Section.readFrom_eq_some_iff.mp hb
      refine ⟨first, start, htail, hstart, ?_⟩
      rw [Nat.add_comm start]
      rfl
    · rintro ⟨first, start, htail, hstart, rfl⟩
      refine ⟨_, Section.readFrom_eq_some_iff.mpr ⟨first, start, htail, hstart, rfl⟩, ?_⟩
      rw [Nat.add_comm start]
      rfl
  · obtain ⟨first, htail, hfilled⟩ :=
      @Section.filter_zipIdx_eq terminator.strip.ends sourceName 1 (lines text) hlines
    refine ⟨first, htail, ?_⟩
    rw [hfilled, Nat.add_comm 1]

example : (segment "\n\na\n\nb\n/\n/\n\nc" .standard "<string>").blocks =
    [⟨"a\n\nb", 3, 5, "<string>"⟩] := by decide +kernel

end AnnotatedSql
