import AnnotatedSql.Proofs.Statement.Header
import AnnotatedSql.Proofs.Statement.Partition
import AnnotatedSql.Proofs.Text.Lines
import Mathlib.Algebra.Order.Group.Int

/-!
# Blocks further down

Where a block stands matters for nothing but the lines that are named: reading the header of a block
that stands further down gives the same header or the same error, with all lines so many further
down. Lines that come after others are cut as they would be alone, if nothing of the others is left
over.
-/

set_option autoImplicit false

namespace AnnotatedSql

open Text

/-- The block so many lines further down. -/
def Block.shift (n : ℕ) (b : Block) : Block :=
  { b with startLine := b.startLine + n, endLine := b.endLine + n }

/-- The header of the block so many lines further down. -/
def Header.shift (n : ℕ) (header : Header) : Header :=
  { header with bodyLine := header.bodyLine + n, block := header.block.shift n }

/-- The statement of the block so many lines further down. -/
def Statement.shift (n : ℕ) (s : Statement) : Statement :=
  { s with block := s.block.map (Block.shift n) }

/-- Two places name lines of one source, the second so many lines further down. -/
def PlaceShifts (sourceName : String) (n : ℕ) (place place' : String) : Prop :=
  ∃ line : ℤ, place = sourceName ++ ":" ++ toString line ∧
    place' = sourceName ++ ":" ++ toString (line + n)

/-- Two problems are worded alike, but for the place of an earlier statement. -/
inductive Problem.Shifts (sourceName : String) (n : ℕ) : Problem → Problem → Prop
  /-- A problem that names no place, or a place that stays. -/
  | same (p : Problem) : Shifts sourceName n p p
  /-- The earlier statement stands further down too. -/
  | nameTaken {place place' : String} (h : PlaceShifts sourceName n place place') :
    Shifts sourceName n (.nameTaken place) (.nameTaken place')

/-- An error is another one so many lines further down. -/
structure CompileError.Shifts (sourceName : String) (n : ℕ) (e e' : CompileError) : Prop where
  /-- The problems are worded alike. -/
  problem : Problem.Shifts sourceName n e.problem e'.problem
  /-- Both name the same statement. -/
  statement_eq : e'.statement = e.statement
  /-- Both name a line, and the second line is further down. -/
  location : ∃ line : ℤ, e.location = some (sourceName ++ ":" ++ toString line) ∧
    e'.location = some (sourceName ++ ":" ++ toString (line + n))

/-- Outcomes agree: the second has the result of the first after a change, or its error further
down. -/
inductive Outcome.Shifts {α : Type} (sourceName : String) (n : ℕ) (f : α → α) :
    Except CompileError α → Except CompileError α → Prop
  /-- Both have a result. -/
  | ok (a : α) : Shifts sourceName n f (.ok a) (.ok (f a))
  /-- Both have an error. -/
  | error {e e' : CompileError} (h : e.Shifts sourceName n e') :
    Shifts sourceName n f (.error e) (.error e')

variable {sourceName : String} {n : ℕ}

/-- Problems that are worded alike are of one kind. -/
theorem Problem.Shifts.kind_eq {p p' : Problem} (h : p.Shifts sourceName n p') :
    p'.kind = p.kind := by
  cases h <;> rfl

/-- Where a place moves, so does the error that names it. -/
theorem CompileError.shifts {p p' : Problem} {place place' : String} (statement : Option String)
    (hproblem : p.Shifts sourceName n p') (hplace : PlaceShifts sourceName n place place') :
    CompileError.Shifts sourceName n ⟨p, statement, some place⟩ ⟨p', statement, some place'⟩ := by
  obtain ⟨line, rfl, rfl⟩ := hplace
  exact ⟨hproblem, rfl, line, rfl, rfl⟩

/-- Outcomes that agree are both results or both errors. -/
theorem Outcome.Shifts.ok_or_error {α : Type} {f : α → α} {x x' : Except CompileError α}
    (h : Outcome.Shifts sourceName n f x x') :
    (∃ a, x = .ok a ∧ x' = .ok (f a)) ∨
      ∃ e e', x = .error e ∧ x' = .error e' ∧ e.Shifts sourceName n e' := by
  cases h with
  | ok a => exact Or.inl ⟨a, rfl, rfl⟩
  | error he => exact Or.inr ⟨_, _, rfl, rfl, he⟩

/-- Where a place moves, so does the outcome that is an error at it. -/
theorem Outcome.Shifts.at {α : Type} {f : α → α} {place place' : String} (p : Problem)
    (statement : Option String) (h : PlaceShifts sourceName n place place') :
    Outcome.Shifts sourceName n f (.error ⟨p, statement, some place⟩)
      (.error ⟨p, statement, some place'⟩) :=
  .error (CompileError.shifts statement (.same p) h)

/-- Outcomes that agree still do after a change of the results. -/
theorem Outcome.Shifts.map {α β : Type} {f : α → α} {g : β → β} {x x' : Except CompileError α}
    (h : Outcome.Shifts sourceName n f x x') {change change' : α → β}
    (hchange : ∀ a, change' (f a) = g (change a)) :
    Outcome.Shifts sourceName n g (x.map change) (x'.map change') := by
  cases h with
  | ok a =>
    have heq : (Except.ok (f a) : Except CompileError α).map change' =
        .ok (g (change a)) := congrArg Except.ok (hchange a)
    rw [heq]
    exact .ok (change a)
  | error he => exact .error he

namespace Block

/-- The lines of a block move with the block. -/
theorem startLine_shift_add (n : ℕ) (b : Block) (offset : ℤ) :
    (b.shift n).startLine + offset = b.startLine + offset + n :=
  Int.add_right_comm _ _ _

/-- The place of a line of a block moves with the block. -/
theorem shifts_lineLocation (n : ℕ) (b : Block) (offset : ℤ) :
    PlaceShifts b.sourceName n (b.lineLocation offset) ((b.shift n).lineLocation offset) := by
  refine ⟨b.startLine + offset, rfl, ?_⟩
  rw [Block.lineLocation, startLine_shift_add]
  rfl

/-- The place of a block moves with the block. -/
theorem shifts_location (n : ℕ) (b : Block) :
    PlaceShifts b.sourceName n b.location (b.shift n).location :=
  ⟨b.startLine, rfl, rfl⟩

end Block

/-- A declaration that cannot be read is an error at its place. -/
theorem Declaration.shifts_parse (line : String) {place place' : String}
    (h : PlaceShifts sourceName n place place') :
    Outcome.Shifts sourceName n id (parse line (some place)) (parse line (some place')) := by
  unfold parse
  cases parts? line.toList with
  | none => exact .at _ none h
  | some parts =>
    obtain ⟨name, multiplicity, type⟩ := parts
    cases type with
    | nil => exact .at _ none h
    | cons c rest => exact .ok _

namespace Header

/-- A header keeps its name wherever it stands. -/
theorem name_shift (n : ℕ) (header : Header) : (header.shift n).name = header.name := rfl

/-- The place of a body moves with the block. -/
theorem shifts_bodyLocation (n : ℕ) (header : Header) :
    PlaceShifts header.block.sourceName n header.bodyLocation (header.shift n).bodyLocation :=
  ⟨header.bodyLine, rfl, rfl⟩

/-- The lines of a header hold the same wherever they stand. -/
theorem shifts_contents (n : ℕ) (block : Block) (name : String) (offset : ℕ)
    (declared ls : List String) :
    Outcome.Shifts block.sourceName n id (contents block name offset declared ls)
      (contents (block.shift n) name offset declared ls) := by
  induction ls generalizing offset declared with
  | nil => exact .ok _
  | cons line rest ih =>
    have hplace := block.shifts_lineLocation n offset
    unfold contents
    cases HeaderLine.ofLine line with
    | blank => exact ih _ _
    | sql => exact ih _ _
    | remark text => exact (ih _ _).map fun _ => rfl
    | directive directive =>
      cases directive with
      | name => exact .at _ _ hplace
      | param =>
        rcases (Declaration.shifts_parse line hplace).ok_or_error with
          ⟨d, hd, hd'⟩ | ⟨e, e', he, he', hshifts⟩
        · simp only [hd, hd', id_eq]
          split
          · exact .at _ _ hplace
          · exact (ih _ _).map fun _ => rfl
        · simp only [he, he']
          exact .error hshifts

/-- The header of the first lines after the preamble is the same wherever they stand. -/
theorem shifts_parseFrom (n : ℕ) (block : Block) (offset : ℕ) (ls : List String) :
    Outcome.Shifts block.sourceName n (Header.shift n) (parseFrom block offset ls)
      (parseFrom (block.shift n) offset ls) := by
  cases ls with
  | nil => exact .at _ _ (block.shifts_location n)
  | cons line rest =>
    have hplace := block.shifts_lineLocation n offset
    unfold parseFrom
    simp only
    cases HeaderLine.ofLine line with
    | blank => exact .at _ _ hplace
    | sql => exact .at _ _ hplace
    | remark text => exact .at _ _ hplace
    | directive directive =>
      cases directive with
      | param => exact .at _ _ hplace
      | name =>
        simp only
        cases nameAndKind? line with
        | none => exact .at _ _ hplace
        | some parts =>
          obtain ⟨name, kind⟩ := parts
          simp only
          rcases (shifts_contents n block name (offset + 1) []
            (rest.takeWhile (!startsBody ·))).ok_or_error with
            ⟨c, hc, hc'⟩ | ⟨e, e', he, he', hshifts⟩
          · simp only [hc, hc', id_eq]
            split
            · exact .at _ _ (block.shifts_location n)
            · rw [block.startLine_shift_add]
              exact .ok _
          · simp only [he, he']
            exact .error hshifts

/-- A block has the same header wherever it stands. -/
theorem shifts_parse (n : ℕ) (block : Block) :
    Outcome.Shifts block.sourceName n (Header.shift n) (parse block) (parse (block.shift n)) :=
  shifts_parseFrom n block _ _

/-- A header has the same parameters wherever it stands. -/
theorem shifts_resolve (n : ℕ) (header : Header) (unused : UnusedPolicy) :
    Outcome.Shifts header.block.sourceName n (Statement.shift n) (header.resolve unused)
      ((header.shift n).resolve unused) := by
  have hplace := header.shifts_bodyLocation n
  unfold resolve Resolution.resolve
  simp only [shift]
  cases Resolution.parameters header.kind header.declarations (Token.scan header.body) unused with
  | error p => exact .at _ _ hplace
  | ok parameters => exact .ok _

end Header

namespace Section

variable {ends : String → Bool} {number : ℕ}

/-- The block of a section stands where the section does. -/
theorem block?_add (number n : ℕ) (s : List String) :
    block? sourceName (number + n) s = (block? sourceName number s).map (Block.shift n) := by
  unfold block?
  split
  · rfl
  · simp only [Option.map_some, Block.shift, Option.some.injEq, Block.mk.injEq, true_and, and_true]
    omega

/-- The blocks of sections stand where the sections do. -/
theorem blocks_add (number n : ℕ) (sections : List (List String)) :
    blocks sourceName (number + n) sections =
      (blocks sourceName number sections).map (Block.shift n) := by
  induction sections generalizing number with
  | nil => rfl
  | cons s rest ih =>
    have hnumber : number + n + s.length + 1 = number + s.length + 1 + n := by omega
    have hfirst : ((block? sourceName number s).map (Block.shift n)).toList =
        (block? sourceName number s).toList.map (Block.shift n) := by
      cases block? sourceName number s <;> rfl
    rw [blocks, blocks, hnumber, ih, block?_add, hfirst, List.map_append]

/-- Lines hold the same wherever they stand. -/
theorem readFrom_add (number n : ℕ) (ls : List String) :
    readFrom ends sourceName (number + n) ls =
      ((readFrom ends sourceName number ls).1.map (Block.shift n),
        (readFrom ends sourceName number ls).2.map (Block.shift n)) := by
  have hnumber : number + n + lineCount (cut ends ls).1 =
      number + lineCount (cut ends ls).1 + n := Nat.add_right_comm _ _ _
  unfold readFrom
  rw [blocks_add, hnumber, block?_add]

/-- Lines hold the same after lines of which nothing is left over. -/
theorem readFrom_append_of_none {front : List String} (ls : List String)
    (h : (readFrom ends sourceName number front).2 = none) :
    readFrom ends sourceName number (front ++ ls) =
      ((readFrom ends sourceName number front).1 ++
          (readFrom ends sourceName (number + front.length) ls).1,
        (readFrom ends sourceName (number + front.length) ls).2) := by
  induction front using sectionsInduction ends generalizing number with
  | tail front hfront =>
    rw [readFrom_of_not_ends hfront] at h ⊢
    rw [readFrom_append_of_blank ls (block?_eq_none_iff.mp h)]
    rfl
  | ended s line rest hs hline ih =>
    have hlength : number + (s ++ line :: rest).length =
        number + s.length + 1 + rest.length := by
      simp only [List.length_append, List.length_cons]
      omega
    rw [readFrom_append rest hs hline] at h ⊢
    rw [List.append_assoc, List.cons_append, readFrom_append _ hs hline, ih h, hlength,
      List.append_assoc]

end Section

/-- Nothing is left over of a text without an error about its end. -/
theorem readFrom_of_unterminated_eq_none {text : String} {terminator : Terminator}
    (h : (segment text terminator sourceName).unterminated = none) :
    (Section.readFrom terminator.strip.ends sourceName 1 (lines text)).2 = none := by
  rw [segment_eq, Option.map_eq_none_iff] at h
  exact h

/-- The blocks of a text name its source. -/
theorem sourceName_of_mem_blocks {text : String} {terminator : Terminator} {b : Block}
    (h : b ∈ (segment text terminator sourceName).blocks) : b.sourceName = sourceName := by
  rw [segment_eq] at h
  obtain ⟨_, _, _, _, rfl⟩ := Section.mem_readFrom_iff.mp h
  rfl

/-- After a text of which nothing is left over, a text is cut as it is alone, further down. -/
theorem blocks_segment_append {a : String} (b : String) {terminator : Terminator}
    (h : (segment a terminator sourceName).unterminated = none) :
    (segment (a ++ "\n" ++ b) terminator sourceName).blocks =
      (segment a terminator sourceName).blocks ++
        (segment b terminator sourceName).blocks.map (Block.shift (lines a).length) := by
  simp only [segment_eq, lines_append,
    Section.readFrom_append_of_none _ (readFrom_of_unterminated_eq_none h), Section.readFrom_add]

/-- After a text of which nothing is left over, the same is left over of a text as of it alone. -/
theorem unterminated_segment_append {a : String} (b : String) {terminator : Terminator}
    (h : (segment a terminator sourceName).unterminated = none) :
    Option.Rel (CompileError.Shifts sourceName (lines a).length)
      (segment b terminator sourceName).unterminated
      (segment (a ++ "\n" ++ b) terminator sourceName).unterminated := by
  simp only [segment_eq, lines_append,
    Section.readFrom_append_of_none _ (readFrom_of_unterminated_eq_none h), Section.readFrom_add]
  cases hblock : (Section.readFrom terminator.strip.ends sourceName 1 (lines b)).2 with
  | none => exact .none
  | some rest =>
    have hsource : rest.sourceName = sourceName := by
      obtain ⟨_, _, _, _, rfl⟩ := Section.readFrom_eq_some_iff.mp hblock
      rfl
    subst hsource
    exact .some (CompileError.shifts none (.same _) (rest.shifts_location _))

end AnnotatedSql
