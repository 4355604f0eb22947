import AnnotatedSql.Proofs.Compilation
import AnnotatedSql.Proofs.Statement.Deciding
import AnnotatedSql.Proofs.Statement.Shifting

/-!
# The first error

Under the policy to stop, a text is compiled up to the first block that cannot be compiled, and the
error is the one of that block. What is left over after the last block comes last. Every error names
a line of the text: the line of a header at which it is settled that the block is not read, the line
that a body starts on, or the line that the block starts on.
-/

set_option autoImplicit false

namespace AnnotatedSql

open Text

/-- An error names a line of a text by its number, counted from one. -/
structure CompileError.NamesLine (text sourceName : String) (e : CompileError) (line : String)
    (number : ℕ) : Prop where
  /-- The place is that number after the source. -/
  location_eq : e.location = some (sourceName ++ ":" ++ toString number)
  /-- The first line is line one. -/
  pos : 1 ≤ number
  /-- The text has the line there. -/
  line_eq : (lines text)[number - 1]? = some line

/-- The lines of a block are lines of the text, from the line on that the block starts on. -/
theorem line_of_mem_blocks {text sourceName : String} {terminator : Terminator} {b : Block}
    (h : b ∈ (segment text terminator sourceName).blocks) {i : ℕ} {line : String}
    (hline : (lines b.text)[i]? = some line) :
    ∃ number : ℕ, (number : ℤ) = b.startLine + i ∧ 1 ≤ number ∧
      (lines text)[number - 1]? = some line := by
  rw [segment_eq] at h
  obtain ⟨first, start, last, hrun, rfl⟩ := Section.mem_readFrom_iff.mp h
  have hlt := hrun.lt
  have hlast := Section.lt_length_of_holdsAt hrun.closes.holds
  have hne : ((lines text).take last).drop start ≠ [] := by
    intro hnil
    have hlength := congrArg List.length hnil
    simp only [List.length_drop, List.length_take, List.length_nil] at hlength
    omega
  have hlines : lines (Section.blockAt sourceName 1 (lines text) start last).text =
      ((lines text).take last).drop start := by
    apply lines_unlines hne
    intro l hl
    exact newline_not_mem_of_mem_lines (List.mem_of_mem_take (List.mem_of_mem_drop hl))
  rw [hlines, List.getElem?_drop] at hline
  refine ⟨1 + start + i, ?_, by omega, ?_⟩
  · simp only [Section.blockAt]
    push_cast
    rfl
  · have hplace : 1 + start + i - 1 = start + i := by omega
    rw [hplace]
    have hbound := (List.getElem?_eq_some_iff.mp hline).1
    rw [List.length_take] at hbound
    rwa [List.getElem?_take_of_lt (by omega)] at hline

namespace Block

/-- The header of the block is read and gives the name. -/
def IsNamed (block : Block) (name : String) : Prop :=
  ∃ header, Header.parse block = .ok header ∧ header.name = name

/-- The block cannot be compiled after some others: its header is not read, its name is that of one
of the others, or its parameters are not resolved. -/
def IsFaulty (unused : UnusedPolicy) (earlier : List Block) (block : Block) : Prop :=
  (∃ e, Header.parse block = .error e) ∨
    ∃ header, Header.parse block = .ok header ∧
      ((∃ other ∈ earlier, other.IsNamed header.name) ∨ ∃ e, header.resolve unused = .error e)

/-- The error of a block that cannot be compiled after some others, and the place of the line that
it names among the lines of the block, counted from zero. -/
inductive Gives (unused : UnusedPolicy) (earlier : List Block) (block : Block) :
    CompileError → ℕ → Prop
  /-- At a line of the header it is settled that the block is not read. -/
  | line {e : CompileError} {i : ℕ} (parse : Header.parse block = .error e)
      (wrong : e.problem.isOfLine = true) (decided : Header.DecidedAt (lines block.text) i)
      (location : e.location = some (block.lineLocation i)) : Gives unused earlier block e i
  /-- The block has no name header or no body. -/
  | whole {e : CompileError} (parse : Header.parse block = .error e)
      (wrong : e.problem.isOfLine = false) (location : e.location = some block.location) :
      Gives unused earlier block e 0
  /-- One of the others has the name. -/
  | taken {header : Header} {other : Block} (parse : Header.parse block = .ok header)
      (mem : other ∈ earlier) (named : other.IsNamed header.name) :
      Gives unused earlier block
        ⟨.nameTaken other.location, some header.name, some block.location⟩ 0
  /-- The parameters are not resolved. The line is the first that is neither blank nor a comment. -/
  | unresolved {header : Header} {e : CompileError} {i : ℕ}
      (parse : Header.parse block = .ok header)
      (new : ∀ other ∈ earlier, ¬ other.IsNamed header.name)
      (resolve : header.resolve unused = .error e)
      (first : Section.IsFirst Header.startsBody (lines block.text) 0 i)
      (location : e.location = some (block.lineLocation i)) : Gives unused earlier block e i

variable {unused : UnusedPolicy} {earlier : List Block} {block : Block} {e : CompileError} {i : ℕ}

/-- A block that gives an error cannot be compiled. -/
theorem Gives.isFaulty (h : block.Gives unused earlier e i) : block.IsFaulty unused earlier := by
  cases h with
  | line parse => exact Or.inl ⟨_, parse⟩
  | whole parse => exact Or.inl ⟨_, parse⟩
  | taken parse mem named => exact Or.inr ⟨_, parse, Or.inl ⟨_, mem, named⟩⟩
  | unresolved parse _ resolve => exact Or.inr ⟨_, parse, Or.inr ⟨_, resolve⟩⟩

/-- The place of a block is that of its first line. -/
theorem lineLocation_zero (block : Block) : block.lineLocation (0 : ℕ) = block.location := by
  simp [lineLocation, location]

/-- An error names its line. -/
theorem Gives.location_eq (h : block.Gives unused earlier e i) :
    e.location = some (block.lineLocation i) := by
  cases h with
  | line _ _ _ location => exact location
  | whole _ _ location => rw [location, lineLocation_zero]
  | taken => rw [lineLocation_zero]
  | unresolved _ _ _ _ location => exact location

/-- The line that an error names is a line of the block. -/
theorem Gives.line_eq (h : block.Gives unused earlier e i) :
    ∃ line, (lines block.text)[i]? = some line := by
  have hpos : 0 < (lines block.text).length := List.length_pos_iff.mpr (lines_ne_nil block.text)
  have hlt : i < (lines block.text).length := by
    cases h with
    | line _ _ decided => exact decided.lt_length
    | whole => exact hpos
    | taken => exact hpos
    | unresolved _ _ _ first => exact Section.lt_length_of_holdsAt first.holds
  exact ⟨_, List.getElem?_eq_getElem hlt⟩

/-- A header that is not read is an error of the block. -/
theorem gives_of_parse (h : Header.parse block = .error e) :
    ∃ i, block.Gives unused earlier e i := by
  rcases Header.parse_error h with ⟨hwrong, i, hdecided, hlocation⟩ | ⟨hwrong, hlocation⟩
  · exact ⟨i, .line h hwrong hdecided hlocation⟩
  · exact ⟨0, .whole h hwrong hlocation⟩

/-- Parameters that are not resolved are an error of the block. -/
theorem gives_of_resolve {header : Header} (hparse : Header.parse block = .ok header)
    (hnew : ∀ other ∈ earlier, ¬ other.IsNamed header.name)
    (h : header.resolve unused = .error e) : ∃ i, block.Gives unused earlier e i := by
  obtain ⟨i, hfirst, hplace⟩ := Header.isFirst_bodyLine hparse
  have hlocation : e.location = some header.bodyLocation := by
    unfold Header.resolve Resolution.resolve at h
    have hresolved := Outcome.map_eq_error_iff.mp h
    cases hparameters : Resolution.parameters header.kind header.declarations
        (Token.scan header.body) unused with
    | ok found => simp [hparameters, Outcome.mapError_ok] at hresolved
    | error problem =>
      rw [hparameters, Outcome.mapError_error] at hresolved
      cases hresolved
      rfl
  exact ⟨i, .unresolved hparse hnew h hfirst (by rw [hlocation, hplace])⟩

/-- None of some blocks, one after another after the earlier ones, is faulty. -/
def AllSound (unused : UnusedPolicy) (earlier blocks : List Block) : Prop :=
  ∀ front block back, blocks = front ++ block :: back → ¬ block.IsFaulty unused (earlier ++ front)

/-- No blocks are all sound. -/
theorem allSound_nil : AllSound unused earlier [] := by
  intro front block back hsplit
  simp at hsplit

/-- A sound block comes before those that are sound after it. -/
theorem AllSound.cons {rest : List Block} (hblock : ¬ block.IsFaulty unused earlier)
    (hrest : AllSound unused (earlier ++ [block]) rest) :
    AllSound unused earlier (block :: rest) := by
  intro front b back hsplit
  cases front with
  | nil =>
    obtain ⟨rfl, _⟩ := List.cons.inj hsplit
    rwa [List.append_nil]
  | cons first others =>
    obtain ⟨rfl, hothers⟩ := List.cons.inj hsplit
    rw [List.append_cons]
    exact hrest others b back hothers

end Block

namespace Compilation

open Block

variable {unused : UnusedPolicy} {unterminated : Option CompileError} {earlier : List Block}
  {blocks : List Block}

/-- What comes of blocks after earlier ones: all are compiled, or the first that cannot be gives its
error, or all could be but something is left over after them. -/
inductive Stops (unused : UnusedPolicy) (unterminated : Option CompileError)
    (earlier blocks : List Block) : Except CompileError (List Statement) → Prop
  /-- Nothing is wrong. -/
  | done {list : List Statement} (sound : AllSound unused earlier blocks)
      (ended : unterminated = none) : Stops unused unterminated earlier blocks (.ok list)
  /-- A block gives an error, and none before it. -/
  | block {front back : List Block} {block : Block} {e : CompileError} {i : ℕ}
      (split : blocks = front ++ block :: back) (sound : AllSound unused earlier front)
      (gives : block.Gives unused (earlier ++ front) e i) :
      Stops unused unterminated earlier blocks (.error e)
  /-- Something is left over, and no block gives an error. -/
  | tail {e : CompileError} (sound : AllSound unused earlier blocks)
      (left : unterminated = some e) : Stops unused unterminated earlier blocks (.error e)

/-- A sound block comes before what comes of the blocks after it. -/
theorem Stops.cons {block : Block} {outcome : Except CompileError (List Statement)}
    (hblock : ¬ block.IsFaulty unused earlier)
    (h : Stops unused unterminated (earlier ++ [block]) blocks outcome)
    (change : List Statement → List Statement) :
    Stops unused unterminated earlier (block :: blocks) (outcome.map change) := by
  cases h with
  | done sound ended => exact .done (sound.cons hblock) ended
  | block split sound gives =>
    rw [List.append_assoc, List.singleton_append] at gives
    exact .block (by rw [split, List.cons_append]) (sound.cons hblock) gives
  | tail sound left => exact .tail (sound.cons hblock) left

/-- The names that are taken are those of the earlier blocks, each with the place of its block. -/
structure Knows (seen : List (String × String)) (earlier : List Block) : Prop where
  /-- A name that is taken is that of an earlier block. -/
  taken : ∀ name location, seen.lookup name = some location →
    ∃ other ∈ earlier, other.IsNamed name ∧ other.location = location
  /-- Any other is not. -/
  free : ∀ name, seen.lookup name = none → ∀ other ∈ earlier, ¬ other.IsNamed name

/-- Before the first block no name is taken. -/
theorem knows_nil : Knows [] [] :=
  ⟨fun _ _ h => by simp at h, fun _ _ _ h => absurd h List.not_mem_nil⟩

/-- After a block its name is taken. -/
theorem Knows.concat {seen : List (String × String)} {block : Block} {header : Header}
    (h : Knows seen earlier) (hparse : Header.parse block = .ok header) :
    Knows ((header.name, block.location) :: seen) (earlier ++ [block]) := by
  have hnamed : ∀ {name}, block.IsNamed name → name = header.name := by
    rintro name ⟨header', hparse', rfl⟩
    rw [Except.ok.inj (hparse'.symm.trans hparse)]
  constructor
  · intro name location hlookup
    rw [Entries.lookup_cons_ite] at hlookup
    split at hlookup
    · next heq =>
      cases hlookup
      exact ⟨block, by simp, ⟨header, hparse, heq.symm⟩, rfl⟩
    · obtain ⟨other, hmem, hother, hlocation⟩ := h.taken name location hlookup
      exact ⟨other, List.mem_append_left _ hmem, hother, hlocation⟩
  · intro name hlookup other hmem hother
    obtain ⟨hne, hseen⟩ := Entries.lookup_cons_eq_none_iff.mp hlookup
    rcases List.mem_append.mp hmem with hmem | hmem
    · exact h.free name hseen other hmem hother
    · rw [List.mem_singleton.mp hmem] at hother
      exact hne (hnamed hother)

/-- Under the policy to stop, blocks are compiled up to the first that cannot be. -/
theorem stops_ofBlocks {settings : Settings} (hpolicy : settings.onSyntaxError = .abort)
    (unterminated : Option CompileError) {seen : List (String × String)}
    (hknown : Knows seen earlier) (blocks : List Block) :
    Stops settings.unused unterminated earlier blocks
      (ofBlocks settings unterminated seen blocks).result := by
  -- The names that are taken stand for the blocks that came before, so both go along.
  induction blocks generalizing seen earlier with
  | nil =>
    rw [result_ofBlocks_nil, hpolicy]
    cases unterminated with
    | none => exact .done allSound_nil rfl
    | some e => exact .tail allSound_nil rfl
  | cons block rest ih =>
    have hat : ∀ {e i}, block.Gives settings.unused earlier e i →
        Stops settings.unused unterminated earlier (block :: rest) (.error e) := by
      intro e i hgives
      exact .block (List.nil_append _).symm allSound_nil (by rwa [List.append_nil])
    rw [result_ofBlocks_cons]
    cases hparse : Header.parse block with
    | error e =>
      obtain ⟨i, hgives⟩ := gives_of_parse hparse
      simp only [hpolicy]
      exact hat hgives
    | ok header =>
      simp only
      cases hlookup : seen.lookup header.name with
      | some location =>
        obtain ⟨other, hmem, hnamed, rfl⟩ := hknown.taken _ _ hlookup
        exact hat (.taken hparse hmem hnamed)
      | none =>
        have hnew := hknown.free _ hlookup
        simp only
        cases hresolve : header.resolve settings.unused with
        | error e =>
          obtain ⟨i, hgives⟩ := gives_of_resolve hparse hnew hresolve
          exact hat hgives
        | ok s =>
          apply Stops.cons _ (ih (hknown.concat hparse))
          rintro (⟨e, he⟩ | ⟨header', hparse', ⟨other, hmem, hnamed⟩ | ⟨e, he⟩⟩)
          · rw [hparse] at he
            cases he
          · cases hparse.symm.trans hparse'
            exact hnew other hmem hnamed
          · cases hparse.symm.trans hparse'
            rw [hresolve] at he
            cases he

/-- What a compilation that stops at the first error says about a text. -/
structure ReportsFirst (settings : Settings) (text sourceName : String)
    (result : Except CompileError (List Statement)) : Prop where
  /-- It fails exactly if a block is faulty after the blocks before it, or something is left over
  after the last. -/
  fails_iff : (∃ e, result = .error e) ↔
    (∃ front block back,
      (segment text settings.terminator sourceName).blocks = front ++ block :: back ∧
        block.IsFaulty settings.unused front) ∨
      (segment text settings.terminator sourceName).unterminated.isSome = true
  /-- The error is the one of the first faulty block, and names its line by the number that the line
  has in the text. If no block is faulty, it is about what is left over, and names the first line of
  that which is not blank. -/
  reports : ∀ e, result = .error e →
    (∃ front block back, ∃ i number : ℕ, ∃ line,
      (segment text settings.terminator sourceName).blocks = front ++ block :: back ∧
        AllSound settings.unused [] front ∧ block.Gives settings.unused front e i ∧
        (number : ℤ) = block.startLine + i ∧ (lines block.text)[i]? = some line ∧
        e.NamesLine text sourceName line number) ∨
      AllSound settings.unused [] (segment text settings.terminator sourceName).blocks ∧
        (segment text settings.terminator sourceName).unterminated = some e ∧
        ∃ first start line, Section.IsTail settings.terminator.strip.ends (lines text) first ∧
          Section.IsFirst Section.isFilled (lines text) first start ∧
          e.NamesLine text sourceName line (start + 1)

end Compilation

/-- The error about what is left over names its first line that is not blank. -/
theorem namesLine_of_unterminated {text sourceName : String} {terminator : Terminator}
    {e : CompileError} (h : (segment text terminator sourceName).unterminated = some e) :
    ∃ first start line, Section.IsTail terminator.strip.ends (lines text) first ∧
      Section.IsFirst Section.isFilled (lines text) first start ∧
      e.NamesLine text sourceName line (start + 1) := by
  rw [segment_eq] at h
  obtain ⟨b, hb, rfl⟩ := Option.map_eq_some_iff.mp h
  obtain ⟨first, start, htail, hstart, rfl⟩ := Section.readFrom_eq_some_iff.mp hb
  have hlt := Section.lt_length_of_holdsAt hstart.holds
  refine ⟨first, start, _, htail, hstart, ?_, by omega, List.getElem?_eq_getElem hlt⟩
  rw [Nat.add_comm start]
  rfl

/-- The error of a block of a text names a line of the text. -/
theorem Block.Gives.namesLine {unused : UnusedPolicy} {earlier : List Block} {block : Block}
    {e : CompileError} {i : ℕ} {text sourceName : String} {terminator : Terminator}
    (h : block.Gives unused earlier e i)
    (hmem : block ∈ (segment text terminator sourceName).blocks) :
    ∃ number : ℕ, ∃ line, (number : ℤ) = block.startLine + i ∧
      (lines block.text)[i]? = some line ∧ e.NamesLine text sourceName line number := by
  obtain ⟨line, hline⟩ := h.line_eq
  obtain ⟨number, hnumber, hpos, htext⟩ := line_of_mem_blocks hmem hline
  refine ⟨number, line, hnumber, hline, ?_, hpos, htext⟩
  rw [h.location_eq, Block.lineLocation, sourceName_of_mem_blocks hmem, ← hnumber]
  rfl

namespace Compilation

variable {settings : Settings} {text sourceName : String}
  {outcome : Except CompileError (List Statement)}

/-- What comes of the blocks of a text and of what is left over is the first error of the text. -/
theorem reportsFirst_of_stops
    (h : Stops settings.unused (segment text settings.terminator sourceName).unterminated []
      (segment text settings.terminator sourceName).blocks outcome) :
    ReportsFirst settings text sourceName outcome := by
  cases h with
  | done sound ended =>
    refine ⟨⟨fun ⟨e, he⟩ => (nomatch he), ?_⟩, fun e he => (nomatch he)⟩
    rintro (⟨front, block, back, hsplit, hfaulty⟩ | hleft)
    · exact absurd hfaulty (sound front block back hsplit)
    · rw [ended] at hleft
      cases hleft
  | @block front back block e i split sound gives =>
    rw [List.nil_append] at gives
    refine ⟨⟨fun _ => Or.inl ⟨front, block, back, split, gives.isFaulty⟩, fun _ => ⟨e, rfl⟩⟩, ?_⟩
    rintro _ ⟨⟩
    have hmem : block ∈ (segment text settings.terminator sourceName).blocks := by
      rw [split]
      exact List.mem_append_right _ List.mem_cons_self
    obtain ⟨number, line, hnumber, hline, hnames⟩ := gives.namesLine hmem
    exact Or.inl ⟨front, block, back, i, number, line, split, sound, gives, hnumber, hline, hnames⟩
  | tail sound left =>
    refine ⟨⟨fun _ => Or.inr (by rw [left]; rfl), fun _ => ⟨_, rfl⟩⟩, ?_⟩
    rintro _ ⟨⟩
    exact Or.inr ⟨sound, left, namesLine_of_unterminated left⟩

end Compilation

/-- Under the policy to stop, compiling a text reports its first error, with the line of the text
that it is about. -/
theorem reportsFirst_compile (settings : Settings) (text sourceName : String) :
    Compilation.ReportsFirst settings text sourceName
      (compile { settings with onSyntaxError := .abort } text sourceName).result := by
  have hpolicy : ({ settings with onSyntaxError := .abort } : Settings).onSyntaxError = .abort :=
    rfl
  exact Compilation.reportsFirst_of_stops
    (Compilation.stops_ofBlocks hpolicy _ Compilation.knows_nil _)

end AnnotatedSql
