import AnnotatedSql.Loading.Text
import AnnotatedSql.Proofs.Compilation
import AnnotatedSql.Proofs.Statement.Partition

/-!
# The summary of a compilation

Under the policy to skip, every region between terminator lines that is not blank is compiled to a
statement or warned about, the one after the last terminator line included. The summary counts the
statements and what was left out, but what no terminator line follows it does not count.
-/

set_option autoImplicit false

namespace AnnotatedSql

namespace Log.Record

/-- The value beside the message under a name. -/
def field? (record : Record) (name : String) : Option Value :=
  match record.fields with
  | .mapping entries => entries.lookup name
  | _ => none

/-- The record is one of the compiler's, of a level, and starts with a text. -/
def isOfCompiler (level : Level) (start : String) (record : Record) : Bool :=
  record.logger == "sqlinclude.compiler" && record.level.number == level.number &&
    start.toList.isPrefixOf record.template.toList

/-- The record warns that something was left out. -/
def isSkipWarning : Record → Bool :=
  isOfCompiler .warning "Skipping malformed statement: "

/-- The record sums up a compilation. -/
def isSummary : Record → Bool :=
  isOfCompiler .debug "Compiled "

/-- A text starts with what it was put together from. -/
theorem isPrefixOf_toList_append (start rest : String) :
    start.toList.isPrefixOf (start ++ rest).toList = true := by
  rw [String.toList_append, List.isPrefixOf_iff_prefix]
  exact List.prefix_append _ _

/-- The warning that something was left out is one, and sums nothing up. -/
theorem isSkipWarning_skipped (e : CompileError) :
    isSkipWarning (skipped e) = true ∧ isSummary (skipped e) = false := by
  constructor
  · simp only [isSkipWarning, isOfCompiler, skipped, isPrefixOf_toList_append]
    rfl
  · rfl

/-- A warning about a parameter is neither. -/
theorem isSkipWarning_unusedParameter (statement parameter : String) (location : Option String) :
    isSkipWarning (unusedParameter statement parameter location) = false ∧
      isSummary (unusedParameter statement parameter location) = false :=
  ⟨rfl, rfl⟩

/-- The summary is one, and warns about nothing. -/
theorem isSummary_compiled (sourceName : String) (statements skipped : ℕ) :
    isSkipWarning (compiled sourceName statements skipped) = false ∧
      isSummary (compiled sourceName statements skipped) = true := by
  constructor
  · rfl
  · have htext : (compiled sourceName statements skipped).template =
        "Compiled " ++ (toString statements ++ (" statements from " ++ sourceName)) := by
      simp only [compiled, String.append_assoc]
    simp only [isSummary, isOfCompiler, htext, isPrefixOf_toList_append]
    rfl

end Log.Record

namespace Section

variable {ends : String → Bool} {sourceName : String} {number : ℕ}

/-- The regions between the lines that end a section. There is always a last one. -/
def regions (ends : String → Bool) (ls : List String) : List (List String) :=
  ls.splitOnP ends

/-- The region has a line that is not blank. -/
def isFilledRegion (region : List String) : Bool :=
  region.any isFilled

/-- The last region. -/
def lastRegion (ends : String → Bool) (ls : List String) : List String :=
  (regions ends ls).getLastD []

/-- Lines make a block exactly when one of them is not blank. -/
theorem isSome_block? (s : List String) :
    (block? sourceName number s).isSome = isFilledRegion s := by
  rw [Bool.eq_iff_iff, ← Bool.not_eq_false, Option.isSome_eq_false_iff, Option.isNone_iff_eq_none,
    block?_eq_none_iff]
  simp [isFilledRegion, isFilled]

/-- There is a block for each region that is not blank, counting what is left over. -/
theorem length_readFrom (ls : List String) :
    (readFrom ends sourceName number ls).1.length +
        (readFrom ends sourceName number ls).2.toList.length =
      (regions ends ls).countP isFilledRegion := by
  have hlength : ∀ n s, (block? sourceName n s).toList.length =
      if isFilledRegion s then 1 else 0 := by
    intro n s
    rw [Option.length_toList, isSome_block?]
  induction ls using sectionsInduction ends generalizing number with
  | tail ls hls =>
    rw [readFrom_of_not_ends hls, regions, List.splitOnP_eq_singleton hls, hlength,
      List.countP_singleton, List.length_nil, Nat.zero_add]
  | ended s line rest hs hline ih =>
    rw [readFrom_append rest hs hline, regions,
      List.splitOnP_append_cons_of_forall_mem hs line hline, List.countP_cons, List.length_append,
      hlength, Nat.add_assoc, ih, Nat.add_comm]
    rfl

/-- Something is left over exactly when the last region is not blank. -/
theorem isSome_readFrom (ls : List String) :
    (readFrom ends sourceName number ls).2.isSome = isFilledRegion (lastRegion ends ls) := by
  induction ls using sectionsInduction ends generalizing number with
  | tail ls hls =>
    rw [readFrom_of_not_ends hls, lastRegion, regions, List.splitOnP_eq_singleton hls]
    exact isSome_block? ls
  | ended s line rest hs hline ih =>
    have hlast : lastRegion ends (s ++ line :: rest) = lastRegion ends rest := by
      rw [lastRegion, regions, List.splitOnP_append_cons_of_forall_mem hs line hline, lastRegion,
        regions]
      cases hrest : rest.splitOnP ends with
      | nil => exact absurd hrest (List.splitOnP_ne_nil _ _)
      | cons first others => rfl
    rw [readFrom_append rest hs hline, hlast]
    exact ih

end Section

/-- A text is cut into a block for each region that is not blank, but the last one is left over. -/
theorem length_segment (text : String) (terminator : Terminator) (sourceName : String) :
    (segment text terminator sourceName).blocks.length +
          (segment text terminator sourceName).unterminated.toList.length =
        (Section.regions terminator.strip.ends (Text.lines text)).countP Section.isFilledRegion ∧
      (segment text terminator sourceName).unterminated.toList.length =
        if Section.isFilledRegion (Section.lastRegion terminator.strip.ends (Text.lines text))
        then 1 else 0 := by
  rw [segment_eq, Option.length_toList, Option.isSome_map, ← Option.length_toList]
  refine ⟨Section.length_readFrom _, ?_⟩
  rw [Option.length_toList, Section.isSome_readFrom]

namespace Compilation

/-- Where a compilation under the policy to skip has a result, every block was compiled or left out,
and what is left over was left out as well. -/
structure Complete (blocks : List Block) (unterminated : Option CompileError)
    (c : Compilation) : Prop where
  /-- No error ended it. -/
  failure_eq : c.failure = none
  /-- Something became of each block. -/
  length_eq : c.outcomes.length = blocks.length
  /-- What is left over was left out. -/
  skippedTail_eq : c.skippedTail = unterminated

/-- Something became of one more block. -/
theorem Complete.cons {blocks : List Block} {unterminated : Option CompileError} {c : Compilation}
    (h : Complete blocks unterminated c) (outcome : BlockOutcome) (block : Block) :
    Complete (block :: blocks) unterminated { c with outcomes := outcome :: c.outcomes } :=
  ⟨h.failure_eq, congrArg Nat.succ h.length_eq, h.skippedTail_eq⟩

/-- A compilation under the policy to skip that has a result is complete. -/
theorem complete_ofBlocks {settings : Settings} {unterminated : Option CompileError}
    {earlier : List (String × String)} {blocks : List Block} {list : List Statement}
    (hskip : settings.onSyntaxError = .skip)
    (h : (ofBlocks settings unterminated earlier blocks).result = .ok list) :
    Complete blocks unterminated (ofBlocks settings unterminated earlier blocks) := by
  induction blocks generalizing earlier list with
  | nil =>
    rw [ofBlocks, hskip]
    exact ⟨rfl, rfl, rfl⟩
  | cons block rest ih =>
    rcases result_ofBlocks_cons_ok h with
      ⟨e, hparse, _, hrest⟩ | ⟨header, s, later, hparse, hnew, hresolve, hlater, rfl⟩
    · simp only [ofBlocks, hparse, hskip]
      exact (ih hrest).cons _ block
    · simp only [ofBlocks, hparse, hnew, hresolve]
      exact (ih hlater).cons _ block

/-- Each block was compiled or left out. -/
theorem length_statements (c : Compilation) :
    c.statements.length + c.skippedCount = c.outcomes.length := by
  unfold statements skippedCount
  induction c.outcomes with
  | nil => rfl
  | cons outcome rest ih =>
    cases outcome with
    | compiled header s =>
      simp only [List.filterMap_cons, BlockOutcome.statement?, BlockOutcome.error?,
        List.length_cons]
      omega
    | skipped e =>
      simp only [List.filterMap_cons, BlockOutcome.statement?, BlockOutcome.error?,
        List.length_cons]
      omega

/-- What is logged about blocks has a warning for each that was left out, and no summary. -/
theorem countP_blockRecords (policy : UnusedPolicy) (outcomes : List BlockOutcome) :
    (outcomes.flatMap (blockRecords policy)).countP Log.Record.isSkipWarning =
        (outcomes.filterMap BlockOutcome.error?).length ∧
      ∀ r ∈ outcomes.flatMap (blockRecords policy), r.isSummary = false := by
  induction outcomes with
  | nil => exact ⟨rfl, List.forall_mem_nil _⟩
  | cons outcome rest ih =>
    obtain ⟨hcount, hnone⟩ := ih
    rw [List.flatMap_cons, List.countP_append, hcount, List.forall_mem_append]
    cases outcome with
    | compiled header s =>
      have hwarnings : ∀ r ∈ Log.unusedParameters policy s.name s.parameters
          (some header.bodyLocation), r.isSkipWarning = false ∧ r.isSummary = false := by
        intro r hr
        obtain ⟨p, _, rfl⟩ := List.mem_map.mp hr
        exact Log.Record.isSkipWarning_unusedParameter _ _ _
      refine ⟨?_, fun r hr => (hwarnings r hr).2, hnone⟩
      have hzero : (blockRecords policy (.compiled header s)).countP Log.Record.isSkipWarning = 0 :=
        List.countP_eq_zero.mpr fun r hr => by simp [(hwarnings r hr).1]
      rw [hzero, Nat.zero_add]
      rfl
    | skipped e =>
      obtain ⟨hwarning, hsummary⟩ := Log.Record.isSkipWarning_skipped e
      refine ⟨?_, List.forall_mem_singleton.mpr hsummary, hnone⟩
      simp only [blockRecords, List.countP_singleton, hwarning, if_true, List.filterMap_cons,
        BlockOutcome.error?, List.length_cons, Nat.add_comm]

/-- What is logged about a compilation that did not fail: the summary comes last, after a warning
for each block that was left out and one for what is left over. -/
theorem countP_records {c : Compilation} (hfailure : c.failure = none) (settings : Settings)
    (sourceName : String) :
    (c.records settings sourceName).filter Log.Record.isSummary =
        [Log.compiled sourceName c.statements.length c.skippedCount] ∧
      (c.records settings sourceName).countP Log.Record.isSkipWarning =
        c.skippedCount + c.skippedTail.toList.length := by
  obtain ⟨hcount, hnone⟩ := countP_blockRecords settings.unused c.outcomes
  obtain ⟨hquiet, hsummary⟩ :=
    Log.Record.isSummary_compiled sourceName c.statements.length c.skippedCount
  have htail : ∀ r ∈ c.skippedTail.toList.map Log.skipped,
      r.isSkipWarning = true ∧ r.isSummary = false := by
    intro r hr
    obtain ⟨e, _, rfl⟩ := List.mem_map.mp hr
    exact Log.Record.isSkipWarning_skipped e
  have htailCount : (c.skippedTail.toList.map Log.skipped).countP Log.Record.isSkipWarning =
      c.skippedTail.toList.length := by
    rw [List.countP_eq_length.mpr fun r hr => (htail r hr).1, List.length_map]
  simp only [records, hfailure, Option.isNone_none, if_true]
  constructor
  · rw [List.filter_append, List.filter_append,
      List.filter_eq_nil_iff.mpr fun r hr => by simp [hnone r hr],
      List.filter_eq_nil_iff.mpr fun r hr => by simp [(htail r hr).2]]
    simp [hsummary]
  · rw [List.countP_append, List.countP_append, hcount, htailCount, List.countP_singleton,
      if_neg (by simp [hquiet])]
    rfl

end Compilation

namespace Loading

/-- One of the records that are logged sums up a compilation of so many statements. -/
structure SumsUp (ends : String → Bool) (ls : List String) (statements : ℕ)
    (logged : List Log.Record) (summary : Log.Record) (skipped : ℕ) : Prop where
  /-- There is no other summary. -/
  filter_eq : logged.filter Log.Record.isSummary = [summary]
  /-- It says how many statements there are. -/
  statement_count : summary.field? "statement_count" = some (.int statements)
  /-- It says how much was left out. -/
  skipped_count : summary.field? "skipped_count" = some (.int skipped)
  /-- Each region that is not blank is a statement, or there is a warning about it. -/
  accounted : statements + logged.countP Log.Record.isSkipWarning =
    (Section.regions ends ls).countP Section.isFilledRegion
  /-- The summary does not count the warning about what is left over. -/
  warned : logged.countP Log.Record.isSkipWarning =
    skipped + if Section.isFilledRegion (Section.lastRegion ends ls) then 1 else 0

/-- The summary agrees with the warnings and with the regions exactly when the last region is
blank. -/
theorem SumsUp.agrees_iff {ends : String → Bool} {ls : List String} {statements skipped : ℕ}
    {logged : List Log.Record} {summary : Log.Record}
    (h : SumsUp ends ls statements logged summary skipped) :
    (skipped = logged.countP Log.Record.isSkipWarning ↔
        Section.isFilledRegion (Section.lastRegion ends ls) = false) ∧
      (statements + skipped = (Section.regions ends ls).countP Section.isFilledRegion ↔
        Section.isFilledRegion (Section.lastRegion ends ls) = false) := by
  have hwarned := h.warned
  rw [← h.accounted]
  cases hfilled : Section.isFilledRegion (Section.lastRegion ends ls) with
  | false =>
    simp only [hfilled, Bool.false_eq_true, if_false] at hwarned
    simp only [iff_true]
    omega
  | true =>
    simp only [hfilled, if_true] at hwarned
    simp only [Bool.true_eq_false, iff_false]
    omega

/-- The run of a compilation that has a result logs what there is to say about it. -/
theorem statements_eq_of_result {settings : Settings} {text sourceName : String}
    {list : List Statement} (h : (compile settings text sourceName).result = .ok list)
    (events : List Event) :
    statements settings text sourceName events =
      (.ok list, events ++
        ((compile settings text sourceName).records settings sourceName).map .logged) := by
  simp only [statements, Bind.bind, Run.andThen, Run.log, h]
  rfl

/-- A run with a result is that of a compilation that has it. -/
theorem result_of_statements {settings : Settings} {text sourceName : String}
    {events : List Event} {list : List Statement}
    (h : (statements settings text sourceName events).1 = .ok list) :
    (compile settings text sourceName).result = .ok list := by
  cases hresult : (compile settings text sourceName).result with
  | error e =>
    simp only [statements, Bind.bind, Run.andThen, Run.log, hresult] at h
    cases h
  | ok found =>
    rw [statements_eq_of_result hresult] at h
    cases h
    rfl

/-- Under the policy to skip, a compilation that has a result logs one summary. What the summary
says agrees with the warnings, and with the regions of the text, exactly when the last region is
blank: otherwise it is short by one. -/
theorem statements_summary {settings : Settings} {text sourceName : String}
    {events : List Event} {list : List Statement} (hskip : settings.onSyntaxError = .skip)
    (h : (statements settings text sourceName events).1 = .ok list) :
    let ends := settings.terminator.strip.ends
    let ls := Text.lines text
    ∃ logged summary skipped,
      (statements settings text sourceName events).2 = events ++ logged.map .logged ∧
      SumsUp ends ls list.length logged summary skipped ∧
      (skipped = logged.countP Log.Record.isSkipWarning ↔
        Section.isFilledRegion (Section.lastRegion ends ls) = false) ∧
      (list.length + skipped = (Section.regions ends ls).countP Section.isFilledRegion ↔
        Section.isFilledRegion (Section.lastRegion ends ls) = false) := by
  intro ends ls
  have hresult := result_of_statements h
  have hevents := congrArg Prod.snd (statements_eq_of_result hresult events)
  obtain ⟨hregions, hlast⟩ := length_segment text settings.terminator sourceName
  have hcomplete := Compilation.complete_ofBlocks hskip hresult
  have hlist : (compile settings text sourceName).statements = list := by
    rw [compile, Compilation.result, hcomplete.failure_eq] at hresult
    exact Except.ok.inj hresult
  have hblocks := (compile settings text sourceName).length_statements
  obtain ⟨hfilter, hwarnings⟩ :=
    Compilation.countP_records (c := compile settings text sourceName) hcomplete.failure_eq
      settings sourceName
  have hlength : (compile settings text sourceName).outcomes.length =
      (segment text settings.terminator sourceName).blocks.length := hcomplete.length_eq
  have htail : (compile settings text sourceName).skippedTail =
      (segment text settings.terminator sourceName).unterminated := hcomplete.skippedTail_eq
  rw [hlist] at hblocks hfilter
  rw [htail] at hwarnings
  have hsums : SumsUp ends ls list.length
      ((compile settings text sourceName).records settings sourceName)
      (Log.compiled sourceName list.length (compile settings text sourceName).skippedCount)
      (compile settings text sourceName).skippedCount := by
    refine ⟨hfilter, rfl, rfl, ?_, ?_⟩
    · rw [hwarnings, ← hregions, ← hlength, ← hblocks, Nat.add_assoc]
    · rw [hwarnings, hlast]
  exact ⟨_, _, _, hevents, hsums, hsums.agrees_iff⟩

/-- A block without a header, a statement, and text that no terminator line follows: there are two
warnings, and the summary counts one. -/
theorem statements_summary_short :
    ∃ (settings : Settings) (text : String) (list : List Statement) (logged : List Log.Record)
      (summary : Log.Record),
      text = "select 1\n/\n-- name: a?\nselect 2\n/\nselect 3" ∧
      settings.onSyntaxError = .skip ∧
      statements settings text "<string>" [] = (.ok list, logged.map .logged) ∧
      list.map Statement.name = ["a"] ∧ logged.countP Log.Record.isSkipWarning = 2 ∧
      summary ∈ logged ∧ summary.field? "skipped_count" = some (.int 1) := by
  let settings : Settings := { Settings.standard with onSyntaxError := .skip }
  let text := "select 1\n/\n-- name: a?\nselect 2\n/\nselect 3"
  let list := (compile settings text "<string>").statements
  have hfailure : (compile settings text "<string>").failure.isNone = true := by decide +kernel
  have hresult : (compile settings text "<string>").result = .ok list := by
    rw [Compilation.result, Option.isNone_iff_eq_none.mp hfailure]
  have hok : (statements settings text "<string>" []).1 = .ok list := by
    rw [statements_eq_of_result hresult]
  have hnames : list.map Statement.name = ["a"] := by decide +kernel
  obtain ⟨logged, summary, skipped, hlogged, hsums, _⟩ := statements_summary rfl hok
  have hmem : summary ∈ logged.filter Log.Record.isSummary := by
    rw [hsums.filter_eq]
    exact List.mem_singleton_self _
  have hregions : (Section.regions settings.terminator.strip.ends (Text.lines text)).countP
      Section.isFilledRegion = 3 := by decide +kernel
  have hlast : Section.isFilledRegion
      (Section.lastRegion settings.terminator.strip.ends (Text.lines text)) = true := by
    decide +kernel
  have hlength : list.length = 1 := by simpa using congrArg List.length hnames
  have haccounted := hsums.accounted
  have hwarned := hsums.warned
  rw [hregions, hlength] at haccounted
  rw [if_pos hlast] at hwarned
  obtain rfl : skipped = 1 := by omega
  refine ⟨settings, text, list, logged, summary, rfl, rfl, Prod.ext hok hlogged, hnames, by omega,
    (List.mem_filter.mp hmem).1, hsums.skipped_count⟩

/-- Text that no terminator line follows is warned about, but the summary does not count it. -/
theorem not_summary_exact :
    ¬ ∀ (settings : Settings) (text sourceName : String) (list : List Statement)
      (logged : List Log.Record) (summary : Log.Record),
      settings.onSyntaxError = .skip →
      statements settings text sourceName [] = (.ok list, logged.map .logged) →
      summary ∈ logged → summary.isSummary = true →
      summary.field? "skipped_count" =
        some (.int (logged.countP Log.Record.isSkipWarning : ℕ)) := by
  intro h
  let settings : Settings := { Settings.standard with onSyntaxError := .skip }
  have hexact := h settings "select 1" "<string>" []
    ((compile settings "select 1" "<string>").records settings "<string>")
    (Log.compiled "<string>" 0 0) rfl rfl (List.mem_cons_of_mem _ List.mem_cons_self) (by decide)
  have hcount : ((compile settings "select 1" "<string>").records settings "<string>").countP
      Log.Record.isSkipWarning = 1 := by decide +kernel
  rw [hcount] at hexact
  cases hexact

end Loading

end AnnotatedSql
