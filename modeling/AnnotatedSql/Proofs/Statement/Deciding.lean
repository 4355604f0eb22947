import AnnotatedSql.Proofs.Statement.Header
import AnnotatedSql.Proofs.Statement.Partition

/-!
# The line that decides

A header is read line by line. If one of its lines is wrong, no block with the same lines up to this
one can be read, while the lines before it can still be continued to a block that is read. So the
line that an error names is the first one at which it is settled that the block is no statement. The
body of a block that is read starts at its first line that is neither blank nor a comment.
-/

set_option autoImplicit false

namespace AnnotatedSql

open Text

/-- One line of a header is what is wrong. -/
def Problem.isOfLine : Problem → Bool
  | textBeforeHeader _ | declarationBeforeHeader | malformedHeader _ | secondHeader
  | malformedDeclaration _ | missingElementType _ | repeatedDeclaration _ => true
  | unterminated _ | missingHeader | emptyBody | nameTaken _ | operationTaken _ | clashingName _
  | batchParameter _ | mixedUse _ | undeclared .. | contradiction .. | unusedParameter _
  | reservedParameter _ => false

/-- A declaration is read or not wherever it stands, and an error names its place. -/
theorem Declaration.parse_eq (line : String) (location : Option String) :
    parse line location = (parse line none).mapError fun e => { e with location } := by
  unfold parse
  split <;> rfl

/-- What is wrong with a declaration is its line. -/
theorem Declaration.isOfLine_of_parse {line : String} {location : Option String}
    {e : CompileError} (h : parse line location = .error e) : e.problem.isOfLine = true := by
  unfold parse at h
  split at h
  · cases h
    rfl
  · cases h
    rfl
  · cases h

namespace Header

/-- Some block has these lines and is read. -/
def Reads (ls : List String) : Prop :=
  ∃ block header, lines block.text = ls ∧ parse block = .ok header

/-- At a line it is settled that lines are not read. -/
structure DecidedAt (ls : List String) (i : ℕ) : Prop where
  /-- There is such a line. -/
  lt_length : i < ls.length
  /-- Nothing that starts with the lines up to this one is read. -/
  rejected : ∀ later, ¬ Reads (ls.take (i + 1) ++ later)
  /-- Something that starts with the lines before it is read. -/
  continued : ∃ later, Reads (ls.take i ++ later)

section Lines

variable {preamble : List String} {line : String}

/-- Reading starts at the first line that may not stand before the name header. -/
theorem parse_eq_parseFrom {block : Block} {rest : List String}
    (hlines : lines block.text = preamble ++ line :: rest)
    (hpreamble : ∀ l ∈ preamble, (HeaderLine.ofLine l).isPreamble = true)
    (hline : (HeaderLine.ofLine line).isPreamble = false) :
    parse block = parseFrom block preamble.length (line :: rest) := by
  have htake : (preamble ++ line :: rest).takeWhile
      (fun line => (HeaderLine.ofLine line).isPreamble) = preamble := by
    simp [List.takeWhile_append_of_pos hpreamble, hline]
  simp only [parse, hlines, htake, List.drop_left]

/-- Lines without newlines are those of a block. -/
theorem reads_of_parse {ls : List String} (hne : ls ≠ []) (hls : ∀ l ∈ ls, '\n' ∉ l.toList)
    (h : ∀ block, lines block.text = ls → ∃ header, parse block = .ok header) : Reads ls := by
  have hblock : lines (Block.mk (unlines ls) 1 1 Block.unnamedSource).text = ls :=
    lines_unlines hne hls
  obtain ⟨header, hheader⟩ := h _ hblock
  exact ⟨_, header, hblock, hheader⟩

/-- The lines up to one of them, when they are split there. -/
theorem take_succ_append (before : List String) (line : String) (after : List String) :
    (before ++ line :: after).take (before.length + 1) = before ++ [line] := by
  rw [List.append_cons, List.take_left' (by simp)]

/-- A name header. -/
def sampleNameLine : String := "-- name: a!"

/-- A line of a body. -/
def sampleBodyLine : String := "select 1"

/-- Before a body, header lines that are read are read with the body. -/
theorem parseFrom_body {block : Block} {offset : ℕ} {nameLine : String} {name : String}
    {kind : StatementKind} {headerLines : List String} {c : Contents}
    (hname : HeaderLine.ofLine nameLine = .directive .name)
    (hparts : nameAndKind? nameLine = some (name, kind))
    (hheader : ∀ l ∈ headerLines, startsBody l = false)
    (hcontents : contents block name (offset + 1) [] headerLines = .ok c) :
    ∃ header, parseFrom block offset (nameLine :: (headerLines ++ [sampleBodyLine])) =
      .ok header :=
  ⟨{ name, kind, declarations := c.declarations, doc := strip (unlines c.remarks),
      body := stripRight (unlines [sampleBodyLine]),
      bodyLine := block.startLine + (offset + 1 + headerLines.length : ℕ), block },
    parseFrom_eq_ok_iff.mpr ⟨nameLine, headerLines, sampleBodyLine, [], c, rfl, hname, hparts,
      hheader, by decide, hcontents, rfl, rfl, rfl, rfl, rfl⟩⟩

/-- A first line after the preamble that cannot be read there decides. -/
theorem decidedAt_preamble {rest : List String}
    (hls : ∀ l ∈ preamble, '\n' ∉ l.toList)
    (hpreamble : ∀ l ∈ preamble, (HeaderLine.ofLine l).isPreamble = true)
    (hline : (HeaderLine.ofLine line).isPreamble = false)
    (hbad : ∀ block offset later, ∃ e, parseFrom block offset (line :: later) = .error e) :
    DecidedAt (preamble ++ line :: rest) preamble.length := by
  refine ⟨by simp, ?_, [sampleNameLine, sampleBodyLine], ?_⟩
  · rintro later ⟨block, header, hblock, hparse⟩
    rw [take_succ_append, List.append_assoc, List.singleton_append] at hblock
    rw [parse_eq_parseFrom hblock hpreamble hline] at hparse
    obtain ⟨e, he⟩ := hbad block preamble.length later
    rw [he] at hparse
    cases hparse
  · rw [List.take_left]
    have hname : HeaderLine.ofLine sampleNameLine = .directive .name := by decide
    apply reads_of_parse (by simp)
    · intro l hl
      rcases List.mem_append.mp hl with hl | hl
      · exact hls l hl
      · have hsample : ∀ l ∈ [sampleNameLine, sampleBodyLine], '\n' ∉ l.toList := by decide
        exact hsample l hl
    · intro block hblock
      rw [parse_eq_parseFrom hblock hpreamble (by rw [hname]; rfl)]
      have hnone : ∀ l ∈ ([] : List String), startsBody l = false :=
        fun _ hl => absurd hl List.not_mem_nil
      exact parseFrom_body hname (by decide : _ = some ("a", .execute)) hnone rfl

end Lines

/-- The names that are declared once a line after the name header is read, or what is wrong with
the line. -/
def declaredAfter (declared : List String) (line : String) : Except Problem (List String) :=
  match HeaderLine.ofLine line with
  | .blank | .sql | .remark _ => .ok declared
  | .directive .name => .error .secondHeader
  | .directive .param =>
    match Declaration.parse line none with
    | .error e => .error e.problem
    | .ok d =>
      if declared.contains d.name then .error (.repeatedDeclaration d.name)
      else .ok (d.name :: declared)

/-- What is wrong with a line after the name header is that line. -/
theorem isOfLine_of_declaredAfter {declared : List String} {line : String} {p : Problem}
    (h : declaredAfter declared line = .error p) : p.isOfLine = true := by
  unfold declaredAfter at h
  split at h
  · cases h
  · cases h
  · cases h
  · cases h
    rfl
  · split at h
    · next e hparse =>
      cases h
      exact Declaration.isOfLine_of_parse hparse
    · split at h
      · cases h
        rfl
      · cases h

/-- A line with which nothing is wrong adds to what the lines after it hold. -/
theorem contents_cons_of_ok {declared declared' : List String} {line : String}
    (h : declaredAfter declared line = .ok declared') (block : Block) (name : String)
    (offset : ℕ) (rest : List String) :
    ∃ change, contents block name offset declared (line :: rest) =
      (contents block name (offset + 1) declared' rest).map change := by
  have hsame : ∀ outcome : Except CompileError Contents, outcome = outcome.map id := by
    intro outcome
    cases outcome <;> rfl
  unfold declaredAfter at h
  cases hline : HeaderLine.ofLine line with
  | blank =>
    simp only [hline, Except.ok.injEq] at h
    simp only [contents, hline, h]
    exact ⟨id, hsame _⟩
  | sql =>
    simp only [hline, Except.ok.injEq] at h
    simp only [contents, hline, h]
    exact ⟨id, hsame _⟩
  | remark text =>
    simp only [hline, Except.ok.injEq] at h
    simp only [contents, hline, h]
    exact ⟨_, rfl⟩
  | directive directive =>
    cases directive with
    | name => simp [hline] at h
    | param =>
      simp only [contents, hline, Declaration.parse_eq line (some _)] at h ⊢
      cases hparse : Declaration.parse line none with
      | error e => simp [hparse] at h
      | ok d =>
        cases hrepeated : declared.contains d.name with
        | true =>
          simp only [hparse, hrepeated, if_true] at h
          cases h
        | false =>
          simp only [hparse, hrepeated, Bool.false_eq_true, if_false, Except.ok.injEq] at h
          simp only [Outcome.mapError_ok, hrepeated, Bool.false_eq_true, if_false, h]
          exact ⟨_, rfl⟩

/-- A line with which something is wrong is an error at its place, whatever comes after it. -/
theorem contents_cons_of_error {declared : List String} {line : String} {p : Problem}
    (h : declaredAfter declared line = .error p) (block : Block) (name : String) (offset : ℕ)
    (rest : List String) :
    ∃ statement, contents block name offset declared (line :: rest) =
      .error ⟨p, statement, some (block.lineLocation offset)⟩ := by
  unfold declaredAfter at h
  cases hline : HeaderLine.ofLine line with
  | blank => simp [hline] at h
  | sql => simp [hline] at h
  | remark text => simp [hline] at h
  | directive directive =>
    cases directive with
    | name =>
      simp only [hline, Except.error.injEq] at h
      simp only [contents, hline, h]
      exact ⟨_, rfl⟩
    | param =>
      simp only [contents, hline, Declaration.parse_eq line (some _)] at h ⊢
      cases hparse : Declaration.parse line none with
      | error e =>
        simp only [hparse, Except.error.injEq] at h
        simp only [Outcome.mapError_error, h]
        exact ⟨_, rfl⟩
      | ok d =>
        cases hrepeated : declared.contains d.name with
        | true =>
          simp only [hparse, hrepeated, if_true, Except.error.injEq] at h
          simp only [Outcome.mapError_ok, hrepeated, if_true, h]
          exact ⟨_, rfl⟩
        | false =>
          simp only [hparse, hrepeated, Bool.false_eq_true, if_false] at h
          cases h

/-- Header lines after the name header are read wherever they stand, under any name. -/
def ReadsContents (declared ls : List String) : Prop :=
  ∀ block name offset, ∃ c, contents block name offset declared ls = .ok c

/-- Header lines after the name header are not read, wherever they stand. -/
def RefusesContents (declared ls : List String) : Prop :=
  ∀ block name offset, ∃ e, contents block name offset declared ls = .error e

/-- What is wrong with header lines after the name header is one of them: those before it are read,
and with it none are, whatever comes after it. -/
theorem contents_error {block : Block} {name : String} {offset : ℕ} {declared ls : List String}
    {e : CompileError} (h : contents block name offset declared ls = .error e) :
    ∃ before line after, ls = before ++ line :: after ∧ e.problem.isOfLine = true ∧
      e.location = some (block.lineLocation ((offset + before.length : ℕ) : ℤ)) ∧
      ReadsContents declared before ∧
      ∀ later, RefusesContents declared (before ++ line :: later) := by
  induction ls generalizing offset declared with
  | nil => cases h
  | cons line rest ih =>
    cases hline : declaredAfter declared line with
    | error p =>
      have hcontents := contents_cons_of_error hline
      obtain ⟨statement, hfirst⟩ := hcontents block name offset rest
      rw [hfirst] at h
      cases h
      refine ⟨[], line, rest, rfl, isOfLine_of_declaredAfter hline, rfl, fun _ _ _ => ⟨_, rfl⟩, ?_⟩
      intro later block name offset
      obtain ⟨statement, hlater⟩ := hcontents block name offset later
      exact ⟨_, hlater⟩
    | ok declared' =>
      have hcontents := contents_cons_of_ok hline
      obtain ⟨change, hfirst⟩ := hcontents block name offset rest
      rw [hfirst] at h
      obtain ⟨before, line', after, rfl, hproblem, hlocation, hreads, hrefuses⟩ :=
        ih (Outcome.map_eq_error_iff.mp h)
      refine ⟨line :: before, line', after, rfl, hproblem, ?_, ?_, ?_⟩
      · rw [hlocation, List.length_cons, Nat.add_assoc, Nat.add_comm 1]
      · intro block name offset
        obtain ⟨change, hlater⟩ := hcontents block name offset before
        obtain ⟨c, hc⟩ := hreads block name (offset + 1)
        exact ⟨change c, by rw [hlater, hc]; rfl⟩
      · intro later block name offset
        obtain ⟨change, hlater⟩ := hcontents block name offset (before ++ line' :: later)
        obtain ⟨e', he'⟩ := hrefuses later block name (offset + 1)
        exact ⟨e', by rw [List.cons_append, hlater, he']; rfl⟩

/-- A line after the name header that cannot be read decides, if those before it are read. -/
theorem decidedAt_contents {preamble before after : List String} {nameLine line name : String}
    {kind : StatementKind}
    (hls : ∀ l ∈ preamble ++ nameLine :: before, '\n' ∉ l.toList)
    (hpreamble : ∀ l ∈ preamble, (HeaderLine.ofLine l).isPreamble = true)
    (hname : HeaderLine.ofLine nameLine = .directive .name)
    (hparts : nameAndKind? nameLine = some (name, kind))
    (hbefore : ∀ l ∈ before ++ [line], startsBody l = false)
    (hreads : ReadsContents [] before)
    (hrefuses : ∀ later, RefusesContents [] (before ++ line :: later)) :
    DecidedAt (preamble ++ nameLine :: (before ++ line :: after))
      (preamble.length + 1 + before.length) := by
  have hline : (HeaderLine.ofLine nameLine).isPreamble = false := by
    rw [hname]
    rfl
  have hlength : preamble.length + 1 + before.length = (preamble ++ nameLine :: before).length := by
    simp only [List.length_append, List.length_cons]
    omega
  have hsplit : preamble ++ nameLine :: (before ++ line :: after) =
      (preamble ++ nameLine :: before) ++ line :: after := by simp
  rw [hsplit, hlength]
  refine ⟨by simp, ?_, [sampleBodyLine], ?_⟩
  · rintro later ⟨block, header, hblock, hparse⟩
    have hall : lines block.text = preamble ++ nameLine :: (before ++ line :: later) := by
      rw [hblock, take_succ_append]
      simp
    have hnot : ∀ l ∈ before ++ [line], (!startsBody l) = true := fun l hl => by
      simp [hbefore l hl]
    have htake : (before ++ line :: later).takeWhile (!startsBody ·) =
        before ++ line :: later.takeWhile (!startsBody ·) := by
      rw [List.append_cons, List.takeWhile_append_of_pos hnot, ← List.append_cons]
    obtain ⟨e, he⟩ := hrefuses (later.takeWhile (!startsBody ·)) block name (preamble.length + 1)
    rw [parse_eq_parseFrom hall hpreamble hline, parseFrom] at hparse
    simp only [hname, hparts, htake, he] at hparse
    cases hparse
  · rw [List.take_left]
    apply reads_of_parse (by simp)
    · intro l hl
      rcases List.mem_append.mp hl with hl | hl
      · exact hls l hl
      · rw [List.mem_singleton.mp hl]
        decide
    · intro block hblock
      obtain ⟨c, hc⟩ := hreads block name (preamble.length + 1)
      rw [List.append_assoc, List.cons_append] at hblock
      rw [parse_eq_parseFrom hblock hpreamble hline]
      exact parseFrom_body hname hparts (fun l hl => hbefore l (List.mem_append_left _ hl)) hc

/-- A block starts with the lines that may stand before the name header. Reading it starts at the
first other line. -/
theorem exists_preamble (block : Block) :
    ∃ preamble rest, lines block.text = preamble ++ rest ∧
      (∀ l ∈ preamble, (HeaderLine.ofLine l).isPreamble = true) ∧
      (∀ line later, rest = line :: later → (HeaderLine.ofLine line).isPreamble = false) ∧
      parse block = parseFrom block preamble.length rest := by
  have hsplit := List.takeWhile_append_dropWhile
    (p := fun line => (HeaderLine.ofLine line).isPreamble) (l := lines block.text)
  refine ⟨_, _, hsplit.symm, ?_, ?_, ?_⟩
  · exact List.all_eq_true.mp List.all_takeWhile
  · intro line later hrest
    have hhead := List.head?_dropWhile_not
      (fun line => (HeaderLine.ofLine line).isPreamble) (lines block.text)
    rw [hrest] at hhead
    exact hhead
  · have hdrop := congrArg (List.drop ((lines block.text).takeWhile
      fun line => (HeaderLine.ofLine line).isPreamble).length) hsplit
    rw [List.drop_left] at hdrop
    simp only [parse, hdrop]

/-- Why reading fails at the first line after the preamble: nothing can be read that goes on with
this line, or it is a name header and one of the header lines below it is wrong, or the body is
empty. -/
theorem parseFrom_cons_error {block : Block} {offset : ℕ} {line : String} {later : List String}
    {e : CompileError} (hline : (HeaderLine.ofLine line).isPreamble = false)
    (h : parseFrom block offset (line :: later) = .error e) :
    (e.problem.isOfLine = true ∧ e.location = some (block.lineLocation offset) ∧
      ∀ block offset later, ∃ e, parseFrom block offset (line :: later) = .error e) ∨
    (∃ name kind, HeaderLine.ofLine line = .directive .name ∧
      nameAndKind? line = some (name, kind) ∧
      contents block name (offset + 1) [] (later.takeWhile (!startsBody ·)) = .error e) ∨
    (e.problem.isOfLine = false ∧ e.location = some block.location) := by
  cases hkind : HeaderLine.ofLine line with
  | blank => simp [hkind, HeaderLine.isPreamble] at hline
  | remark text => simp [hkind, HeaderLine.isPreamble] at hline
  | sql =>
    simp only [parseFrom, hkind] at h ⊢
    cases h
    exact Or.inl ⟨rfl, rfl, fun _ _ _ => ⟨_, rfl⟩⟩
  | directive directive =>
    cases directive with
    | param =>
      simp only [parseFrom, hkind] at h ⊢
      cases h
      exact Or.inl ⟨rfl, rfl, fun _ _ _ => ⟨_, rfl⟩⟩
    | name =>
      simp only [parseFrom, hkind] at h
      cases hparts : nameAndKind? line with
      | none =>
        simp only [hparts] at h
        cases h
        refine Or.inl ⟨rfl, rfl, ?_⟩
        simp only [parseFrom, hkind, hparts]
        exact fun _ _ _ => ⟨_, rfl⟩
      | some parts =>
        obtain ⟨name, kind⟩ := parts
        simp only [hparts] at h
        split at h
        · next _ hcontents =>
          cases h
          exact Or.inr (Or.inl ⟨name, kind, rfl, rfl, hcontents⟩)
        · split at h
          · cases h
            exact Or.inr (Or.inr ⟨rfl, rfl⟩)
          · cases h

/-- A header line below the name header that cannot be read there decides, and is named. -/
theorem decidedAt_of_contents {block : Block} {e : CompileError} {preamble later : List String}
    {nameLine name : String} {kind : StatementKind}
    (hls : ∀ l ∈ preamble ++ nameLine :: later, '\n' ∉ l.toList)
    (hpreamble : ∀ l ∈ preamble, (HeaderLine.ofLine l).isPreamble = true)
    (hname : HeaderLine.ofLine nameLine = .directive .name)
    (hparts : nameAndKind? nameLine = some (name, kind))
    (h : contents block name (preamble.length + 1) [] (later.takeWhile (!startsBody ·)) =
      .error e) :
    e.problem.isOfLine = true ∧ ∃ i : ℕ, DecidedAt (preamble ++ nameLine :: later) i ∧
      e.location = some (block.lineLocation i) := by
  obtain ⟨before, bad, after, hsplit, hproblem, hlocation, hreads, hrefuses⟩ := contents_error h
  have hlater : later = before ++ bad :: (after ++ later.dropWhile (!startsBody ·)) := by
    conv_lhs => rw [← List.takeWhile_append_dropWhile (p := (!startsBody ·)) (l := later)]
    rw [hsplit, List.append_assoc, List.cons_append]
  have hnot : ∀ l ∈ before ++ [bad], startsBody l = false := by
    intro l hl
    have hmem : l ∈ later.takeWhile (!startsBody ·) := by
      rw [hsplit, List.append_cons]
      exact List.mem_append_left _ hl
    have hall := List.all_eq_true.mp
      (List.all_takeWhile (p := (!startsBody ·)) (l := later)) l hmem
    simpa using hall
  refine ⟨hproblem, preamble.length + 1 + before.length, ?_, hlocation⟩
  rw [hlater] at hls ⊢
  refine decidedAt_contents ?_ hpreamble hname hparts hnot hreads hrefuses
  intro l hl
  apply hls
  rcases List.mem_append.mp hl with hl | hl
  · exact List.mem_append_left _ hl
  · simp only [List.mem_append, List.mem_cons] at hl ⊢
    tauto

/-- What is wrong with a block that is not read: a line that decides, which the error names, or that
it has no name header or no body. -/
theorem parse_error {block : Block} {e : CompileError} (h : parse block = .error e) :
    (e.problem.isOfLine = true ∧ ∃ i : ℕ, DecidedAt (lines block.text) i ∧
        e.location = some (block.lineLocation i)) ∨
      e.problem.isOfLine = false ∧ e.location = some block.location := by
  obtain ⟨preamble, rest, hlines, hpreamble, hrest, hparse⟩ := exists_preamble block
  have hnewline : ∀ l ∈ lines block.text, '\n' ∉ l.toList := fun _ => newline_not_mem_of_mem_lines
  rw [hparse] at h
  rw [hlines] at hnewline ⊢
  cases rest with
  | nil =>
    cases h
    exact Or.inr ⟨rfl, rfl⟩
  | cons line later =>
    have hline := hrest line later rfl
    obtain ⟨hproblem, hlocation, hbad⟩ | ⟨name, kind, hname, hparts, hcontents⟩ | hempty :=
      parseFrom_cons_error hline h
    · have hfirst : ∀ l ∈ preamble, '\n' ∉ l.toList := fun l hl =>
        hnewline l (List.mem_append_left _ hl)
      exact Or.inl ⟨hproblem, _, decidedAt_preamble hfirst hpreamble hline hbad, hlocation⟩
    · exact Or.inl (decidedAt_of_contents hnewline hpreamble hname hparts hcontents)
    · exact Or.inr hempty

/-- No line that may stand before the name header starts the body. -/
theorem startsBody_of_isPreamble {line : String}
    (h : (HeaderLine.ofLine line).isPreamble = true) : startsBody line = false := by
  unfold startsBody
  cases hkind : HeaderLine.ofLine line with
  | sql => simp [hkind, HeaderLine.isPreamble] at h
  | blank => rfl
  | remark text => rfl
  | directive directive => rfl

/-- The body of a block that is read starts at its first line that is neither blank nor a
comment. -/
theorem isFirst_bodyLine {block : Block} {header : Header} (h : parse block = .ok header) :
    ∃ i : ℕ, Section.IsFirst startsBody (lines block.text) 0 i ∧
      header.bodyLocation = block.lineLocation i := by
  obtain ⟨preamble, rest, hlines, hpreamble, _, hparse⟩ := exists_preamble block
  rw [hparse] at h
  obtain ⟨nameLine, headerLines, first, others, _, rfl, hread⟩ := parseFrom_eq_ok_iff.mp h
  have hbefore : ∀ l ∈ preamble ++ nameLine :: headerLines, startsBody l = false := by
    intro l hl
    rcases List.mem_append.mp hl with hl | hl
    · exact startsBody_of_isPreamble (hpreamble l hl)
    · rcases List.mem_cons.mp hl with rfl | hl
      · simp [startsBody, hread.name_line]
      · exact hread.between_header l hl
  have hlocation : header.bodyLocation =
      block.lineLocation ((preamble.length + 1 + headerLines.length : ℕ) : ℤ) := by
    rw [bodyLocation, hread.block_eq, hread.bodyLine_eq]
    rfl
  have hsplit : lines block.text = preamble ++ nameLine :: headerLines ++ [first] ++ others := by
    rw [hlines]
    simp
  have hnumber : preamble.length + 1 + headerLines.length =
      (preamble ++ nameLine :: headerLines).length := by
    simp only [List.length_append, List.length_cons]
    omega
  refine ⟨_, hsplit ▸ Section.isFirst_ends hbefore hread.first_body, ?_⟩
  rw [hlocation, hnumber]

end Header

end AnnotatedSql
