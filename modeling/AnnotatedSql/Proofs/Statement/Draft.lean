import AnnotatedSql.Proofs.Statement.Declaration
import AnnotatedSql.Proofs.Text.Lines

/-!
# Statements as they are written

A draft is what an author says about one statement. Written in the documented format it is a name
header, a line for each remark and each declaration, and the body. Reading the header of such a
block gives the draft back, and resolving that header gives a statement that says the same.
-/

set_option autoImplicit false

namespace AnnotatedSql

open Text

/-- A parameter as it was declared, with its position. -/
def Parameter.asDeclared? (p : Parameter) : Option (Declaration × ℤ) :=
  p.declaredType.map fun type => (⟨p.name, type, p.multiplicity⟩, p.position)

/-- The parameters of declarations are declared at their positions. -/
theorem Resolution.filterMap_declared (uses : List Marker) (declarations : List Declaration) :
    (declared uses declarations).filterMap Parameter.asDeclared? =
      declarations.mapIdx fun i d => (d, (i : ℤ)) := by
  simp only [declared, List.mapIdx_eq_zipIdx_map, List.filterMap_map]
  rw [← List.filterMap_eq_map]
  rfl

/-- The parameters of markers are not declared. -/
theorem Resolution.filterMap_inferred (uses : List Marker) :
    (inferred uses).filterMap Parameter.asDeclared? = [] := by
  apply List.filterMap_eq_nil_iff.mpr
  intro p hp
  obtain ⟨i, hi, rfl⟩ := List.mem_mapIdx.mp hp
  rfl

/-- What an author says about one statement. -/
structure Draft where
  /-- What the statement is called. -/
  name : String
  /-- What running it gives back. -/
  kind : StatementKind
  /-- The remarks about it. -/
  docs : List String
  /-- Its declared parameters. -/
  declarations : List Declaration
  /-- The SQL text. -/
  body : String

namespace Draft

/-- The line of a remark. -/
def docLine (doc : String) : String :=
  "-- " ++ doc

/-- The line with the name and the selector. -/
def nameLine (d : Draft) : String :=
  "-- name: " ++ d.name ++ d.kind.selector

/-- The lines of the remarks and the declarations. -/
def headerLines (d : Draft) : List String :=
  d.docs.map docLine ++ d.declarations.map Declaration.line

/-- The lines of the draft in the documented format. -/
def lines (d : Draft) : List String :=
  d.nameLine :: (d.headerLines ++ Text.lines d.body)

/-- The block that the draft is, where it starts on the given line. -/
def block (sourceName : String) (start : ℕ) (d : Draft) : Block :=
  { text := unlines d.lines
    startLine := start
    endLine := (start + d.lines.length : ℕ) - 1
    sourceName := sourceName }

/-- A draft can be written in the documented format. Blanks that reading leaves out are not there
in the first place, and the declarations go with the markers of the body. -/
structure Sound (unused : UnusedPolicy) (d : Draft) : Prop where
  /-- The statement is called by a name. -/
  name : IsHeaderName d.name
  /-- Each remark is one line. -/
  doc_line : ∀ doc ∈ d.docs, '\n' ∉ doc.toList
  /-- No remark looks like a directive. -/
  doc_plain : ∀ doc ∈ d.docs, Directive.ofLine? (docLine doc).toList = none
  /-- No remark ends with blanks. -/
  doc_trimmed : ∀ doc ∈ d.docs, stripRight doc = doc
  /-- The remarks together have no blanks around them. -/
  docs_stripped : strip (unlines d.docs) = unlines d.docs
  /-- Each declaration is one line. -/
  writable : ∀ declaration ∈ d.declarations, declaration.Writable
  /-- Each parameter is declared once. -/
  names_nodup : (d.declarations.map Declaration.name).Nodup
  /-- The first line of the body is neither blank nor a comment. -/
  body_starts : ∃ first rest, Text.lines d.body = first :: rest ∧ Header.startsBody first = true
  /-- The body does not end with blanks. -/
  body_trimmed : stripRight d.body = d.body
  /-- The declarations and the markers do not contradict each other. -/
  resolvable : Resolution.Resolvable d.kind d.declarations (Token.markers (Token.scan d.body))
    unused

section Reading

variable {unused : UnusedPolicy} {d : Draft}

/-- The characters of the line with the name. -/
theorem toList_nameLine (d : Draft) : d.nameLine.toList =
    '-' :: '-' :: ' ' :: (Directive.name.word ++
      ':' :: ' ' :: (d.name.toList ++ d.kind.selector.toList)) := by
  simp [nameLine, Directive.word]

/-- The line with the name is read as a name header. -/
theorem ofLine_nameLine (d : Draft) : HeaderLine.ofLine d.nameLine = .directive .name :=
  HeaderLine.ofLine_written .name _ d.toList_nameLine

/-- The name and the kind are read back from their line. -/
theorem Sound.nameAndKind?_eq (h : d.Sound unused) :
    Header.nameAndKind? d.nameLine = some (d.name, d.kind) := by
  have hselector : ∃ c after, d.kind.selector.toList = c :: after ∧ isWord c = false ∧
      trim (c :: after) = c :: after := by
    cases d.kind <;> exact ⟨_, _, rfl, by decide, by decide⟩
  obtain ⟨c, after, hafter, hword, htrim⟩ := hselector
  unfold Header.nameAndKind?
  rw [toList_nameLine, Directive.argument?_written, hafter]
  simp only [Option.bind_eq_bind, Option.bind_some, headerName?_append _ h.name hword, htrim]
  rw [← hafter, String.ofList_toList, String.ofList_toList, StatementKind.ofSelector?_selector]
  rfl

/-- The line of a remark is read as that remark. -/
theorem Sound.ofLine_docLine (h : d.Sound unused) {doc : String} (hdoc : doc ∈ d.docs) :
    HeaderLine.ofLine (docLine doc) = .remark doc := by
  have hline : (docLine doc).toList = '-' :: '-' :: ' ' :: doc.toList := by simp [docLine]
  have hplain := h.doc_plain doc hdoc
  have htrimmed := h.doc_trimmed doc hdoc
  have hblank : isBlankText (docLine doc).toList = false := by
    rw [hline]
    rfl
  have hcomment : commentText? (docLine doc).toList = some (' ' :: doc.toList) := by
    rw [hline]
    rfl
  have htext : HeaderLine.remarkText (' ' :: doc.toList) = trimRight doc.toList := rfl
  simp only [HeaderLine.ofLine, hblank, hcomment, hplain, htext]
  exact congrArg HeaderLine.remark htrimmed

/-- The line of a declaration is read as a declaration. -/
theorem ofLine_line (d : Declaration) : HeaderLine.ofLine d.line = .directive .param :=
  HeaderLine.ofLine_written .param _ d.toList_line

/-- Declarations with new and different names are read back from their lines. -/
theorem contents_declarations {block : Block} {name : String} {offset : ℕ}
    {declared : List String} {declarations : List Declaration}
    (hwritable : ∀ d ∈ declarations, d.Writable)
    (hnodup : (declarations.map Declaration.name).Nodup)
    (hnew : ∀ d ∈ declarations, d.name ∉ declared) :
    Header.contents block name offset declared (declarations.map Declaration.line) =
      .ok ⟨declarations, []⟩ := by
  induction declarations generalizing offset declared with
  | nil => rfl
  | cons d rest ih =>
    rw [List.map_cons, List.nodup_cons] at hnodup
    have hcontains : declared.contains d.name = false := by
      simpa using hnew d List.mem_cons_self
    have hlater : ∀ later ∈ rest, later.name ∉ d.name :: declared := by
      intro later hmem
      simp only [List.mem_cons, not_or]
      refine ⟨?_, hnew later (List.mem_cons_of_mem _ hmem)⟩
      intro hsame
      exact hnodup.1 (hsame ▸ List.mem_map_of_mem hmem)
    have hrest : Header.contents block name (offset + 1) (d.name :: declared)
        (rest.map Declaration.line) = .ok ⟨rest, []⟩ :=
      ih (fun later hmem => hwritable later (List.mem_cons_of_mem _ hmem)) hnodup.2 hlater
    simp only [List.map_cons, Header.contents, ofLine_line,
      Declaration.parse_line (hwritable d List.mem_cons_self), hcontains, hrest,
      Bool.false_eq_true, if_false]
    rfl

/-- Remarks come before what the lines after them hold. -/
theorem contents_remarks {block : Block} {name : String} {offset : ℕ} {declared docs : List String}
    {lines : List String} {c : Header.Contents}
    (hdocs : ∀ doc ∈ docs, HeaderLine.ofLine (docLine doc) = .remark doc)
    (hlines : ∀ number, Header.contents block name number declared lines = .ok c) :
    Header.contents block name offset declared (docs.map docLine ++ lines) =
      .ok { c with remarks := docs ++ c.remarks } := by
  induction docs generalizing offset with
  | nil => exact hlines offset
  | cons doc rest ih =>
    have hrest : Header.contents block name (offset + 1) declared (rest.map docLine ++ lines) =
        .ok { c with remarks := rest ++ c.remarks } :=
      ih fun later hmem => hdocs later (List.mem_cons_of_mem _ hmem)
    simp only [List.map_cons, List.cons_append, Header.contents, hdocs doc List.mem_cons_self,
      hrest]
    rfl

/-- The remarks and the declarations are read back from the header lines. -/
theorem Sound.contents_eq (h : d.Sound unused) (block : Block) (name : String) (offset : ℕ) :
    Header.contents block name offset [] d.headerLines = .ok ⟨d.declarations, d.docs⟩ := by
  have hdeclarations : ∀ number, Header.contents block name number []
      (d.declarations.map Declaration.line) = .ok ⟨d.declarations, []⟩ := by
    intro number
    exact contents_declarations h.writable h.names_nodup fun _ _ => List.not_mem_nil
  unfold headerLines
  rw [contents_remarks (fun _ hdoc => h.ofLine_docLine hdoc) hdeclarations, List.append_nil]

/-- No header line starts the body. -/
theorem Sound.not_startsBody (h : d.Sound unused) {line : String}
    (hline : line ∈ d.headerLines) : Header.startsBody line = false := by
  rcases List.mem_append.mp hline with hline | hline
  · obtain ⟨doc, hdoc, rfl⟩ := List.mem_map.mp hline
    simp [Header.startsBody, h.ofLine_docLine hdoc]
  · obtain ⟨declaration, _, rfl⟩ := List.mem_map.mp hline
    simp [Header.startsBody, ofLine_line]

/-- No line of a draft holds a newline. -/
theorem Sound.newline_not_mem (h : d.Sound unused) {line : String} (hline : line ∈ d.lines) :
    '\n' ∉ line.toList := by
  rcases List.mem_cons.mp hline with rfl | hline
  · have hname := newline_not_mem_of_isHeaderName h.name
    have hselector : '\n' ∉ d.kind.selector.toList := by cases d.kind <;> decide
    simp [toList_nameLine, Directive.word, hname, hselector]
  · rcases List.mem_append.mp hline with hline | hline
    · rcases List.mem_append.mp hline with hline | hline
      · obtain ⟨doc, hdoc, rfl⟩ := List.mem_map.mp hline
        simp [docLine, h.doc_line doc hdoc]
      · obtain ⟨declaration, hdeclaration, rfl⟩ := List.mem_map.mp hline
        have hwritable := h.writable declaration hdeclaration
        have hname := newline_not_mem_of_isHeaderName hwritable.name
        rw [Declaration.toList_line]
        cases declaration.multiplicity <;>
          simp [Directive.word, hname, hwritable.type_line]
    · exact newline_not_mem_of_mem_lines hline

/-- The header that a draft has in a block. -/
def header (block : Block) (d : Draft) : Header :=
  { name := d.name
    kind := d.kind
    declarations := d.declarations
    doc := unlines d.docs
    body := d.body
    bodyLine := block.startLine + (d.headerLines.length + 1 : ℕ)
    block := block }

/-- The header of a draft is read back from its lines. -/
theorem Sound.parseFrom_lines (h : d.Sound unused) (block : Block) :
    Header.parseFrom block 0 d.lines = .ok (d.header block) := by
  obtain ⟨first, rest, hbody, hfirst⟩ := h.body_starts
  have hunlines : unlines (first :: rest) = d.body := by rw [← hbody, unlines_lines]
  refine Header.parseFrom_eq_ok_iff.mpr ⟨d.nameLine, d.headerLines, first, rest, _, ?_,
    ofLine_nameLine d, h.nameAndKind?_eq, fun _ hline => h.not_startsBody hline, hfirst,
    h.contents_eq block d.name _, rfl, h.docs_stripped.symm, ?_, ?_, rfl⟩
  · rw [Draft.lines, hbody]
  · rw [hunlines, h.body_trimmed]
    rfl
  · rw [Draft.header, Nat.zero_add, Nat.add_comm 1]

/-- The header of a draft is read back from its block. -/
theorem Sound.parse_block (h : d.Sound unused) (sourceName : String) (start : ℕ) :
    Header.parse (d.block sourceName start) = .ok (d.header (d.block sourceName start)) := by
  have hall : Text.lines (d.block sourceName start).text = d.lines :=
    lines_unlines (List.cons_ne_nil _ _) fun _ hline => h.newline_not_mem hline
  have hpreamble : d.lines.takeWhile (fun line => (HeaderLine.ofLine line).isPreamble) = [] := by
    simp [Draft.lines, ofLine_nameLine, HeaderLine.isPreamble]
  unfold Header.parse
  simp only [hall, hpreamble, List.length_nil, List.drop_zero]
  exact h.parseFrom_lines _

/-- A statement says what the draft in a block says. -/
structure ReadAs (block : Block) (d : Draft) (s : Statement) : Prop where
  /-- It is called the same. -/
  name_eq : s.name = d.name
  /-- Running it gives back the same. -/
  kind_eq : s.kind = d.kind
  /-- Its documentation is the remarks. -/
  doc_eq : s.doc = unlines d.docs
  /-- Its declared parameters are those of the draft, each at its position. -/
  declared_eq : s.parameters.filterMap Parameter.asDeclared? =
    d.declarations.mapIdx fun i declaration => (declaration, (i : ℤ))
  /-- Where parameters are declared there are no others. -/
  all_declared : d.declarations ≠ [] → ∀ p ∈ s.parameters, p.declaredType.isSome = true
  /-- Its body is kept to the letter. -/
  template_eq : s.template = d.body
  /-- It comes from the block. -/
  block_eq : s.block = some block

/-- The header of a draft is resolved to a statement that says the same. -/
theorem Sound.resolve_header (h : d.Sound unused) (block : Block) :
    ∃ s, (d.header block).resolve unused = .ok s ∧ d.ReadAs block s := by
  obtain ⟨uses, hparameters⟩ := Resolution.parameters_of_resolvable h.names_nodup h.resolvable
  have hresolved : Resolution.resolve d.name d.kind d.declarations (Token.scan d.body) unused
      (some (d.header block).bodyLocation) = .ok (if d.declarations.isEmpty then
        Resolution.inferred uses else Resolution.declared uses d.declarations) :=
    Outcome.mapError_eq_ok_iff.mpr hparameters
  refine ⟨_, Outcome.map_eq_ok_iff.mpr ⟨_, hresolved, rfl⟩, ?_⟩
  refine ⟨rfl, rfl, rfl, ?_, ?_, Token.template_scan d.body, rfl⟩
  · split
    · next hempty =>
      rw [Resolution.filterMap_inferred, List.isEmpty_iff.mp hempty]
      rfl
    · exact Resolution.filterMap_declared uses d.declarations
  · intro hsome p hp
    have hnotempty : d.declarations.isEmpty = false := by simpa using hsome
    simp only [hnotempty, Bool.false_eq_true, if_false] at hp
    obtain ⟨i, hi, rfl⟩ := List.mem_mapIdx.mp hp
    rfl

end Reading

end Draft

end AnnotatedSql
