import AnnotatedSql.Proofs.Statement.Deciding
import AnnotatedSql.Proofs.Statement.Grammar

/-!
# Every line of a block is accounted for

A block that is read is split into the lines before its name header, the name header, the lines
between it and the body, and the body. Each of these lines has one place in what is read: it is
skipped, or it gives the name, a declaration, a remark or a line of the body.
-/

set_option autoImplicit false

namespace AnnotatedSql

open Text

/-- The lines that may stand before the name header are blank, or comments that are no
directives. -/
theorem HeaderLine.isPreamble_iff {line : String} : (ofLine line).isPreamble = true ↔
    blank.Describes line ∨ ∃ said, (remark said).Describes line := by
  simp only [← ofLine_eq_iff]
  cases ofLine line <;> simp [isPreamble]

namespace Header

/-- The lines that start the body are neither blank nor comments. -/
theorem startsBody_iff {line : String} :
    startsBody line = true ↔ HeaderLine.sql.Describes line := by
  rw [startsBody, beq_iff_eq, HeaderLine.ofLine_eq_iff]

/-- Header lines comprise declarations and remarks, each in the order of their lines. No line is a
second name header. -/
inductive Comprise : List String → List Declaration → List String → Prop
  /-- There is no line. -/
  | nil : Comprise [] [] []
  /-- A blank line adds nothing. -/
  | blank {line : String} {rest remarks : List String} {declarations : List Declaration}
      (line_blank : HeaderLine.blank.Describes line)
      (rest_comprise : Comprise rest declarations remarks) :
      Comprise (line :: rest) declarations remarks
  /-- A declaration is read on its line. -/
  | declaration {line : String} {rest remarks : List String} {d : Declaration}
      {declarations : List Declaration}
      (line_directive : (HeaderLine.directive .param).Describes line)
      (parse_eq : Declaration.parse line none = .ok d)
      (rest_comprise : Comprise rest declarations remarks) :
      Comprise (line :: rest) (d :: declarations) remarks
  /-- Any other comment is a remark. -/
  | remark {line said : String} {rest remarks : List String} {declarations : List Declaration}
      (line_remark : (HeaderLine.remark said).Describes line)
      (rest_comprise : Comprise rest declarations remarks) :
      Comprise (line :: rest) declarations (said :: remarks)

section Contents

variable {block : Block} {name : String} {offset : ℕ} {declared ls remarks : List String}
  {declarations : List Declaration}

/-- Header lines are blank, declarations or remarks. -/
theorem Comprise.describes (h : Comprise ls declarations remarks) :
    ∀ l ∈ ls, HeaderLine.blank.Describes l ∨ (HeaderLine.directive .param).Describes l ∨
      ∃ said, (HeaderLine.remark said).Describes l := by
  induction h with
  | nil => exact List.forall_mem_nil _
  | blank hline _ ih => exact List.forall_mem_cons.mpr ⟨Or.inl hline, ih⟩
  | declaration hline _ _ ih => exact List.forall_mem_cons.mpr ⟨Or.inr (Or.inl hline), ih⟩
  | remark hline _ ih => exact List.forall_mem_cons.mpr ⟨Or.inr (Or.inr ⟨_, hline⟩), ih⟩

/-- No header line starts the body. -/
theorem Comprise.startsBody_eq_false (h : Comprise ls declarations remarks) :
    ∀ l ∈ ls, startsBody l = false := by
  intro l hl
  rcases h.describes l hl with hline | hline | ⟨_, hline⟩
  all_goals
    rw [startsBody, HeaderLine.ofLine_eq_iff.mpr hline]
    rfl

/-- No header line is a name header. -/
theorem Comprise.not_name (h : Comprise ls declarations remarks) :
    ∀ l ∈ ls, ¬ (HeaderLine.directive .name).Describes l := by
  intro l hl hname
  rw [← HeaderLine.ofLine_eq_iff] at hname
  rcases h.describes l hl with hline | hline | ⟨_, hline⟩
  all_goals
    rw [HeaderLine.ofLine_eq_iff.mpr hline] at hname
    cases hname

/-- Header lines that are read comprise what is read. -/
theorem comprise_of_contents {c : Contents} (hheader : ∀ l ∈ ls, startsBody l = false)
    (h : contents block name offset declared ls = .ok c) :
    Comprise ls c.declarations c.remarks := by
  induction ls generalizing offset declared c with
  | nil =>
    cases h
    exact .nil
  | cons line rest ih =>
    obtain ⟨hfirst, hrest⟩ := List.forall_mem_cons.mp hheader
    unfold contents at h
    simp only at h
    split at h
    · next hline => exact .blank (HeaderLine.ofLine_eq_iff.mp hline) (ih hrest h)
    · next hline => simp [startsBody, hline] at hfirst
    · next hline =>
      obtain ⟨later, hlater, rfl⟩ := Outcome.map_eq_ok_iff.mp h
      exact .remark (HeaderLine.ofLine_eq_iff.mp hline) (ih hrest hlater)
    · cases h
    · next hline =>
      split at h
      · cases h
      · next d hparse =>
        split at h
        · cases h
        · obtain ⟨later, hlater, rfl⟩ := Outcome.map_eq_ok_iff.mp h
          rw [Declaration.parse_eq, Outcome.mapError_eq_ok_iff] at hparse
          exact .declaration (HeaderLine.ofLine_eq_iff.mp hline) hparse (ih hrest hlater)

/-- What header lines comprise is read from them, if no parameter is declared twice. -/
theorem contents_of_comprise (h : Comprise ls declarations remarks)
    (hnodup : (declarations.map Declaration.name).Nodup)
    (hnew : ∀ d ∈ declarations, d.name ∉ declared) :
    contents block name offset declared ls = .ok ⟨declarations, remarks⟩ := by
  induction h generalizing offset declared with
  | nil => rfl
  | blank hline _ ih =>
    simp only [contents, HeaderLine.ofLine_eq_iff.mpr hline]
    exact ih hnodup hnew
  | remark hline _ ih =>
    simp only [contents, HeaderLine.ofLine_eq_iff.mpr hline, ih hnodup hnew, Except.map]
  | @declaration line rest remarks d declarations hline hparse _ ih =>
    obtain ⟨hfirst, hrest⟩ := List.forall_mem_cons.mp hnew
    obtain ⟨hnot, hlater⟩ := List.nodup_cons.mp hnodup
    have hfree : declared.contains d.name = false := by simpa using hfirst
    have hnew' : ∀ d' ∈ declarations, d'.name ∉ d.name :: declared := by
      intro d' hd'
      rw [List.mem_cons, not_or]
      refine ⟨?_, hrest d' hd'⟩
      intro hsame
      exact hnot (hsame ▸ List.mem_map_of_mem hd')
    simp only [contents, HeaderLine.ofLine_eq_iff.mpr hline, Declaration.parse_eq line (some _),
      hparse, Outcome.mapError_ok, hfree, Bool.false_eq_true, if_false, ih hlater hnew', Except.map]

end Contents

/-- How a header accounts for the lines of its block: those before the name header, the name header,
those between it and the body, and the first and the other lines of the body. -/
structure Account (block : Block) (header : Header) (before : List String) (nameLine : String)
    (between remarks : List String) (first : String) (others : List String) : Prop where
  /-- These are all lines of the block. -/
  lines_eq : lines block.text = before ++ nameLine :: (between ++ first :: others)
  /-- The lines before the name header are blank, or comments that are no directives. -/
  before_plain : ∀ l ∈ before, HeaderLine.blank.Describes l ∨
    ∃ said, (HeaderLine.remark said).Describes l
  /-- The name header gives the name and the kind. -/
  name_header : NameHeaderOf nameLine.toList header.name header.kind
  /-- The lines between it and the body are blank, or give the declarations and the remarks. -/
  between_comprise : Comprise between header.declarations remarks
  /-- None of them is a second name header. -/
  between_not_name : ∀ l ∈ between, ¬ (HeaderLine.directive .name).Describes l
  /-- The declarations have different names. -/
  names_nodup : (header.declarations.map Declaration.name).Nodup
  /-- The remarks are what is said about the statement. -/
  doc_eq : header.doc = strip (unlines remarks)
  /-- The body starts with a line that is neither blank nor a comment. -/
  first_sql : HeaderLine.sql.Describes first
  /-- The body is this line and all others, whatever they are, without the blanks at the end. -/
  body_eq : header.body = stripRight (unlines (first :: others))
  /-- The number of its first line is known. -/
  bodyLine_eq : header.bodyLine = block.startLine + (before.length + 1 + between.length : ℕ)
  /-- The block is kept. -/
  block_eq : header.block = block

/-- A block is read as a header exactly when the header accounts for its lines. -/
theorem parse_eq_ok_iff {block : Block} {header : Header} :
    parse block = .ok header ↔ ∃ before nameLine between remarks first others,
      Account block header before nameLine between remarks first others := by
  constructor
  · intro h
    obtain ⟨before, rest, hlines, hbefore, _, hparse⟩ := exists_preamble block
    rw [hparse] at h
    obtain ⟨nameLine, between, first, others, c, rfl, hread⟩ := parseFrom_eq_ok_iff.mp h
    have hcomprise := comprise_of_contents hread.between_header hread.contents_eq
    refine ⟨before, nameLine, between, c.remarks, first, others, hlines,
      fun l hl => HeaderLine.isPreamble_iff.mp (hbefore l hl),
      nameAndKind?_eq_some_iff.mp hread.nameAndKind_eq, ?_, ?_, ?_, hread.doc_eq,
      startsBody_iff.mp hread.first_body, hread.body_eq, hread.bodyLine_eq, hread.block_eq⟩
    · rw [hread.declarations_eq]
      exact hcomprise
    · exact hcomprise.not_name
    · rw [hread.declarations_eq]
      exact (contents_ok hread.contents_eq).1
  · rintro ⟨before, nameLine, between, remarks, first, others, h⟩
    obtain ⟨_, _, _, _, _, _, _, hdirective⟩ := id h.name_header
    have hname := HeaderLine.ofLine_eq_iff.mpr (HeaderLine.Describes.directive hdirective)
    have hline : (HeaderLine.ofLine nameLine).isPreamble = false := by
      rw [hname]
      rfl
    have hbefore : ∀ l ∈ before, (HeaderLine.ofLine l).isPreamble = true :=
      fun l hl => HeaderLine.isPreamble_iff.mpr (h.before_plain l hl)
    rw [parse_eq_parseFrom h.lines_eq hbefore hline, parseFrom_eq_ok_iff]
    have hcontents : contents block header.name (before.length + 1) [] between =
        .ok ⟨header.declarations, remarks⟩ :=
      contents_of_comprise h.between_comprise h.names_nodup fun _ _ => List.not_mem_nil
    exact ⟨nameLine, between, first, others, _, rfl, hname,
      nameAndKind?_eq_some_iff.mpr h.name_header, h.between_comprise.startsBody_eq_false,
      startsBody_iff.mpr h.first_sql, hcontents, rfl, h.doc_eq, h.body_eq, h.bodyLine_eq,
      h.block_eq⟩

end Header

end AnnotatedSql
