import AnnotatedSql.Proofs.Compilation
import AnnotatedSql.Proofs.Settings
import AnnotatedSql.Proofs.Statement.Draft
import Mathlib.Data.List.Forall2

/-!
# Texts as they are written

A document is a text in the documented format: drafts, each with its terminator line, and blank
lines around them. Compiling undoes writing: it gives a statement for every draft, in order, that
says what the draft says and comes from the lines that the draft takes up.
-/

set_option autoImplicit false

namespace AnnotatedSql

open Text

/-- Drafts with blank lines before each of them and at the end. -/
structure Document where
  /-- The drafts, each with the lines in front of it. -/
  drafts : List (List String × Draft)
  /-- The lines after the last terminator line. -/
  trailing : List String

namespace Document

/-- The lines of a draft, with those in front of it and its terminator line. -/
def entryLines (terminator : String) (entry : List String × Draft) : List String :=
  entry.1 ++ (entry.2.lines ++ [terminator])

/-- The lines of a document. -/
def lines (terminator : String) (document : Document) : List String :=
  document.drafts.flatMap (entryLines terminator) ++ document.trailing

/-- The text of a document. -/
def text (terminator : String) (document : Document) : String :=
  unlines (document.lines terminator)

/-- Drafts with the lines they start on, where the first line has a number. -/
def placedFrom : ℕ → List (List String × Draft) → List (ℕ × Draft)
  | _, [] => []
  | number, (blanks, d) :: rest =>
    (number + blanks.length, d) ::
      placedFrom (number + blanks.length + d.lines.length + 1) rest

/-- The drafts of a document with the lines they start on. -/
def placed (document : Document) : List (ℕ × Draft) :=
  placedFrom 1 document.drafts

/-- A line that may stand between drafts. -/
structure BlankLine (line : String) : Prop where
  /-- It holds nothing but blanks. -/
  blank : Section.isBlankLine line = true
  /-- It is one line. -/
  newline_not_mem : '\n' ∉ line.toList

instance (line : String) : Decidable (BlankLine line) :=
  decidable_of_iff (Section.isBlankLine line = true ∧ '\n' ∉ line.toList)
    ⟨fun h => ⟨h.1, h.2⟩, fun h => ⟨h.blank, h.newline_not_mem⟩⟩

/-- A document can be written in the documented format with a terminator. -/
structure Sound (unused : UnusedPolicy) (terminator : String) (document : Document) : Prop where
  /-- Each draft can. -/
  drafts : ∀ entry ∈ document.drafts, entry.2.Sound unused
  /-- The drafts have different names. -/
  names_nodup : (document.drafts.map fun entry => entry.2.name).Nodup
  /-- No line of a draft is a terminator line. -/
  not_ended : ∀ entry ∈ document.drafts, ∀ line ∈ entry.2.lines, strip line ≠ strip terminator
  /-- The lines in front of the drafts are blank. -/
  blanks : ∀ entry ∈ document.drafts, ∀ line ∈ entry.1, BlankLine line
  /-- The lines after the last terminator line are blank. -/
  trailing : ∀ line ∈ document.trailing, BlankLine line

/-- A statement says what a draft says, and its block is the lines of the text that the draft
takes up. -/
structure ReadsBack (text sourceName : String) (placed : ℕ × Draft) (s : Statement) : Prop where
  /-- It says the same, and its block starts where the draft is placed. -/
  readAs : placed.2.ReadAs (placed.2.block sourceName placed.1) s
  /-- The draft takes up the lines from there on. -/
  occupies : ∃ before after, Text.lines text = before ++ (placed.2.lines ++ after) ∧
    before.length + 1 = placed.1

/-- The first line of a draft is not blank. -/
theorem isBlankLine_nameLine (d : Draft) : Section.isBlankLine d.nameLine = false := by
  unfold Section.isBlankLine
  rw [Draft.toList_nameLine]
  rfl

/-- A terminator that settings accept ends lines as long as its blanks are left out, and something
is left of it. -/
theorem terminatorOf_text {terminator : String} {found : Terminator}
    (h : Settings.terminatorOf (.text terminator) = .ok found) :
    found.strip = .text (strip terminator) ∧ strip terminator ≠ "" := by
  obtain ⟨given, hgiven, hempty, rfl⟩ := Settings.terminatorOf_eq_ok_iff.mp h
  cases hgiven
  refine ⟨Terminator.strip_strip _, ?_⟩
  simpa [Terminator.strip, Terminator.isEmpty] using hempty

/-- A blank line is no terminator line. -/
theorem BlankLine.not_ends {line marker : String} (h : BlankLine line) (hmarker : marker ≠ "") :
    (Terminator.text marker).ends line = false := by
  have hleft : trimLeft line.toList = [] :=
    List.dropWhile_eq_nil_iff.mpr (List.all_eq_true.mp h.blank)
  have hstrip : strip line = "" := by
    rw [strip, trim, hleft]
    rfl
  simpa [Terminator.ends, hstrip] using hmarker.symm

/-- The sections of drafts are their lines with those in front of them. -/
theorem cut_drafts {ends : String → Bool} {terminator : String}
    {drafts : List (List String × Draft)} {trailing : List String}
    (hends : ends terminator = true)
    (hdrafts : ∀ entry ∈ drafts, ∀ line ∈ entry.1 ++ entry.2.lines, ends line = false)
    (htrailing : ∀ line ∈ trailing, ends line = false) :
    Section.cut ends (drafts.flatMap (entryLines terminator) ++ trailing) =
      (drafts.map fun entry => entry.1 ++ entry.2.lines, trailing) := by
  induction drafts with
  | nil => exact Section.cut_of_not_ends htrailing
  | cons entry rest ih =>
    have hrest := ih fun other hother => hdrafts other (List.mem_cons_of_mem _ hother)
    have hfirst := Section.cut_append (rest.flatMap (entryLines terminator) ++ trailing)
      (hdrafts entry List.mem_cons_self) hends
    rw [hrest] at hfirst
    simpa [entryLines] using hfirst

/-- The blocks of the sections are those of the drafts, where they are placed. -/
theorem blocks_drafts {sourceName : String} {number : ℕ} {drafts : List (List String × Draft)}
    (hblank : ∀ entry ∈ drafts, ∀ line ∈ entry.1, Section.isBlankLine line = true) :
    Section.blocks sourceName number (drafts.map fun entry => entry.1 ++ entry.2.lines) =
      (placedFrom number drafts).map fun placed => placed.2.block sourceName placed.1 := by
  induction drafts generalizing number with
  | nil => rfl
  | cons entry rest ih =>
    obtain ⟨blanks, d⟩ := entry
    have hblock : Section.block? sourceName number (blanks ++ d.lines) =
        some (d.block sourceName (number + blanks.length)) := by
      unfold Draft.lines
      rw [Section.block?_of_blank_append (hblank (blanks, d) List.mem_cons_self)
        (isBlankLine_nameLine d)]
      simp only [Draft.block, Draft.lines, Option.some.injEq, Block.mk.injEq, true_and, and_true,
        List.length_cons]
      omega
    have hrest : Section.blocks sourceName (number + (blanks ++ d.lines).length + 1)
        (rest.map fun entry => entry.1 ++ entry.2.lines) =
        (placedFrom (number + (blanks ++ d.lines).length + 1) rest).map fun placed =>
          placed.2.block sourceName placed.1 :=
      ih fun other hother => hblank other (List.mem_cons_of_mem _ hother)
    rw [List.map_cons, Section.blocks, hblock, hrest, List.length_append, ← Nat.add_assoc]
    rfl

/-- A draft takes up lines from where it is placed. -/
theorem lines_of_mem_placedFrom {terminator : String} {number : ℕ}
    {drafts : List (List String × Draft)} {trailing : List String} {placed : ℕ × Draft}
    (h : placed ∈ placedFrom number drafts) :
    ∃ before after,
      drafts.flatMap (entryLines terminator) ++ trailing =
        before ++ (placed.2.lines ++ after) ∧ before.length + number = placed.1 := by
  induction drafts generalizing number with
  | nil => cases h
  | cons entry rest ih =>
    obtain ⟨blanks, d⟩ := entry
    rcases List.mem_cons.mp h with rfl | hlater
    · refine ⟨blanks, [terminator] ++ (rest.flatMap (entryLines terminator) ++ trailing), ?_, ?_⟩
      · simp [entryLines]
      · exact Nat.add_comm _ _
    · obtain ⟨before, after, hlines, hnumber⟩ := ih hlater
      refine ⟨entryLines terminator (blanks, d) ++ before, after, ?_, ?_⟩
      · rw [List.flatMap_cons, List.append_assoc, hlines, List.append_assoc]
      · simp only [entryLines, List.length_append, List.length_cons, List.length_nil]
        omega

/-- The drafts that are placed are those of the document. -/
theorem map_placedFrom (number : ℕ) (drafts : List (List String × Draft)) :
    (placedFrom number drafts).map Prod.snd = drafts.map Prod.snd := by
  induction drafts generalizing number with
  | nil => rfl
  | cons entry rest ih =>
    obtain ⟨blanks, d⟩ := entry
    simp [placedFrom, ih]

/-- No line of a document holds a newline. -/
theorem Sound.newline_not_mem {unused : UnusedPolicy} {terminator : String} {document : Document}
    (h : document.Sound unused terminator) (hline : '\n' ∉ terminator.toList) {line : String}
    (hmem : line ∈ document.lines terminator) : '\n' ∉ line.toList := by
  rcases List.mem_append.mp hmem with hmem | hmem
  · obtain ⟨entry, hentry, hmem⟩ := List.mem_flatMap.mp hmem
    rcases List.mem_append.mp hmem with hmem | hmem
    · exact (h.blanks entry hentry line hmem).newline_not_mem
    · rcases List.mem_append.mp hmem with hmem | hmem
      · exact (h.drafts entry hentry).newline_not_mem hmem
      · rwa [List.mem_singleton.mp hmem]
  · exact (h.trailing line hmem).newline_not_mem

/-- The lines of a document are those of its text. A text without any still has a blank one. -/
theorem Sound.lines_text {unused : UnusedPolicy} {terminator : String} {document : Document}
    (h : document.Sound unused terminator) (hline : '\n' ∉ terminator.toList) :
    ∃ trailing, (∀ line ∈ trailing, BlankLine line) ∧
      Text.lines (document.text terminator) =
        document.drafts.flatMap (entryLines terminator) ++ trailing := by
  by_cases hnone : document.lines terminator = []
  · refine ⟨[""], ?_, ?_⟩
    · intro line hmem
      rw [List.mem_singleton.mp hmem]
      exact ⟨rfl, by simp⟩
    · have hdrafts := (List.append_eq_nil_iff.mp hnone).1
      rw [text, hnone, hdrafts]
      rfl
  · exact ⟨document.trailing, h.trailing, lines_unlines hnone fun _ => h.newline_not_mem hline⟩

/-- The blocks of a document are those of its drafts, and all its text is terminated. -/
theorem Sound.segment_text {unused : UnusedPolicy} {terminator sourceName : String}
    {found : Terminator} {document : Document} (h : document.Sound unused terminator)
    (hline : '\n' ∉ terminator.toList)
    (hfound : Settings.terminatorOf (.text terminator) = .ok found) :
    segment (document.text terminator) found sourceName =
      ⟨document.placed.map fun p => p.2.block sourceName p.1, none⟩ := by
  obtain ⟨hstrip, hsome⟩ := terminatorOf_text hfound
  obtain ⟨trailing, htrailing, hlines⟩ := h.lines_text hline
  have hends : (Terminator.text (strip terminator)).ends terminator = true := by
    simp [Terminator.ends]
  have hdrafts : ∀ entry ∈ document.drafts, ∀ line ∈ entry.1 ++ entry.2.lines,
      (Terminator.text (strip terminator)).ends line = false := by
    intro entry hentry line hmem
    rcases List.mem_append.mp hmem with hmem | hmem
    · exact (h.blanks entry hentry line hmem).not_ends hsome
    · simpa [Terminator.ends] using h.not_ended entry hentry line hmem
  have hcut := cut_drafts hends hdrafts fun line hmem => (htrailing line hmem).not_ends hsome
  have hblocks : Section.blocks sourceName 1
      (document.drafts.map fun entry => entry.1 ++ entry.2.lines) =
      document.placed.map fun p => p.2.block sourceName p.1 :=
    blocks_drafts fun entry hentry line hmem => (h.blanks entry hentry line hmem).blank
  have hrest : ∀ number, Section.block? sourceName number trailing = none := by
    intro number
    exact Section.block?_eq_none_iff.mpr fun line hmem => (htrailing line hmem).blank
  unfold segment
  simp only [hstrip, hlines, hcut, hblocks, hrest, Option.map_none]

/-- The drafts that are placed can be written. -/
theorem Sound.sound_of_mem_placed {unused : UnusedPolicy} {terminator : String}
    {document : Document} (h : document.Sound unused terminator) {p : ℕ × Draft}
    (hp : p ∈ document.placed) : p.2.Sound unused := by
  have hmem : p.2 ∈ document.placed.map Prod.snd := List.mem_map_of_mem hp
  rw [placed, map_placedFrom] at hmem
  obtain ⟨entry, hentry, heq⟩ := List.mem_map.mp hmem
  rw [← heq]
  exact h.drafts entry hentry

/-- The drafts that are placed have different names. -/
theorem Sound.placed_names_nodup {unused : UnusedPolicy} {terminator : String}
    {document : Document} (h : document.Sound unused terminator) :
    (document.placed.map fun p => p.2.name).Nodup := by
  have hnames := congrArg (List.map Draft.name) (map_placedFrom 1 document.drafts)
  simp only [List.map_map] at hnames
  change (document.placed.map (Draft.name ∘ Prod.snd)).Nodup
  rw [placed, hnames]
  exact h.names_nodup

/-- Drafts with new and different names are compiled to statements that say the same. -/
theorem result_drafts {settings : Settings} {sourceName : String} {placed : List (ℕ × Draft)}
    {earlier : List (String × String)} (hsound : ∀ p ∈ placed, p.2.Sound settings.unused)
    (hnodup : (placed.map fun p => p.2.name).Nodup)
    (hnew : ∀ p ∈ placed, earlier.lookup p.2.name = none) :
    ∃ statements,
      (Compilation.ofBlocks settings none earlier
        (placed.map fun p => p.2.block sourceName p.1)).result = .ok statements ∧
      List.Forall₂ (fun p s => p.2.ReadAs (p.2.block sourceName p.1) s) placed statements := by
  induction placed generalizing earlier with
  | nil =>
    refine ⟨[], ?_, List.Forall₂.nil⟩
    rw [List.map_nil, Compilation.result_ofBlocks_nil]
    cases settings.onSyntaxError <;> rfl
  | cons p rest ih =>
    rw [List.map_cons, List.nodup_cons] at hnodup
    have hfirst := hsound p List.mem_cons_self
    obtain ⟨s, hresolve, hread⟩ := hfirst.resolve_header (p.2.block sourceName p.1)
    have hlater : ∀ q ∈ rest,
        ((p.2.name, (p.2.block sourceName p.1).location) :: earlier).lookup q.2.name = none := by
      intro q hq
      have hne : q.2.name ≠ p.2.name := by
        intro hsame
        exact hnodup.1 (List.mem_map.mpr ⟨q, hq, hsame⟩)
      exact Entries.lookup_cons_eq_none_iff.mpr ⟨hne, hnew q (List.mem_cons_of_mem _ hq)⟩
    obtain ⟨statements, hresult, hall⟩ :=
      ih (fun q hq => hsound q (List.mem_cons_of_mem _ hq)) hnodup.2 hlater
    refine ⟨s :: statements, ?_, List.Forall₂.cons hread hall⟩
    have hname : (p.2.header (p.2.block sourceName p.1)).name = p.2.name := rfl
    rw [List.map_cons, Compilation.result_ofBlocks_cons, hfirst.parse_block]
    simp only [hname, hnew p List.mem_cons_self, hresolve, hresult]
    rfl

/-- Compiling undoes writing: a document is compiled to a statement for every draft, in order, that
says what the draft says, and whose block is the lines that the draft takes up. -/
theorem compile_text {settings : Settings} {terminator : String} {document : Document}
    (hterminator : Settings.terminatorOf (.text terminator) = .ok settings.terminator)
    (hline : '\n' ∉ terminator.toList) (hsound : document.Sound settings.unused terminator)
    (sourceName : String) :
    ∃ statements,
      (compile settings (document.text terminator) sourceName).result = .ok statements ∧
      List.Forall₂ (ReadsBack (document.text terminator) sourceName) document.placed
        statements := by
  have hoccupies : ∀ p ∈ document.placed, ∃ before after,
      Text.lines (document.text terminator) = before ++ (p.2.lines ++ after) ∧
        before.length + 1 = p.1 := by
    intro p hp
    obtain ⟨trailing, _, hlines⟩ := hsound.lines_text hline
    rw [hlines]
    exact lines_of_mem_placedFrom hp
  obtain ⟨statements, hresult, hall⟩ :=
    result_drafts (fun _ => hsound.sound_of_mem_placed) hsound.placed_names_nodup
      fun _ _ => List.lookup_nil
  refine ⟨statements, ?_, ?_⟩
  · unfold compile
    rw [hsound.segment_text hline hterminator]
    exact hresult
  · have hboth := (List.forall₂_and_left _ _).mpr ⟨hoccupies, hall⟩
    exact hboth.imp fun _ _ h => ⟨h.2, h.1⟩

/-- A query with remarks and declarations. -/
def adults : Draft :=
  { name := "adults"
    kind := .query
    docs := ["Users of age", "", "in some towns."]
    declarations := [⟨"age", "i64", .scalar⟩, ⟨"towns", "(str)", .list⟩]
    body := "SELECT * FROM users\nWHERE age >= :age\r\n  AND town IN (#towns)" }

/-- A script without any. -/
def cleanup : Draft :=
  { name := "cleanup", kind := .batch, docs := [], declarations := [], body := "VACUUM;" }

/-- Two drafts with some blank lines. -/
def sample : Document := { drafts := [([], adults), (["", " \t"], cleanup)], trailing := [""] }

/-- The query can be written in the documented format. -/
theorem sound_adults : adults.Sound .error := by
  have hmarkers : Token.markers (Token.scan adults.body) =
      [⟨"age", .scalar⟩, ⟨"towns", .list⟩] := by decide +kernel
  refine ⟨⟨'a', _, rfl, by decide, by decide⟩, by decide, by decide, by decide, by decide, ?_,
    by decide, ⟨"SELECT * FROM users", _, rfl, by decide⟩, by decide, ?_⟩
  · intro d hd
    simp only [adults, List.mem_cons, List.not_mem_nil, or_false] at hd
    rcases hd with rfl | rfl
    · exact ⟨⟨'a', _, rfl, by decide, by decide⟩, by decide, by decide, by decide⟩
    · exact ⟨⟨'t', _, rfl, by decide, by decide⟩, by decide, by decide, by decide⟩
  · rw [hmarkers]
    exact ⟨by decide, by decide, by decide, by decide⟩

/-- The script can be written in the documented format. -/
theorem sound_cleanup : cleanup.Sound .error := by
  have hmarkers : Token.markers (Token.scan cleanup.body) = [] := by decide +kernel
  refine ⟨⟨'c', _, rfl, by decide, by decide⟩, by decide, by decide, by decide, by decide, ?_,
    by decide, ⟨"VACUUM;", _, rfl, by decide⟩, by decide, ?_⟩
  · intro d hd
    exact absurd hd List.not_mem_nil
  · rw [hmarkers]
    exact ⟨by decide, by decide, by decide, by decide⟩

/-- The sample can be written in the documented format. -/
theorem sound_sample : sample.Sound .error "/" := by
  refine ⟨?_, by decide, by decide +kernel, by decide, by decide⟩
  intro entry hentry
  simp only [sample, List.mem_cons, List.not_mem_nil, or_false] at hentry
  rcases hentry with rfl | rfl
  · exact sound_adults
  · exact sound_cleanup

/-- The sample is compiled to two statements. -/
theorem compile_text_sample : ∃ statements,
    (compile .standard (sample.text "/") "sample.sql").result = .ok statements ∧
    List.Forall₂ (ReadsBack (sample.text "/") "sample.sql") sample.placed statements :=
  compile_text rfl (by decide) sound_sample "sample.sql"

end Document

end AnnotatedSql
