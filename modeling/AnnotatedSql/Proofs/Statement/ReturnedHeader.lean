import AnnotatedSql.Proofs.Statement.ReturnedBody
import AnnotatedSql.Proofs.Statement.Sections
import AnnotatedSql.Statement.Resolution

/-!
# Headers with carriage returns

A line with a carriage return at its end is to a header what it is without. So a block whose lines
end with carriage returns has the header of the block without them, with the carriage returns in the
body. Cutting a text gives such blocks where it gives blocks for the text without carriage returns.
-/

set_option autoImplicit false

namespace AnnotatedSql

open Text

/-- Carriage returns are put at the ends of the lines of a block. -/
def Block.returned (b : Block) : Block :=
  { b with text := returnedLine (withReturns b.text) }

/-- Carriage returns are put at the ends of the lines of a body. -/
def Header.returned (header : Header) : Header :=
  { header with body := withReturns header.body, block := header.block.returned }

/-- Carriage returns are put in literal text and at the ends of the lines of the block. -/
def Statement.returned (s : Statement) : Statement :=
  { s with tokens := s.tokens.map Token.returned, block := s.block.map Block.returned }

section Line

/-- A line without the blanks in front is empty, or starts with the same character with a carriage
return at the end. -/
theorem trimLeft_cases (cs : List Char) :
    (trimLeft cs = [] ∧ trimLeft (cs ++ ['\r']) = []) ∨
      ∃ c rest, trimLeft cs = c :: rest ∧ trimLeft (cs ++ ['\r']) = c :: (rest ++ ['\r']) := by
  rw [trimLeft_concat_return]
  cases trimLeft cs with
  | nil => exact Or.inl ⟨rfl, rfl⟩
  | cons c rest => exact Or.inr ⟨c, rest, rfl, rfl⟩

/-- The text that follows the hyphens of a comment has the carriage return. -/
theorem commentText?_concat_return (cs : List Char) :
    commentText? (cs ++ ['\r']) = (commentText? cs).map (· ++ ['\r']) := by
  unfold commentText?
  rcases trimLeft_cases cs with ⟨hnil, hnil'⟩ | ⟨c, rest, hcons, hcons'⟩
  · rw [hnil, hnil']
    rfl
  · rw [hcons, hcons']
    by_cases hc : c = '-'
    · subst hc
      cases rest with
      | nil => rfl
      | cons d later =>
        by_cases hd : d = '-'
        · subst hd
          rfl
        · simp [hd]
    · simp [hc]

/-- What follows a word has the carriage return. -/
theorem afterWord?_concat_return {word : List Char} (h : '\r' ∉ word) (cs : List Char) :
    afterWord? word (cs ++ ['\r']) = (afterWord? word cs).map (· ++ ['\r']) := by
  induction word generalizing cs with
  | nil => rfl
  | cons w rest ih =>
    obtain ⟨hw, hrest⟩ : '\r' ≠ w ∧ '\r' ∉ rest := by simpa using h
    cases cs with
    | nil =>
      have hlower : asciiLower '\r' = '\r' := rfl
      simp [afterWord?, hlower, hw]
    | cons c later =>
      simp only [List.cons_append, afterWord?]
      split
      · exact ih hrest later
      · rfl

/-- No directive's word has a carriage return. -/
theorem return_not_mem_word (directive : Directive) : '\r' ∉ directive.word := by
  cases directive <;> decide

/-- What follows the word of a directive has the carriage return. -/
theorem afterWord?_trimLeft_concat_return (directive : Directive) (cs : List Char) :
    afterWord? directive.word (trimLeft (cs ++ ['\r'])) =
      (afterWord? directive.word (trimLeft cs)).map (· ++ ['\r']) := by
  rcases trimLeft_cases cs with ⟨hnil, hnil'⟩ | ⟨c, rest, hcons, hcons'⟩
  · rw [hnil, hnil']
    cases directive <;> rfl
  · rw [hcons, hcons', ← List.cons_append, afterWord?_concat_return (return_not_mem_word directive)]

/-- The argument of a directive has the carriage return. -/
theorem argument?_concat_return (directive : Directive) (cs : List Char) :
    directive.argument? (cs ++ ['\r']) = (directive.argument? cs).map (· ++ ['\r']) := by
  unfold Directive.argument?
  rw [commentText?_concat_return]
  cases commentText? cs with
  | none => rfl
  | some comment =>
    simp only [Option.map_some, Option.bind_eq_bind, Option.bind_some,
      afterWord?_trimLeft_concat_return]
    cases afterWord? directive.word (trimLeft comment) with
    | none => rfl
    | some rest =>
      simp only [Option.map_some, Option.bind_some]
      rcases trimLeft_cases rest with ⟨hnil, hnil'⟩ | ⟨c, later, hcons, hcons'⟩
      · rw [hnil, hnil']
        rfl
      · rw [hcons, hcons']
        by_cases hc : c = ':'
        · subst hc
          rfl
        · simp [hc]

/-- A line holds the same directive with a carriage return at its end. -/
theorem ofLine?_concat_return (cs : List Char) :
    Directive.ofLine? (cs ++ ['\r']) = Directive.ofLine? cs := by
  simp only [Directive.ofLine?, argument?_concat_return, Option.isSome_map]

/-- The name that a text starts with is the same, and what follows it has the carriage return. -/
theorem headerName?_concat_return (cs : List Char) :
    headerName? (cs ++ ['\r']) =
      (headerName? cs).map fun found => (found.1, found.2 ++ ['\r']) := by
  unfold headerName?
  rcases trimLeft_cases cs with ⟨hnil, hnil'⟩ | ⟨c, rest, hcons, hcons'⟩
  · rw [hnil, hnil']
    rfl
  · have hreturn : isWord '\r' = false := by decide
    have htake : (rest ++ ['\r']).takeWhile isWord = rest.takeWhile isWord := by
      rw [List.takeWhile_append, List.takeWhile_cons_of_neg (by simp [hreturn])]
      split
      · next hlength =>
        rw [List.append_nil, (List.takeWhile_prefix isWord).eq_of_length hlength]
      · rfl
    have hdrop : (rest ++ ['\r']).dropWhile isWord = rest.dropWhile isWord ++ ['\r'] := by
      rw [List.dropWhile_append, List.dropWhile_cons_of_neg (by simp [hreturn])]
      split
      · next hempty => rw [List.isEmpty_iff.mp hempty, List.nil_append]
      · rfl
    rw [hcons, hcons']
    simp only [htake, hdrop]
    split <;> rfl

/-- The remark of a comment has no carriage return at its end. -/
theorem remarkText_concat_return (cs : List Char) :
    HeaderLine.remarkText (cs ++ ['\r']) = HeaderLine.remarkText cs := by
  cases cs with
  | nil => rfl
  | cons c rest =>
    simp only [List.cons_append, HeaderLine.remarkText]
    split
    · exact trimRight_concat_return rest
    · exact trimRight_concat_return (c :: rest)

/-- A line is the same to a header with a carriage return at its end. -/
theorem ofLine_returnedLine (line : String) :
    HeaderLine.ofLine (returnedLine line) = HeaderLine.ofLine line := by
  unfold HeaderLine.ofLine
  simp only [toList_returnedLine, isBlankText_concat_return, commentText?_concat_return,
    ofLine?_concat_return]
  cases commentText? line.toList with
  | none => rfl
  | some text => simp only [Option.map_some, remarkText_concat_return]

/-- A name header has the same name and kind with a carriage return at its end. -/
theorem nameAndKind?_returnedLine (line : String) :
    Header.nameAndKind? (returnedLine line) = Header.nameAndKind? line := by
  unfold Header.nameAndKind?
  rw [toList_returnedLine, argument?_concat_return]
  cases Directive.argument? .name line.toList with
  | none => rfl
  | some argument =>
    simp only [Option.map_some, Option.bind_eq_bind, Option.bind_some, headerName?_concat_return]
    cases headerName? argument with
    | none => rfl
    | some found => simp only [Option.map_some, Option.bind_some, trim_concat_return]

/-- The type of a scalar is the same with a carriage return at the end of its line. -/
theorem scalarType?_concat_return (cs : List Char) :
    Declaration.scalarType? (cs ++ ['\r']) = Declaration.scalarType? cs := by
  simp only [Declaration.scalarType?, trim_concat_return]

/-- The type between brackets is the same with a carriage return at the end of its line. -/
theorem bracketed?_concat_return (cs : List Char) :
    Declaration.bracketed? (cs ++ ['\r']) = Declaration.bracketed? cs := by
  unfold Declaration.bracketed?
  rw [List.dropWhile_append]
  cases hdrop : cs.dropWhile (· != ']') with
  | nil => rfl
  | cons c rest =>
    have hne : (cs.takeWhile (· != ']')).length ≠ cs.length := by
      have hlength := congrArg List.length
        (List.takeWhile_append_dropWhile (p := (· != ']')) (l := cs))
      rw [List.length_append, hdrop, List.length_cons] at hlength
      omega
    simp only [List.isEmpty_cons, Bool.false_eq_true, if_false, List.cons_append,
      isBlankText_concat_return, List.takeWhile_append, hne]

/-- The type between parentheses is the same with a carriage return at the end of its line. -/
theorem parenthesized?_concat_return (cs : List Char) :
    Declaration.parenthesized? (cs ++ ['\r']) = Declaration.parenthesized? cs := by
  simp only [Declaration.parenthesized?, trimRight_concat_return]

/-- The type of the elements is the same with a carriage return at the end of its line. -/
theorem elementType?_concat_return (cs : List Char) :
    Declaration.elementType? (cs ++ ['\r']) = Declaration.elementType? cs := by
  unfold Declaration.elementType?
  rcases trimLeft_cases cs with ⟨hnil, hnil'⟩ | ⟨c, rest, hcons, hcons'⟩
  · rw [hnil, hnil']
  · rw [hcons, hcons']
    by_cases hbracket : c = '['
    · subst hbracket
      exact bracketed?_concat_return rest
    · by_cases hparenthesis : c = '('
      · subst hparenthesis
        exact parenthesized?_concat_return rest
      · simp [hbracket, hparenthesis]

/-- A declaration has the same parts with a carriage return at the end of its line. -/
theorem parts?_concat_return (cs : List Char) :
    Declaration.parts? (cs ++ ['\r']) = Declaration.parts? cs := by
  unfold Declaration.parts?
  rw [argument?_concat_return]
  cases Directive.argument? .param cs with
  | none => rfl
  | some argument =>
    simp only [Option.map_some, Option.bind_eq_bind, Option.bind_some, headerName?_concat_return]
    cases headerName? argument with
    | none => rfl
    | some found =>
      simp only [Option.map_some, Option.bind_some]
      rcases trimLeft_cases found.2 with ⟨hnil, hnil'⟩ | ⟨c, rest, hcons, hcons'⟩
      · rw [hnil, hnil']
      · rw [hcons, hcons']
        by_cases hcolon : c = ':'
        · subst hcolon
          simp only [scalarType?_concat_return]
        · by_cases hnumber : c = '#'
          · subst hnumber
            simp only [elementType?_concat_return]
          · simp [hcolon, hnumber]

/-- A declaration is read the same with a carriage return at the end of its line. -/
theorem parse_returnedLine (line : String) (location : Option String) :
    Declaration.parse (returnedLine line) location = Declaration.parse line location := by
  simp only [Declaration.parse, toList_returnedLine, parts?_concat_return, strip_returnedLine]

end Line

namespace Header

/-- Header lines hold the same with carriage returns at their ends. -/
theorem contents_map_returnedLine (block : Block) (name : String) (offset : ℕ)
    (declared ls : List String) :
    contents block.returned name offset declared (ls.map returnedLine) =
      contents block name offset declared ls := by
  have hplace : ∀ offset : ℤ, block.returned.lineLocation offset = block.lineLocation offset :=
    fun _ => rfl
  induction ls generalizing offset declared with
  | nil => rfl
  | cons line rest ih =>
    simp only [List.map_cons, contents, ofLine_returnedLine, parse_returnedLine, ih, hplace]

/-- The header of lines with carriage returns at their ends is that of the lines without, with the
carriage returns in the body. -/
theorem parseFrom_map_returnedLine (block : Block) (offset : ℕ) {ls : List String}
    (h : ∀ line ∈ ls, '\n' ∉ line.toList) :
    parseFrom block.returned offset (ls.map returnedLine) =
      (parseFrom block offset ls).map returned := by
  have hplace : ∀ offset : ℤ, block.returned.lineLocation offset = block.lineLocation offset :=
    fun _ => rfl
  have hlocation : block.returned.location = block.location := rfl
  have hbody : ∀ line, startsBody (returnedLine line) = startsBody line := by
    intro line
    simp only [startsBody, ofLine_returnedLine]
  cases ls with
  | nil => rfl
  | cons line rest =>
    simp only [List.map_cons, parseFrom, ofLine_returnedLine, nameAndKind?_returnedLine,
      strip_returnedLine, hplace, hlocation, List.takeWhile_map, List.dropWhile_map,
      Function.comp_def, hbody, contents_map_returnedLine, List.isEmpty_map, List.length_map]
    cases HeaderLine.ofLine line with
    | blank => rfl
    | sql => rfl
    | remark text => rfl
    | directive directive =>
      cases directive with
      | param => rfl
      | name =>
        simp only
        cases nameAndKind? line with
        | none => rfl
        | some found =>
          simp only
          cases contents block found.1 (offset + 1) [] (rest.takeWhile (!startsBody ·)) with
          | error e => rfl
          | ok c =>
            simp only
            cases hbodyLines : rest.dropWhile (!startsBody ·) with
            | nil => rfl
            | cons first others =>
              have hnone : ∀ l ∈ first :: others, '\n' ∉ l.toList := by
                intro l hl
                rw [← hbodyLines] at hl
                exact h l (List.mem_cons_of_mem _ ((List.dropWhile_sublist _).mem hl))
              simp only [List.isEmpty_cons, Bool.false_eq_true, if_false,
                stripRight_unlines_map_returnedLine (List.cons_ne_nil _ _) hnone]
              rfl

/-- The header of a block with carriage returns at the ends of its lines is that of the block
without, with the carriage returns in the body. -/
theorem parse_returned (block : Block) : parse block.returned = (parse block).map returned := by
  have hlines : lines block.returned.text = (lines block.text).map returnedLine :=
    lines_returnedLine_withReturns block.text
  have hnone : ∀ line ∈ (lines block.text).drop ((lines block.text).takeWhile fun line =>
      (HeaderLine.ofLine line).isPreamble).length, '\n' ∉ line.toList :=
    fun line hline => newline_not_mem_of_mem_lines (List.mem_of_mem_drop hline)
  unfold parse
  simp only [hlines, List.takeWhile_map, Function.comp_def, ofLine_returnedLine, List.length_map,
    ← List.map_drop]
  exact parseFrom_map_returnedLine block _ hnone

/-- A header with carriage returns in its body has the same parameters. -/
theorem resolve_returned (header : Header) (unused : UnusedPolicy) :
    header.returned.resolve unused = (header.resolve unused).map Statement.returned := by
  have hparameters : ∀ tokens, Resolution.parameters header.kind header.declarations
      (tokens.map Token.returned) unused =
        Resolution.parameters header.kind header.declarations tokens unused := by
    intro tokens
    unfold Resolution.parameters
    rw [Token.markers_map_returned]
  unfold resolve Resolution.resolve
  simp only [returned, Token.scan_withReturns, hparameters]
  cases Resolution.parameters header.kind header.declarations (Token.scan header.body) unused with
  | error problem => rfl
  | ok parameters => rfl

end Header

namespace Section

/-- A line with a carriage return at its end is blank if it is without. -/
theorem isBlankLine_returnedLine (line : String) :
    isBlankLine (returnedLine line) = isBlankLine line := by
  simp only [isBlankLine, toList_returnedLine, isBlankText_concat_return]

variable {ends : String → Bool} {sourceName : String} {number : ℕ}

/-- The block of lines with carriage returns at their ends. -/
theorem block?_map_returnedLine {s : List String} (h : ∀ line ∈ s, '\n' ∉ line.toList) :
    block? sourceName number (s.map returnedLine) =
      (block? sourceName number s).map Block.returned := by
  have hdrop : (s.map returnedLine).dropWhile isBlankLine =
      (s.dropWhile isBlankLine).map returnedLine := by
    simp only [List.dropWhile_map, Function.comp_def, isBlankLine_returnedLine]
  have htake : ((s.map returnedLine).takeWhile isBlankLine).length =
      (s.takeWhile isBlankLine).length := by
    simp only [List.takeWhile_map, Function.comp_def, isBlankLine_returnedLine, List.length_map]
  unfold block?
  rw [hdrop, htake, List.length_map]
  cases hkept : s.dropWhile isBlankLine with
  | nil => rfl
  | cons first rest =>
    have hnone : ∀ line ∈ first :: rest, '\n' ∉ line.toList := by
      intro line hline
      rw [← hkept] at hline
      exact h line ((List.dropWhile_sublist _).mem hline)
    have htext : unlines ((first :: rest).map returnedLine) =
        returnedLine (withReturns (unlines (first :: rest))) := by
      rw [unlines_map_returnedLine (List.cons_ne_nil _ _), withReturns_unlines hnone]
    simp only [List.map_cons] at htext ⊢
    simp only [htext, Option.map_some, Block.returned]

/-- The place of the block of lines does not depend on carriage returns. -/
theorem location_block?_returnedLines (s : List String) :
    (block? sourceName number (returnedLines s)).map Block.location =
      (block? sourceName number s).map Block.location := by
  induction s generalizing number with
  | nil => rfl
  | cons line rest ih =>
    obtain ⟨first, hfirst, heq⟩ := returnedLines_cons line rest
    have hblank : isBlankLine first = isBlankLine line := by
      rcases heq with rfl | rfl
      · rfl
      · exact isBlankLine_returnedLine line
    rw [hfirst]
    cases hline : isBlankLine line with
    | true =>
      rw [block?_cons_of_blank _ (hblank.trans hline), block?_cons_of_blank _ hline, ih]
    | false =>
      rw [block?_cons_of_filled _ (hblank.trans hline), block?_cons_of_filled _ hline]
      rfl

/-- Lines with carriage returns at the ends of all but the last hold blocks with carriage returns
where the lines without hold blocks. What is left over is at the same place. -/
theorem readFrom_returnedLines (sourceName : String) (number : ℕ)
    (hends : ∀ line, ends (returnedLine line) = ends line)
    {ls : List String} (h : ∀ line ∈ ls, '\n' ∉ line.toList) :
    (readFrom ends sourceName number (returnedLines ls)).1 =
        (readFrom ends sourceName number ls).1.map Block.returned ∧
      (readFrom ends sourceName number (returnedLines ls)).2.map Block.location =
        (readFrom ends sourceName number ls).2.map Block.location := by
  induction ls using sectionsInduction ends generalizing number with
  | tail ls hls =>
    have hreturned : ∀ line ∈ returnedLines ls, ends line = false := by
      intro line hline
      obtain ⟨l, hl, rfl | rfl⟩ := exists_of_mem_returnedLines hline
      · exact hls _ hl
      · rw [hends, hls l hl]
    rw [readFrom_of_not_ends hls, readFrom_of_not_ends hreturned]
    exact ⟨rfl, location_block?_returnedLines ls⟩
  | ended s line rest hs hline ih =>
    have hreturned : ∀ l ∈ s.map returnedLine, ends l = false := by
      intro l hl
      obtain ⟨l', hl', rfl⟩ := List.mem_map.mp hl
      rw [hends, hs l' hl']
    have hnone : ∀ l ∈ s, '\n' ∉ l.toList := fun l hl => h l (List.mem_append_left _ hl)
    have hlater : ∀ l ∈ rest, '\n' ∉ l.toList := fun l hl =>
      h l (List.mem_append_right _ (List.mem_cons_of_mem _ hl))
    obtain ⟨hblocks, htail⟩ := ih (number + s.length + 1) hlater
    obtain ⟨first, hfirst, heq⟩ := returnedLines_cons line rest
    have hlast : ends first = true := by
      rcases heq with rfl | rfl
      · exact hline
      · rw [hends, hline]
    rw [returnedLines_append, hfirst, readFrom_append _ hreturned hlast,
      readFrom_append _ hs hline, List.length_map, block?_map_returnedLine hnone]
    refine ⟨?_, htail⟩
    simp only [hblocks, List.map_append]
    cases block? sourceName number s <;> rfl

end Section

/-- A line ends a section with a carriage return at its end if it does without. -/
theorem Terminator.ends_returnedLine (terminator : Terminator) (line : String) :
    terminator.ends (returnedLine line) = terminator.ends line := by
  cases terminator with
  | text marker => simp only [ends, strip_returnedLine]
  | bytes marker => rfl

/-- A text with carriage returns is cut into blocks with carriage returns where the text without is
cut into blocks. The error about what is left over is the same. -/
theorem segment_withReturns (text : String) (terminator : Terminator) (sourceName : String) :
    segment (withReturns text) terminator sourceName =
      { blocks := (segment text terminator sourceName).blocks.map Block.returned
        unterminated := (segment text terminator sourceName).unterminated } := by
  have hnone : ∀ line ∈ lines text, '\n' ∉ line.toList := fun _ => newline_not_mem_of_mem_lines
  obtain ⟨hblocks, htail⟩ := Section.readFrom_returnedLines sourceName 1
    terminator.strip.ends_returnedLine hnone
  have hplaced : ∀ (problem : Problem) (found : Option Block),
      (found.map fun b => (⟨problem, none, some b.location⟩ : CompileError)) =
        (found.map Block.location).map fun place => ⟨problem, none, some place⟩ := by
    intro problem found
    rw [Option.map_map]
    rfl
  rw [segment_eq, segment_eq, lines_withReturns]
  simp only [hblocks, hplaced, htail]

end AnnotatedSql
