import AnnotatedSql.Proofs.Statement.Token
import Mathlib.Tactic.Basic

/-!
# Where markers count

A lexer reads SQL text from left to right and stands outside of everything, between quotes, or in a
comment. Markers count where it stands outside, and two colons one after the other are no marker's.
The markers among the tokens of a body are those that this lexer meets, at the same places, provided
that every quote and every block comment is closed.
-/

set_option autoImplicit false

namespace AnnotatedSql

open Text

/-- Where the lexer of SQL text stands. -/
inductive Region where
  /-- Outside of quotes and comments. -/
  | normal
  /-- Between two quotes, single or double. -/
  | quoted (mark : Char)
  /-- In a comment that the line ends. -/
  | lineComment
  /-- In a comment that a sign of its own ends. -/
  | blockComment
  deriving DecidableEq, Repr

namespace Region

/-- What the lexer does at a character with the next one in sight: whether it reads both at once,
and where it stands after that. -/
def step : Region → Char → Option Char → Bool × Region
  | normal, c, next =>
    if c = '\'' ∨ c = '"' then (false, quoted c)
    else if c = '-' ∧ next = some '-' then (true, lineComment)
    else if c = '/' ∧ next = some '*' then (true, blockComment)
    else if c = ':' ∧ next = some ':' then (true, normal)
    else (false, normal)
  | quoted mark, c, next =>
    if c ≠ mark then (false, quoted mark)
    else if next = some mark then (true, quoted mark)
    else (false, normal)
  | lineComment, c, _ => (false, if c = '\n' then normal else lineComment)
  | blockComment, c, next =>
    if c = '*' ∧ next = some '/' then (true, normal) else (false, blockComment)

/-- Where the lexer stands after a text. -/
def after : Region → List Char → Region
  | region, [] => region
  | region, [c] => (region.step c none).2
  | region, c :: d :: rest =>
    if (region.step c (some d)).1 then after (region.step c (some d)).2 rest
    else after (region.step c (some d)).2 (d :: rest)

/-- The text may end here: there is no quote or block comment left to close. -/
def isClosed : Region → Bool
  | normal | lineComment => true
  | quoted _ | blockComment => false

/-- The marker of a sigil that the lexer meets outside, and the text after the marker. Its name is
all the word characters that follow, the first of which may start a name. -/
def marker? : Region → Char → List Char → Option (Marker × List Char)
  | normal, c, d :: rest =>
    (Multiplicity.ofSigil? c).bind fun multiplicity =>
      if Lexeme.isNameStart d then
        some (⟨String.ofList ((d :: rest).takeWhile isWord), multiplicity⟩,
          (d :: rest).dropWhile isWord)
      else none
  | _, _, _ => none

/-- The markers that the lexer meets in a text, each with the text after it. -/
def markers : Region → List Char → List (Marker × List Char)
  | _, [] => []
  | _, [_] => []
  | region, c :: d :: rest =>
    if (region.step c (some d)).1 then markers (region.step c (some d)).2 rest
    else (region.marker? c (d :: rest)).toList ++
      markers (region.step c (some d)).2 (d :: rest)

/-- The lexer goes on from a character as its step says. -/
theorem after_cons (region : Region) (c : Char) (rest : List Char) :
    region.after (c :: rest) =
      if (region.step c rest.head?).1 then (region.step c rest.head?).2.after rest.tail
      else (region.step c rest.head?).2.after rest := by
  cases rest with
  | nil => simp [after]
  | cons d rest => rfl

/-- The lexer meets a marker at a character, or goes on as its step says. -/
theorem markers_cons (region : Region) (c : Char) (rest : List Char) :
    region.markers (c :: rest) =
      if (region.step c rest.head?).1 then (region.step c rest.head?).2.markers rest.tail
      else (region.marker? c rest).toList ++ (region.step c rest.head?).2.markers rest := by
  cases rest with
  | nil => cases region <;> simp [markers, marker?]
  | cons d rest => rfl

/-- Reading a text from one region comes to reading its rest from another: no marker is met before,
and the one is closed if the other is. -/
structure Passes (region : Region) (text : List Char) (later : Region) (rest : List Char) :
    Prop where
  /-- The rest decides what is left to close. -/
  isClosed_eq : (region.after text).isClosed = (later.after rest).isClosed
  /-- The markers are those of the rest. -/
  markers_eq : region.markers text = later.markers rest

namespace Passes

variable {first second third : Region} {text middle rest : List Char}

/-- One passage after another is a passage. -/
theorem trans (h : Passes first text second middle) (h' : Passes second middle third rest) :
    Passes first text third rest :=
  ⟨h.isClosed_eq.trans h'.isClosed_eq, h.markers_eq.trans h'.markers_eq⟩

/-- Two texts that come to the same rest come to each other. -/
theorem symm (h : Passes first text second middle) : Passes second middle first text :=
  ⟨h.isClosed_eq.symm, h.markers_eq.symm⟩

/-- A character that is read by itself is passed unless it is the sigil of a marker. -/
theorem single {c : Char} (hstep : first.step c rest.head? = (false, second))
    (hmarker : first.marker? c rest = none) : Passes first (c :: rest) second rest := by
  constructor
  · rw [after_cons, hstep]
    rfl
  · rw [markers_cons, hstep, hmarker]
    rfl

/-- Two characters that are read at once are passed. -/
theorem pair {c d : Char} (hstep : first.step c (some d) = (true, second)) :
    Passes first (c :: d :: rest) second rest := by
  constructor
  · rw [after_cons, List.head?_cons, hstep]
    rfl
  · rw [markers_cons, List.head?_cons, hstep]
    rfl

/-- What is closed in a rest of a text is passed in the text up to where it is closed. -/
theorem closes {close : List Char → Option (List Char × List Char)}
    (hpasses : Passes first text first rest)
    (hclose : (first.after rest).isClosed = true →
      ∃ inside later, close rest = some (inside, later) ∧ Passes first rest normal later)
    (h : (first.after text).isClosed = true) :
    ∃ inside later, close rest = some (inside, later) ∧ Passes first text normal later := by
  rw [hpasses.isClosed_eq] at h
  obtain ⟨inside, later, heq, hrest⟩ := hclose h
  exact ⟨inside, later, heq, hpasses.trans hrest⟩

end Passes

/-- No marker starts at a character that is no sigil. -/
theorem marker?_of_ofSigil? {c : Char} (h : Multiplicity.ofSigil? c = none) (region : Region)
    (rest : List Char) : region.marker? c rest = none := by
  cases region <;> cases rest <;> simp [marker?, h]

/-- No marker starts between quotes. -/
theorem marker?_quoted (mark c : Char) (rest : List Char) :
    (quoted mark).marker? c rest = none := by
  cases rest <;> rfl

/-- No marker starts in a block comment. -/
theorem marker?_blockComment (c : Char) (rest : List Char) :
    blockComment.marker? c rest = none := by
  cases rest <;> rfl

/-- No marker starts in a line comment. -/
theorem marker?_lineComment (c : Char) (rest : List Char) :
    lineComment.marker? c rest = none := by
  cases rest <;> rfl

/-- Between quotes, everything but the quote is passed. -/
theorem passes_quoted_of_ne {mark c : Char} (rest : List Char) (h : c ≠ mark) :
    Passes (quoted mark) (c :: rest) (quoted mark) rest :=
  .single (by simp [step, h]) (marker?_quoted mark c rest)

/-- A doubled quote is passed and closes nothing. -/
theorem passes_doubled (mark : Char) (rest : List Char) :
    Passes (quoted mark) (mark :: mark :: rest) (quoted mark) rest :=
  .pair (by simp [step])

/-- A quote that is not doubled closes. -/
theorem passes_closing {mark : Char} {rest : List Char} (h : rest.head? ≠ some mark) :
    Passes (quoted mark) (mark :: rest) normal rest :=
  .single (by simp [step, h]) (marker?_quoted mark mark rest)

/-- A quote that is closed is passed up to where it is closed. -/
theorem closeQuote?_of_isClosed {mark : Char} {cs : List Char}
    (h : ((quoted mark).after cs).isClosed = true) :
    ∃ inside rest, Lexeme.closeQuote? mark cs = some (inside, rest) ∧
      Passes (quoted mark) cs normal rest := by
  fun_induction Lexeme.closeQuote? mark cs with
  | case1 => cases h
  | case2 => exact ⟨_, _, rfl, passes_closing (by simp)⟩
  | case3 c hc =>
    rw [(passes_quoted_of_ne [] hc).isClosed_eq] at h
    cases h
  | case4 rest inside after hclose ih =>
    obtain ⟨_, _, heq, hpasses⟩ := (passes_doubled mark rest).closes ih h
    rw [hclose] at heq
    cases heq
    exact ⟨_, _, rfl, hpasses⟩
  | case5 rest hclose ih =>
    obtain ⟨_, _, heq, _⟩ := (passes_doubled mark rest).closes ih h
    rw [hclose] at heq
    cases heq
  | case6 d rest hd => exact ⟨_, _, rfl, passes_closing (by simpa using hd)⟩
  | case7 c d rest hc inside after hclose ih =>
    obtain ⟨_, _, heq, hpasses⟩ := (passes_quoted_of_ne (d :: rest) hc).closes ih h
    rw [hclose] at heq
    cases heq
    exact ⟨_, _, rfl, hpasses⟩
  | case8 c d rest hc hclose ih =>
    obtain ⟨_, _, heq, _⟩ := (passes_quoted_of_ne (d :: rest) hc).closes ih h
    rw [hclose] at heq
    cases heq

/-- In a block comment, everything but the closing sign is passed. -/
theorem passes_blockComment {c : Char} {rest : List Char} (h : ¬(c = '*' ∧ rest.head? = some '/')) :
    Passes blockComment (c :: rest) blockComment rest :=
  .single (by simp only [step, h, if_false]) (marker?_blockComment c rest)

/-- A block comment that is closed is passed up to where it is closed. -/
theorem closeComment?_of_isClosed {cs : List Char} (h : (blockComment.after cs).isClosed = true) :
    ∃ inside rest, Lexeme.closeComment? cs = some (inside, rest) ∧
      Passes blockComment cs normal rest := by
  fun_induction Lexeme.closeComment? cs with
  | case1 => cases h
  | case2 c =>
    rw [(passes_blockComment (by simp)).isClosed_eq] at h
    cases h
  | case3 c d rest hsign =>
    obtain ⟨rfl, rfl⟩ : c = '*' ∧ d = '/' := by simpa using hsign
    exact ⟨_, _, rfl, .pair rfl⟩
  | case4 c d rest hsign inside after hclose ih =>
    have hother : Passes blockComment (c :: d :: rest) blockComment (d :: rest) :=
      passes_blockComment (by simpa using hsign)
    obtain ⟨_, _, heq, hpasses⟩ := hother.closes ih h
    rw [hclose] at heq
    cases heq
    exact ⟨_, _, rfl, hpasses⟩
  | case5 c d rest hsign hclose ih =>
    have hother : Passes blockComment (c :: d :: rest) blockComment (d :: rest) :=
      passes_blockComment (by simpa using hsign)
    obtain ⟨_, _, heq, _⟩ := hother.closes ih h
    rw [hclose] at heq
    cases heq

/-- Outside, a character that opens nothing and is no sigil is passed. -/
theorem passes_normal {c : Char} {rest : List Char}
    (hstep : normal.step c rest.head? = (false, normal)) (hsigil : Multiplicity.ofSigil? c = none) :
    Passes normal (c :: rest) normal rest :=
  .single hstep (marker?_of_ofSigil? hsigil normal rest)

/-- A line comment is passed up to the end of the line, which may be passed in it or after it. -/
theorem passes_lineComment (cs : List Char) :
    Passes lineComment cs normal (cs.dropWhile (· != '\n')) := by
  induction cs with
  | nil => exact ⟨rfl, rfl⟩
  | cons c rest ih =>
    by_cases hc : c = '\n'
    · subst hc
      have hinside : Passes lineComment ('\n' :: rest) normal rest :=
        .single rfl (marker?_lineComment _ _)
      have houtside : Passes normal ('\n' :: rest) normal rest := passes_normal rfl rfl
      rw [List.dropWhile_cons_of_neg (by simp)]
      exact hinside.trans houtside.symm
    · have hinside : Passes lineComment (c :: rest) lineComment rest :=
        .single (by simp [step, hc]) (marker?_lineComment c rest)
      rw [List.dropWhile_cons_of_pos (by simpa using hc)]
      exact hinside.trans ih

/-- Word characters open nothing, and none of them is a sigil. -/
theorem passes_word {c : Char} (rest : List Char) (h : isWord c = true) :
    Passes normal (c :: rest) normal rest := by
  obtain ⟨hsingle, hdouble, hhyphen, hslash, hcolon, hnumber⟩ := ne_of_isWord h
  apply passes_normal
  · simp [step, hsingle, hdouble, hhyphen, hslash, hcolon]
  · simp [Multiplicity.ofSigil?, hcolon, hnumber]

/-- Words are passed. -/
theorem passes_dropWhile_isWord (cs : List Char) :
    Passes normal cs normal (cs.dropWhile isWord) := by
  induction cs with
  | nil => exact ⟨rfl, rfl⟩
  | cons c rest ih =>
    cases hc : isWord c with
    | true =>
      rw [List.dropWhile_cons_of_pos hc]
      exact (passes_word rest hc).trans ih
    | false =>
      rw [List.dropWhile_cons_of_neg (by simp [hc])]
      exact ⟨rfl, rfl⟩

end Region

namespace Lexeme

/-- The marker that a lexeme is, with the text after it. -/
def found (rest : List Char) : Lexeme → List (Marker × List Char)
  | plain _ | passage _ => []
  | marker multiplicity name => [(⟨String.ofList name, multiplicity⟩, rest)]

/-- The markers among lexemes, each with the text after it. -/
def markers : List Lexeme → List (Marker × List Char)
  | [] => []
  | lexeme :: rest => lexeme.found (rest.flatMap text) ++ markers rest

open Region

/-- What may start the name of a marker is a word character. -/
theorem isWord_of_isNameStart {c : Char} (h : isNameStart c = true) : isWord c = true := by
  have hascii : c.toNat < 128 := by
    simp only [isNameStart, isAsciiLetter, Bool.or_eq_true, Bool.and_eq_true, decide_eq_true_eq,
      beq_iff_eq] at h
    rcases h with (⟨_, hle⟩ | ⟨_, hle⟩) | rfl
    · have hz : c.toNat ≤ 122 := hle
      omega
    · have hz : c.toNat ≤ 90 := hle
      omega
    · decide
  simp only [isWord, hascii, if_true, Bool.or_eq_true]
  rcases Bool.or_eq_true_iff.mp h with hletter | hunderscore
  · exact Or.inl (Or.inl hletter)
  · exact Or.inr hunderscore

/-- Outside, the lexer meets the marker that is read there. -/
theorem toList_marker? (c : Char) (rest : List Char) :
    (normal.marker? c rest).toList =
      match marker? (c :: rest) with
      | some (lexeme, after) => lexeme.found after
      | none => [] := by
  cases rest with
  | nil => rfl
  | cons d rest =>
    cases hsigil : Multiplicity.ofSigil? c with
    | none => simp [Region.marker?, marker?, hsigil]
    | some m =>
      cases hstart : isNameStart d with
      | false => simp [Region.marker?, marker?, hsigil, hstart]
      | true =>
        have hword := isWord_of_isNameStart hstart
        simp [Region.marker?, marker?, hsigil, hstart, hword, found]

/-- A quote outside opens a region. -/
theorem passes_opening {mark : Char} (hmark : mark = '\'' ∨ mark = '"') (rest : List Char) :
    Passes normal (mark :: rest) (quoted mark) rest := by
  apply Passes.single
  · simp [step, hmark]
  · rcases hmark with rfl | rfl <;> exact marker?_of_ofSigil? rfl _ _

/-- A quoted passage is passed, provided that the text closes what it opens. -/
theorem closeQuote?_of_opening {mark : Char} (hmark : mark = '\'' ∨ mark = '"')
    {rest : List Char} (hclosed : (normal.after (mark :: rest)).isClosed = true) :
    ∃ inside after, closeQuote? mark rest = some (inside, after) ∧
      Passes normal (mark :: rest) normal after := by
  have hopening := passes_opening hmark rest
  rw [hopening.isClosed_eq] at hclosed
  obtain ⟨inside, after, hclose, hpasses⟩ := closeQuote?_of_isClosed hclosed
  exact ⟨inside, after, hclose, hopening.trans hpasses⟩

/-- A block comment is passed, provided that the text closes what it opens. -/
theorem closeComment?_of_opening {rest : List Char}
    (hclosed : (normal.after ('/' :: '*' :: rest)).isClosed = true) :
    ∃ inside after, closeComment? rest = some (inside, after) ∧
      Passes normal ('/' :: '*' :: rest) normal after := by
  have hopening : Passes normal ('/' :: '*' :: rest) blockComment rest := .pair rfl
  rw [hopening.isClosed_eq] at hclosed
  obtain ⟨inside, after, hclose, hpasses⟩ := closeComment?_of_isClosed hclosed
  exact ⟨inside, after, hclose, hopening.trans hpasses⟩

/-- A passage is passed, provided that the text closes what it opens. -/
theorem passes_of_passage? {cs text rest : List Char} (h : passage? cs = some (text, rest))
    (hclosed : (normal.after cs).isClosed = true) : Passes normal cs normal rest := by
  unfold passage? at h
  split at h
  · obtain ⟨inside, after, hclose, hpasses⟩ := closeQuote?_of_opening (Or.inl rfl) hclosed
    rw [hclose] at h
    cases h
    exact hpasses
  · obtain ⟨inside, after, hclose, hpasses⟩ := closeQuote?_of_opening (Or.inr rfl) hclosed
    rw [hclose] at h
    cases h
    exact hpasses
  · cases h
    exact (Passes.pair rfl).trans (passes_lineComment _)
  · obtain ⟨inside, after, hclose, hpasses⟩ := closeComment?_of_opening hclosed
    rw [hclose] at h
    cases h
    exact hpasses
  · cases h
    exact .pair rfl
  · cases h

/-- Where no passage starts, nothing is opened, provided that the text closes what it opens. -/
theorem step_of_passage? {c : Char} {rest : List Char} (h : passage? (c :: rest) = none)
    (hclosed : (normal.after (c :: rest)).isClosed = true) :
    normal.step c rest.head? = (false, normal) := by
  have hquote : ¬(c = '\'' ∨ c = '"') := by
    intro hmark
    obtain ⟨inside, after, hclose, _⟩ := closeQuote?_of_opening hmark hclosed
    rcases hmark with rfl | rfl <;> simp [passage?, hclose] at h
  have hline : ¬(c = '-' ∧ rest.head? = some '-') := by
    rintro ⟨rfl, hnext⟩
    obtain ⟨after, rfl⟩ := List.head?_eq_some_iff.mp hnext
    cases h
  have hblock : ¬(c = '/' ∧ rest.head? = some '*') := by
    rintro ⟨rfl, hnext⟩
    obtain ⟨text, rfl⟩ := List.head?_eq_some_iff.mp hnext
    obtain ⟨inside, after, hclose, _⟩ := closeComment?_of_opening hclosed
    simp [passage?, hclose] at h
  have hcast : ¬(c = ':' ∧ rest.head? = some ':') := by
    rintro ⟨rfl, hnext⟩
    obtain ⟨after, rfl⟩ := List.head?_eq_some_iff.mp hnext
    cases h
  simp only [step, hquote, hline, hblock, hcast, if_false]

/-- The name of a marker is passed. -/
theorem passes_of_marker? {c : Char} {rest : List Char} {found : Lexeme × List Char}
    (h : marker? (c :: rest) = some found) : Passes normal rest normal found.2 := by
  cases rest with
  | nil => cases h
  | cons d rest =>
    simp only [marker?] at h
    split at h
    · split at h
      · next hstart =>
        cases h
        exact (passes_word rest (isWord_of_isNameStart hstart)).trans
          (passes_dropWhile_isWord rest)
      · cases h
    · cases h

/-- The lexer meets the first lexeme of a text if that is a marker, and goes on after it. -/
theorem markers_next {c : Char} {rest : List Char}
    (hclosed : (normal.after (c :: rest)).isClosed = true) :
    (normal.after (c :: rest)).isClosed = (normal.after (next c rest).2).isClosed ∧
      normal.markers (c :: rest) =
        (next c rest).1.found (next c rest).2 ++ normal.markers (next c rest).2 := by
  unfold next
  split
  · next text after hpassage =>
    have hpasses := passes_of_passage? hpassage hclosed
    exact ⟨hpasses.isClosed_eq, hpasses.markers_eq⟩
  · next hpassage =>
    have hstep := step_of_passage? hpassage hclosed
    have hmarkers : normal.markers (c :: rest) =
        (normal.marker? c rest).toList ++ normal.markers rest := by
      rw [markers_cons, hstep]
      rfl
    have hafter : normal.after (c :: rest) = normal.after rest := by
      rw [after_cons, hstep]
      rfl
    rw [hmarkers, hafter, toList_marker?]
    cases hmarker : marker? (c :: rest) with
    | none => exact ⟨rfl, rfl⟩
    | some found =>
      have hpasses := passes_of_marker? hmarker
      exact ⟨hpasses.isClosed_eq, by rw [hpasses.markers_eq]⟩

/-- The markers among the lexemes of a text are those that the lexer meets, provided that the text
closes what it opens. -/
theorem markers_scan {cs : List Char} (hclosed : (normal.after cs).isClosed = true) :
    markers (scan cs) = normal.markers cs := by
  induction cs using scan.induct with
  | case1 => simp [scan, markers, Region.markers]
  | case2 c rest ih =>
    obtain ⟨hafter, hmarkers⟩ := markers_next hclosed
    rw [scan_cons, markers, flatMap_text_scan, hmarkers, ih (hafter ▸ hclosed)]

end Lexeme

namespace Token

/-- The markers among tokens, each with the text after it. -/
def placedMarkers : List Token → List (Marker × String)
  | [] => []
  | literal _ :: rest => placedMarkers rest
  | marker m :: rest => (m, template rest) :: placedMarkers rest

/-- A literal text holds no markers. -/
theorem placedMarkers_ofText_append (cs : List Char) (rest : List Token) :
    placedMarkers (ofText cs ++ rest) = placedMarkers rest := by
  cases cs <;> rfl

/-- Joining the literal lexemes keeps the markers where they are. -/
theorem placedMarkers_ofPassages_passages (lexemes : List Lexeme) :
    placedMarkers (ofPassages (passages lexemes).1 (passages lexemes).2) =
      (Lexeme.markers lexemes).map fun found => (found.1, String.ofList found.2) := by
  unfold ofPassages
  rw [placedMarkers_ofText_append]
  induction lexemes with
  | nil => rfl
  | cons lexeme rest ih =>
    cases lexeme with
    | plain c => exact ih
    | passage cs => exact ih
    | marker multiplicity name =>
      have htemplate := template_ofPassages_passages rest
      unfold ofPassages at htemplate
      simp only [passages, List.flatMap_cons, List.cons_append, placedMarkers, htemplate,
        placedMarkers_ofText_append, ih, Lexeme.markers, Lexeme.found, List.nil_append,
        List.map_cons]

/-- The markers among the tokens of a body are those that the lexer meets outside of quotes and
comments, provided that all of these are closed. The tokens together are the body, so that the text
after a marker says where it stands. -/
theorem placedMarkers_scan {body : String}
    (hclosed : (Region.normal.after body.toList).isClosed = true) :
    placedMarkers (scan body) =
      (Region.normal.markers body.toList).map fun found => (found.1, String.ofList found.2) := by
  rw [← Lexeme.markers_scan hclosed]
  exact placedMarkers_ofPassages_passages (Lexeme.scan body.toList)

/-- Quotes in comments and comments in quotes, with two markers outside of them. -/
def crowded : String :=
  "':a''-- ' /**:b '*/ :::c::d \"/*:e\"\"\" #f-- \":g"

/-- The two markers are met, and none of the others. -/
theorem placedMarkers_scan_crowded :
    (Region.normal.after crowded.toList).isClosed = true ∧
      placedMarkers (scan crowded) =
        [(⟨"c", .scalar⟩, "::d \"/*:e\"\"\" #f-- \":g"), (⟨"f", .list⟩, "-- \":g")] := by
  have hclosed : (Region.normal.after crowded.toList).isClosed = true := by decide +kernel
  have hmet : (Region.normal.markers crowded.toList).map
      (fun found => (found.1, String.ofList found.2)) =
      [(⟨"c", .scalar⟩, "::d \"/*:e\"\"\" #f-- \":g"), (⟨"f", .list⟩, "-- \":g")] := by
    decide +kernel
  exact ⟨hclosed, (placedMarkers_scan hclosed).trans hmet⟩

end Token

end AnnotatedSql
