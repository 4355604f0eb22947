import AnnotatedSql.Statement.Multiplicity
import AnnotatedSql.Text.Word

/-!
# Lexemes of SQL text

SQL text falls apart into characters that mean nothing here, passages in which no marker
counts, and the markers of parameters. The passages are quoted text, comments and the two
colons of a cast. A quote or comment that is never closed is no passage.
-/

namespace AnnotatedSql

open Text

/-- The marker of a parameter: a sigil and a name. -/
structure Marker where
  /-- What the parameter is called. -/
  name : String
  /-- Whether it stands for one value or a list. -/
  multiplicity : Multiplicity
  deriving DecidableEq, Repr

/-- The marker as it is written. -/
def Marker.text (marker : Marker) : String :=
  marker.multiplicity.sigil.toString ++ marker.name

/-- A smallest piece of SQL text. -/
inductive Lexeme where
  /-- A character by itself. -/
  | plain (c : Char)
  /-- A passage in which no marker counts. -/
  | passage (text : List Char)
  /-- A marker. -/
  | marker (multiplicity : Multiplicity) (name : List Char)
  deriving DecidableEq, Repr

namespace Lexeme

/-- The text of a lexeme. -/
def text : Lexeme → List Char
  | plain c => [c]
  | passage cs => cs
  | marker m name => m.sigil :: name

/-- The text up to and with the quote that closes it, and what follows. That is the first quote
that is not doubled or, where there is none, the first of the last doubled pair. -/
def closeQuote? (mark : Char) : List Char → Option (List Char × List Char)
  | [] => none
  | [c] => if c = mark then some ([c], []) else none
  | c :: d :: rest =>
    if c = mark then
      if d = mark then
        match closeQuote? mark rest with
        | some (inside, after) => some (c :: d :: inside, after)
        | none => some ([c], d :: rest)
      else some ([c], d :: rest)
    else
      match closeQuote? mark (d :: rest) with
      | some (inside, after) => some (c :: inside, after)
      | none => none

/-- The text up to and with the sign that closes a block comment, and what follows. -/
def closeComment? : List Char → Option (List Char × List Char)
  | [] => none
  | [_] => none
  | c :: d :: rest =>
    if c = '*' && d = '/' then some (['*', '/'], rest)
    else
      match closeComment? (d :: rest) with
      | some (inside, after) => some (c :: inside, after)
      | none => none

/-- May start the name of a marker. -/
def isNameStart (c : Char) : Bool :=
  isAsciiLetter c || c == '_'

/-- The passage that a text starts with, and what follows it. -/
def passage? : List Char → Option (List Char × List Char)
  | '\'' :: rest => (closeQuote? '\'' rest).map fun (inside, after) => ('\'' :: inside, after)
  | '"' :: rest => (closeQuote? '"' rest).map fun (inside, after) => ('"' :: inside, after)
  | '-' :: '-' :: rest =>
    some ('-' :: '-' :: rest.takeWhile (· != '\n'), rest.dropWhile (· != '\n'))
  | '/' :: '*' :: rest =>
    (closeComment? rest).map fun (inside, after) => ('/' :: '*' :: inside, after)
  | ':' :: ':' :: rest => some ([':', ':'], rest)
  | _ => none

/-- The marker that a text starts with, and what follows it. -/
def marker? : List Char → Option (Lexeme × List Char)
  | c :: d :: rest =>
    match Multiplicity.ofSigil? c with
    | some m =>
      if isNameStart d then some (marker m (d :: rest.takeWhile isWord), rest.dropWhile isWord)
      else none
    | none => none
  | _ => none

/-- The first lexeme of a text that is not empty, and what follows it. -/
def next (c : Char) (rest : List Char) : Lexeme × List Char :=
  match passage? (c :: rest) with
  | some (text, after) => (passage text, after)
  | none =>
    match marker? (c :: rest) with
    | some found => found
    | none => (plain c, rest)

/-- Closing a quote splits the text. -/
theorem closeQuote?_append {mark : Char} {s inside after : List Char}
    (h : closeQuote? mark s = some (inside, after)) : inside ++ after = s := by
  fun_induction closeQuote? mark s generalizing inside after with grind

/-- Closing a block comment splits the text. -/
theorem closeComment?_append {s inside after : List Char}
    (h : closeComment? s = some (inside, after)) : inside ++ after = s := by
  fun_induction closeComment? s generalizing inside after with grind

/-- Reading a passage splits the text. -/
theorem passage?_append {s text after : List Char} (h : passage? s = some (text, after)) :
    text ++ after = s := by
  unfold passage? at h
  split at h
  · obtain ⟨⟨inside, rest⟩, hclose, heq⟩ := Option.map_eq_some_iff.1 h
    cases heq
    simp [closeQuote?_append hclose]
  · obtain ⟨⟨inside, rest⟩, hclose, heq⟩ := Option.map_eq_some_iff.1 h
    cases heq
    simp [closeQuote?_append hclose]
  · cases h
    simp
  · obtain ⟨⟨inside, rest⟩, hclose, heq⟩ := Option.map_eq_some_iff.1 h
    cases heq
    simp [closeComment?_append hclose]
  · cases h
    simp
  · simp at h

/-- A passage is not empty. -/
theorem passage?_ne_nil {s text after : List Char} (h : passage? s = some (text, after)) :
    text ≠ [] := by
  unfold passage? at h
  split at h
  all_goals
    simp at h
    try grind

/-- Reading a marker splits the text. -/
theorem marker?_append {s after : List Char} {found : Lexeme}
    (h : marker? s = some (found, after)) : found.text ++ after = s := by
  unfold marker? at h
  split at h
  · split at h
    · next hsigil =>
      split at h
      · cases h
        simp [text, Multiplicity.sigil_of_ofSigil? hsigil]
      · simp at h
    · simp at h
  · simp at h

/-- A marker is not empty. -/
theorem marker?_text_ne_nil {s after : List Char} {found : Lexeme}
    (h : marker? s = some (found, after)) : found.text ≠ [] := by
  unfold marker? at h
  grind [text]

/-- The text of a lexeme and what follows it are the text it was read from. -/
theorem next_append (c : Char) (rest : List Char) :
    (next c rest).1.text ++ (next c rest).2 = c :: rest := by
  unfold next
  split
  · next h => exact passage?_append h
  · split
    · next h => exact marker?_append h
    · rfl

/-- The first lexeme is not empty. -/
theorem text_next_ne_nil (c : Char) (rest : List Char) : (next c rest).1.text ≠ [] := by
  unfold next
  split
  · next h => exact passage?_ne_nil h
  · split
    · next h => exact marker?_text_ne_nil h
    · simp [text]

/-- Every lexeme takes at least one character. -/
theorem length_next (c : Char) (rest : List Char) :
    (next c rest).2.length < (c :: rest).length := by
  have happend := congrArg List.length (next_append c rest)
  have hpos := List.length_pos_iff.2 (text_next_ne_nil c rest)
  rw [List.length_append] at happend
  omega

/-- The lexemes of a text. -/
def scan : List Char → List Lexeme
  | [] => []
  | c :: rest => (next c rest).1 :: scan (next c rest).2
termination_by cs => cs.length
decreasing_by exact length_next c rest

/-- The lexemes of a text that is not empty, one lexeme at a time. -/
theorem scan_cons (c : Char) (rest : List Char) :
    scan (c :: rest) = (next c rest).1 :: scan (next c rest).2 := by
  rw [scan]

/-- The lexemes together are the text. -/
theorem flatMap_text_scan (cs : List Char) : (scan cs).flatMap text = cs := by
  fun_induction scan cs with
  | case1 => rfl
  | case2 c rest ih => rw [List.flatMap_cons, ih, next_append]

end Lexeme

end AnnotatedSql
