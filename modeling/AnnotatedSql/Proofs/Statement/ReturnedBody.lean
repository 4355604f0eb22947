import AnnotatedSql.Proofs.Text.CarriageReturns
import AnnotatedSql.Statement.Token

/-!
# Bodies with carriage returns

A body with a carriage return in front of every newline has the tokens of the body without them: the
markers are the same, and the literal texts have the carriage returns. A passage that is quoted, a
cast or a block comment has them inside. A line comment ends at the newline, so that the carriage
return in front of it belongs to the comment.
-/

set_option autoImplicit false

namespace AnnotatedSql

open Text

namespace Lexeme

/-- Carriage returns are put in what is found and in what follows it. -/
def returnedSplit (found : List Char × List Char) : List Char × List Char :=
  (returned found.1, returned found.2)

/-- A character other than a line end comes first with carriage returns if it does without. -/
theorem head?_returned_eq_some_iff {d : Char} (hnewline : d ≠ '\n') (hreturn : d ≠ '\r')
    (rest : List Char) : (returned rest).head? = some d ↔ rest.head? = some d := by
  cases rest with
  | nil => rfl
  | cons c later =>
    by_cases hc : c = '\n'
    · subst hc
      simp [returned_newline, hnewline.symm, hreturn.symm]
    · rw [returned_cons hc]
      rfl

/-- What follows a first character other than a line end. -/
theorem tail_returned {d : Char} (hnewline : d ≠ '\n') {rest : List Char}
    (h : rest.head? = some d) : (returned rest).tail = returned rest.tail := by
  obtain ⟨later, rfl⟩ := List.head?_eq_some_iff.mp h
  rw [returned_cons hnewline]
  rfl

/-- Carriage returns are put in a character as well as in what follows it. -/
theorem map_returnedSplit_cons {c : Char} (h : c ≠ '\n')
    (found : Option (List Char × List Char)) :
    (found.map fun f => (c :: f.1, f.2)).map returnedSplit =
      (found.map returnedSplit).map fun f => (c :: f.1, f.2) := by
  cases found with
  | none => rfl
  | some f => simp [returnedSplit, returned_cons h]

/-- A character that is no quote is passed. -/
theorem closeQuote?_cons_of_ne {mark c : Char} (h : c ≠ mark) (rest : List Char) :
    closeQuote? mark (c :: rest) =
      (closeQuote? mark rest).map fun found => (c :: found.1, found.2) := by
  cases rest with
  | nil => simp [closeQuote?, h]
  | cons d later =>
    rw [closeQuote?, if_neg h]
    cases closeQuote? mark (d :: later) <;> rfl

/-- A quote that is not doubled closes. -/
theorem closeQuote?_of_closing {mark : Char} {rest : List Char} (h : rest.head? ≠ some mark) :
    closeQuote? mark (mark :: rest) = some ([mark], rest) := by
  cases rest with
  | nil => simp [closeQuote?]
  | cons d later =>
    have hd : d ≠ mark := by simpa using h
    rw [closeQuote?, if_pos rfl, if_neg hd]

/-- A doubled quote is passed if there is a later one that closes. -/
theorem closeQuote?_doubled (mark : Char) (rest : List Char) :
    closeQuote? mark (mark :: mark :: rest) =
      match closeQuote? mark rest with
      | some found => some (mark :: mark :: found.1, found.2)
      | none => some ([mark], mark :: rest) := by
  rw [closeQuote?, if_pos rfl, if_pos rfl]
  cases closeQuote? mark rest <;> rfl

/-- Carriage returns in a text do not change where a quote is closed. -/
theorem closeQuote?_returned {mark : Char} (hnewline : mark ≠ '\n') (hreturn : mark ≠ '\r')
    (cs : List Char) :
    closeQuote? mark (returned cs) = (closeQuote? mark cs).map returnedSplit := by
  have hother : ∀ c rest, c ≠ mark →
      closeQuote? mark (returned rest) = (closeQuote? mark rest).map returnedSplit →
      closeQuote? mark (returned (c :: rest)) =
        (closeQuote? mark (c :: rest)).map returnedSplit := by
    intro c rest hc ih
    rw [closeQuote?_cons_of_ne hc]
    by_cases hend : c = '\n'
    · subst hend
      rw [returned_newline, closeQuote?_cons_of_ne hreturn.symm, closeQuote?_cons_of_ne hc, ih]
      cases closeQuote? mark rest <;> rfl
    · rw [returned_cons hend, closeQuote?_cons_of_ne hc, ih, map_returnedSplit_cons hend]
  have hclosing : ∀ rest, rest.head? ≠ some mark →
      closeQuote? mark (returned (mark :: rest)) =
        (closeQuote? mark (mark :: rest)).map returnedSplit := by
    intro rest hnext
    have hnext' : (returned rest).head? ≠ some mark := by
      rwa [Ne, head?_returned_eq_some_iff hnewline hreturn]
    rw [returned_cons hnewline, closeQuote?_of_closing hnext, closeQuote?_of_closing hnext']
    simp [returnedSplit, returned_cons hnewline, returned_nil]
  have hdoubled : ∀ rest,
      closeQuote? mark (returned rest) = (closeQuote? mark rest).map returnedSplit →
      closeQuote? mark (returned (mark :: mark :: rest)) =
        (closeQuote? mark (mark :: mark :: rest)).map returnedSplit := by
    intro rest ih
    rw [returned_cons hnewline, returned_cons hnewline, closeQuote?_doubled, closeQuote?_doubled,
      ih]
    cases closeQuote? mark rest <;> simp [returnedSplit, returned_cons hnewline, returned_nil]
  induction cs using closeQuote?.induct mark with
  | case1 => rfl
  | case2 => exact hclosing [] (by simp)
  | case3 c hc => exact hother c [] hc rfl
  | case4 rest _ _ _ ih => exact hdoubled rest ih
  | case5 rest _ ih => exact hdoubled rest ih
  | case6 d rest hd => exact hclosing (d :: rest) (by simpa using hd)
  | case7 c d rest hc _ _ _ ih => exact hother c (d :: rest) hc ih
  | case8 c d rest hc _ ih => exact hother c (d :: rest) hc ih

/-- A character that does not start the closing sign is passed. -/
theorem closeComment?_cons {c : Char} {rest : List Char}
    (h : ¬(c = '*' ∧ rest.head? = some '/')) :
    closeComment? (c :: rest) =
      (closeComment? rest).map fun found => (c :: found.1, found.2) := by
  cases rest with
  | nil => rfl
  | cons d later =>
    have hsign : (decide (c = '*') && decide (d = '/')) = false := by simpa using h
    rw [closeComment?, hsign, if_neg Bool.false_ne_true]
    cases closeComment? (d :: later) <;> rfl

/-- Carriage returns in a text do not change where a block comment is closed. -/
theorem closeComment?_returned (cs : List Char) :
    closeComment? (returned cs) = (closeComment? cs).map returnedSplit := by
  induction cs with
  | nil => rfl
  | cons c rest ih =>
    by_cases hsign : c = '*' ∧ rest.head? = some '/'
    · obtain ⟨rfl, hnext⟩ := hsign
      obtain ⟨later, rfl⟩ := List.head?_eq_some_iff.mp hnext
      simp [returned_cons, closeComment?, returnedSplit, returned_nil]
    · rw [closeComment?_cons hsign]
      by_cases hc : c = '\n'
      · subst hc
        have hnewline : ¬('\n' = '*' ∧ (returned rest).head? = some '/') := by simp
        have hreturn : ¬('\r' = '*' ∧ ('\n' :: returned rest).head? = some '/') := by simp
        rw [returned_newline, closeComment?_cons hreturn, closeComment?_cons hnewline, ih]
        cases closeComment? rest <;> rfl
      · have hother : ¬(c = '*' ∧ (returned rest).head? = some '/') := by
          rwa [head?_returned_eq_some_iff (by decide) (by decide)]
        rw [returned_cons hc, closeComment?_cons hother, ih, map_returnedSplit_cons hc]

/-- The passage that a text starts with, by its first character and the one after it. -/
theorem passage?_cons (c : Char) (rest : List Char) :
    passage? (c :: rest) =
      if c = '\'' ∨ c = '"' then
        (closeQuote? c rest).map fun found => (c :: found.1, found.2)
      else if c = '-' ∧ rest.head? = some '-' then
        some ('-' :: '-' :: rest.tail.takeWhile (· != '\n'), rest.tail.dropWhile (· != '\n'))
      else if c = '/' ∧ rest.head? = some '*' then
        (closeComment? rest.tail).map fun found => ('/' :: '*' :: found.1, found.2)
      else if c = ':' ∧ rest.head? = some ':' then some ([':', ':'], rest.tail)
      else none := by
  unfold passage?
  split
  · next heq => cases heq; simp
  · next heq => cases heq; simp
  · next heq => cases heq; simp
  · next heq => cases heq; simp
  · next heq => cases heq; simp
  · next hsingle hdouble hcomment hblock hcast =>
    have hquote : ¬(c = '\'' ∨ c = '"') := by
      rintro (rfl | rfl)
      · exact hsingle rest rfl
      · exact hdouble rest rfl
    have hpair : ∀ {d : Char}, (∀ later, c :: rest = d :: d :: later → False) →
        ¬(c = d ∧ rest.head? = some d) := by
      rintro d h ⟨rfl, hnext⟩
      obtain ⟨later, rfl⟩ := List.head?_eq_some_iff.mp hnext
      exact h later rfl
    have hsign : ¬(c = '/' ∧ rest.head? = some '*') := by
      rintro ⟨rfl, hnext⟩
      obtain ⟨later, rfl⟩ := List.head?_eq_some_iff.mp hnext
      exact hblock later rfl
    rw [if_neg hquote, if_neg (hpair hcomment), if_neg hsign, if_neg (hpair hcast)]

/-- Carriage returns are put in a passage that is no line comment, and in what follows it. -/
theorem passage?_returned {c : Char} {rest : List Char} (hc : c ≠ '\n')
    (hcomment : ¬(c = '-' ∧ rest.head? = some '-')) :
    passage? (c :: returned rest) = (passage? (c :: rest)).map returnedSplit := by
  have hcomment' : ¬(c = '-' ∧ (returned rest).head? = some '-') := by
    rwa [head?_returned_eq_some_iff (by decide) (by decide)]
  have hstar : (returned rest).head? = some '*' ↔ rest.head? = some '*' :=
    head?_returned_eq_some_iff (by decide) (by decide) rest
  have hcolon : (returned rest).head? = some ':' ↔ rest.head? = some ':' :=
    head?_returned_eq_some_iff (by decide) (by decide) rest
  simp only [passage?_cons, hcomment, hcomment', hstar, hcolon, if_false]
  split
  · next hquote =>
    have hreturn : c ≠ '\r' := by rcases hquote with rfl | rfl <;> decide
    rw [closeQuote?_returned hc hreturn, map_returnedSplit_cons hc]
  · split
    · next hsign =>
      rw [tail_returned (by decide) hsign.2, closeComment?_returned]
      cases closeComment? rest.tail with
      | none => rfl
      | some found => simp [returnedSplit, returned_cons]
    · split
      · next hcast =>
        rw [tail_returned (by decide) hcast.2]
        rfl
      · rfl

/-- Carriage returns in a text do not change a marker, and are put in what follows it. -/
theorem marker?_returned (c : Char) (rest : List Char) :
    marker? (c :: returned rest) =
      (marker? (c :: rest)).map fun found => (found.1, returned found.2) := by
  cases rest with
  | nil => rfl
  | cons d later =>
    by_cases hd : d = '\n'
    · subst hd
      have hnewline : isNameStart '\n' = false := by decide
      have hreturn : isNameStart '\r' = false := by decide
      cases hsigil : Multiplicity.ofSigil? c <;>
        simp [returned_newline, marker?, hsigil, hnewline, hreturn]
    · rw [returned_cons hd]
      cases hsigil : Multiplicity.ofSigil? c with
      | none => simp [marker?, hsigil]
      | some m =>
        cases hstart : isNameStart d with
        | false => simp [marker?, hsigil, hstart]
        | true =>
          have hnewline : isWord '\n' = false := by decide
          have hreturn : isWord '\r' = false := by decide
          simp [marker?, hsigil, hstart, takeWhile_returned hnewline hreturn,
            dropWhile_returned hnewline hreturn]

/-- What is read as a marker is one. -/
theorem eq_marker_of_marker? {s after : List Char} {lexeme : Lexeme}
    (h : marker? s = some (lexeme, after)) :
    ∃ multiplicity name, lexeme = marker multiplicity name := by
  unfold marker? at h
  split at h
  · split at h
    · split at h
      · cases h
        exact ⟨_, _, rfl⟩
      · cases h
    · cases h
  · cases h

/-- A line end is a lexeme by itself. -/
theorem next_lineEnd {c : Char} (h : c = '\n' ∨ c = '\r') (rest : List Char) :
    next c rest = (plain c, rest) := by
  have hpassage : passage? (c :: rest) = none := by
    rcases h with rfl | rfl <;> simp [passage?_cons]
  have hmarker : marker? (c :: rest) = none := by
    rcases h with rfl | rfl <;> cases rest <;> simp [marker?, Multiplicity.ofSigil?]
  simp only [next, hpassage, hmarker]

end Lexeme

namespace Token

/-- Carriage returns are put in literal text. -/
def returned : Token → Token
  | literal text => literal (withReturns text)
  | marker m => marker m

/-- Carriage returns are put in the texts before and after markers. -/
def returnedPassages (found : List Char × List (Marker × List Char)) :
    List Char × List (Marker × List Char) :=
  (Text.returned found.1, found.2.map fun other => (other.1, Text.returned other.2))

open Lexeme

/-- A line comment is read up to the newline, which is left with what follows. -/
theorem next_lineComment (rest : List Char) :
    next '-' ('-' :: rest) =
      (.passage ('-' :: '-' :: rest.takeWhile (· != '\n')), rest.dropWhile (· != '\n')) := rfl

/-- The carriage return at the end of a line comment belongs to the comment. -/
theorem passages_scan_lineComment {rest : List Char}
    (ih : passages (Lexeme.scan (Text.returned (rest.dropWhile (· != '\n')))) =
      returnedPassages (passages (Lexeme.scan (rest.dropWhile (· != '\n'))))) :
    passages (Lexeme.scan ('-' :: '-' :: Text.returned rest)) =
      returnedPassages (passages (Lexeme.scan ('-' :: '-' :: rest))) := by
  have hplain : ∀ c ∈ rest.takeWhile (· != '\n'), (c != '\n') = true :=
    fun c hc => List.mem_takeWhile_imp (p := (· != '\n')) hc
  have hkept : Text.returned (rest.takeWhile (· != '\n')) = rest.takeWhile (· != '\n') := by
    apply returned_of_not_mem
    intro hmem
    simpa using hplain _ hmem
  have hsplit : Text.returned rest =
      rest.takeWhile (· != '\n') ++ Text.returned (rest.dropWhile (· != '\n')) := by
    conv_lhs => rw [← List.takeWhile_append_dropWhile (p := (· != '\n')) (l := rest)]
    rw [returned_append, hkept]
  rw [scan_cons, next_lineComment, scan_cons '-' ('-' :: rest), next_lineComment, hsplit,
    List.takeWhile_append_of_pos hplain, List.dropWhile_append_of_pos hplain]
  cases hlater : rest.dropWhile (· != '\n') with
  | nil =>
    simp [passages, Lexeme.scan, returnedPassages, returned_nil, returned_cons, hkept]
  | cons c later =>
    have hc := List.head?_dropWhile_not (· != '\n') rest
    obtain rfl : c = '\n' := by simpa [hlater] using hc
    rw [hlater, returned_newline, scan_cons, next_lineEnd (Or.inr rfl)] at ih
    simp only [passages, returnedPassages, Prod.mk.injEq] at ih
    rw [returned_newline, List.takeWhile_cons_of_pos (by decide),
      List.takeWhile_cons_of_neg (by decide), List.dropWhile_cons_of_pos (by decide),
      List.dropWhile_cons_of_neg (by decide)]
    simp only [passages, returnedPassages, Prod.mk.injEq]
    refine ⟨?_, ih.2⟩
    rw [returned_append, ← ih.1, returned_cons (by decide), returned_cons (by decide), hkept]
    simp

/-- The passages of a text with carriage returns. -/
theorem passages_scan_returned (cs : List Char) :
    passages (Lexeme.scan (Text.returned cs)) = returnedPassages (passages (Lexeme.scan cs)) := by
  induction cs using Lexeme.scan.induct with
  | case1 => simp [Lexeme.scan, passages, returnedPassages, returned_nil]
  | case2 c rest ih =>
    by_cases hc : c = '\n'
    · subst hc
      rw [next_lineEnd (Or.inl rfl)] at ih
      rw [returned_newline, scan_cons, next_lineEnd (Or.inr rfl), scan_cons,
        next_lineEnd (Or.inl rfl), scan_cons '\n' rest, next_lineEnd (Or.inl rfl)]
      simp only [passages, ih, returnedPassages, returned_newline]
    · by_cases hcomment : c = '-' ∧ rest.head? = some '-'
      · obtain ⟨rfl, hnext⟩ := hcomment
        obtain ⟨later, rfl⟩ := List.head?_eq_some_iff.mp hnext
        rw [next_lineComment] at ih
        rw [returned_cons hc, returned_cons hc]
        exact passages_scan_lineComment ih
      · rw [returned_cons hc, scan_cons, scan_cons c rest]
        unfold next at ih ⊢
        rw [passage?_returned hc hcomment, marker?_returned]
        cases hpassage : passage? (c :: rest) with
        | some found =>
          simp only [hpassage] at ih
          simp only [Option.map_some, returnedSplit, passages, ih, returnedPassages,
            returned_append]
        | none =>
          simp only [hpassage] at ih
          cases hmarker : Lexeme.marker? (c :: rest) with
          | some found =>
            obtain ⟨lexeme, after⟩ := found
            obtain ⟨multiplicity, name, rfl⟩ := eq_marker_of_marker? hmarker
            simp only [hmarker] at ih
            simp only [Option.map_none, Option.map_some, passages, ih, returnedPassages,
              returned_nil, List.map_cons]
          | none =>
            simp only [hmarker] at ih
            simp only [Option.map_none, passages, ih, returnedPassages, returned_cons hc]

/-- The token of a literal text has the carriage returns. -/
theorem ofText_returned (cs : List Char) :
    ofText (Text.returned cs) = (ofText cs).map returned := by
  cases cs with
  | nil => rfl
  | cons c rest =>
    have hwhole : withReturns (String.ofList (c :: rest)) =
        String.ofList (Text.returned (c :: rest)) := by
      rw [withReturns, String.toList_ofList]
    cases hkept : Text.returned (c :: rest) with
    | nil => cases returned_eq_nil_iff.mp hkept
    | cons d later => simp only [ofText, List.map_cons, List.map_nil, returned, hwhole, hkept]

/-- The tokens of a body with carriage returns are those of the body without them, with the carriage
returns in their literal texts. -/
theorem scan_withReturns (body : String) :
    scan (withReturns body) = (scan body).map returned := by
  unfold scan
  rw [toList_withReturns, passages_scan_returned]
  simp only [returnedPassages, ofPassages, ofText_returned, List.map_append, List.map_flatMap,
    List.flatMap_map, List.map_cons, returned]

/-- Carriage returns change no markers. -/
theorem markers_map_returned (tokens : List Token) :
    markers (tokens.map returned) = markers tokens := by
  unfold markers
  rw [List.filterMap_map]
  congr 1
  funext token
  cases token <;> rfl

end Token

end AnnotatedSql
