import AnnotatedSql.Statement.Token
import Mathlib.Data.Nat.Notation

/-!
# Tokens of a body

The tokens of a body are its lexemes with the literal ones joined. So they have, together, the same
text.
-/

set_option autoImplicit false

namespace AnnotatedSql

/-- A word character is none of the signs that start something in a body. -/
theorem Text.ne_of_isWord {c : Char} (h : isWord c = true) :
    c ≠ '\'' ∧ c ≠ '"' ∧ c ≠ '-' ∧ c ≠ '/' ∧ c ≠ ':' ∧ c ≠ '#' := by
  have hne {d : Char} (hd : isWord d = false) : c ≠ d := by
    rintro rfl
    rw [h] at hd
    cases hd
  refine ⟨hne ?_, hne ?_, hne ?_, hne ?_, hne ?_, hne ?_⟩
  all_goals decide

/-- The characters of a marker. -/
theorem Marker.toList_text (m : Marker) :
    m.text.toList = m.multiplicity.sigil :: m.name.toList := by
  rw [Marker.text, Char.toString_eq_singleton, String.toList_append, String.toList_singleton,
    List.singleton_append]

namespace Token

/-- The text of a literal token is the text it was made of. -/
theorem template_ofText (cs : List Char) : template (ofText cs) = String.ofList cs := by
  cases cs with
  | nil => rfl
  | cons c rest => simp [ofText, template, text]

/-- The text of tokens with others after them. -/
theorem template_append (first last : List Token) :
    template (first ++ last) = template first ++ template last := by
  simp [template]

/-- The text of a marker with some characters after it. -/
theorem template_marker (m : Marker) (cs : List Char) (rest : List Token) :
    template (marker m :: (ofText cs ++ rest)) = m.text ++ (String.ofList cs ++ template rest) := by
  have hrest := template_append (ofText cs) rest
  rw [template_ofText] at hrest
  rw [← hrest]
  simp [template, text]

/-- Joining the literal lexemes keeps the text. -/
theorem template_ofPassages_passages (lexemes : List Lexeme) :
    template (ofPassages (passages lexemes).1 (passages lexemes).2) =
      String.ofList (lexemes.flatMap Lexeme.text) := by
  induction lexemes with
  | nil => rfl
  | cons lexeme rest ih =>
    unfold ofPassages at ih ⊢
    rw [template_append, template_ofText] at ih ⊢
    cases lexeme with
    | plain c =>
      simp only [passages, List.flatMap_cons, Lexeme.text, String.ofList_append] at ih ⊢
      rw [← ih, ← String.append_assoc, ← String.ofList_append]
      rfl
    | passage cs =>
      simp only [passages, List.flatMap_cons, Lexeme.text, String.ofList_append] at ih ⊢
      rw [← ih, ← String.append_assoc]
    | marker multiplicity name =>
      simp only [passages, List.flatMap_cons, Lexeme.text, String.ofList_append] at ih ⊢
      have htext : Marker.text ⟨String.ofList name, multiplicity⟩ =
          String.ofList (multiplicity.sigil :: name) := by
        apply String.toList_inj.mp
        rw [Marker.toList_text, String.toList_ofList, String.toList_ofList]
      rw [List.cons_append, template_marker, htext, ← ih, String.ofList_nil, String.empty_append]

/-- The tokens of a body together are the body. -/
theorem template_scan (body : String) : template (scan body) = body := by
  have h := template_ofPassages_passages (Lexeme.scan body.toList)
  rw [Lexeme.flatMap_text_scan, String.ofList_toList] at h
  exact h

end Token

end AnnotatedSql
