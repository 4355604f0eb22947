import AnnotatedSql.Json.Reader
import AnnotatedSql.Json.Writer
import Mathlib.Data.List.Basic
import Mathlib.Tactic.Basic

/-!
# Texts read back

Each character of a written text is itself or an escape, and the reader turns the escape into the
character again.
-/

set_option autoImplicit false

namespace AnnotatedSql.Json

open Text

/-- No character is a control character. -/
def Plain (cs : List Char) : Prop :=
  ∀ c ∈ cs, 32 ≤ c.toNat

namespace Plain

instance (cs : List Char) : Decidable (Plain cs) :=
  show Decidable (∀ c ∈ cs, 32 ≤ c.toNat) from List.decidableBAll (fun c : Char => 32 ≤ c.toNat) cs

/-- Nothing has no control character. -/
theorem nil : Plain [] :=
  List.forall_mem_nil _

/-- A character in front of others. -/
theorem cons {c : Char} {cs : List Char} (hc : 32 ≤ c.toNat) (h : Plain cs) : Plain (c :: cs) :=
  List.forall_mem_cons.mpr ⟨hc, h⟩

/-- Two texts one after the other. -/
theorem append {first second : List Char} (hfirst : Plain first) (hsecond : Plain second) :
    Plain (first ++ second) :=
  List.forall_mem_append.mpr ⟨hfirst, hsecond⟩

end Plain

/-- A number below thirty-two is read back from its four hexadecimal digits. -/
theorem readUnicode_hex {n : ℕ} (hn : n < 32) (rest : List Char) :
    readUnicode (hex 4 n ++ rest) = some (Char.ofNat n, rest) := by
  have hvalue : ∀ m < 32, ofHex? (hex 4 m) = some m := by decide
  have hunit : readUnit (hex 4 n ++ rest) = some (n, rest) := by
    show (ofHex? (hex 4 n)).map (fun m => (m, rest)) = _
    rw [hvalue n hn]
    rfl
  rw [readUnicode, hunit]
  have hhigh : (decide (0xD800 ≤ n) && decide (n < 0xDC00)) = false := by
    rw [decide_eq_false (by omega), Bool.false_and]
  have hlow : (decide (0xDC00 ≤ n) && decide (n < 0xE000)) = false := by
    rw [decide_eq_false (by omega), Bool.false_and]
  simp only [hhigh, hlow, Bool.false_eq_true, if_false]

/-- A character is written as an escape that is read as the character, or as itself if it has no
meaning in a text. -/
theorem escape_cases (c : Char) :
    (∃ tail, escape c = '\\' :: tail ∧ Plain tail ∧
        ∀ rest, readEscape (tail ++ rest) = some (c, rest)) ∨
      (escape c = [c] ∧ c ≠ '"' ∧ c ≠ '\\' ∧ 32 ≤ c.toNat) := by
  by_cases hquote : c = '"'
  · exact Or.inl ⟨['"'], by rw [hquote]; rfl, by decide, fun _ => by rw [hquote]; rfl⟩
  by_cases hbackslash : c = '\\'
  · exact Or.inl ⟨['\\'], by rw [hbackslash]; rfl, by decide, fun _ => by rw [hbackslash]; rfl⟩
  by_cases hnewline : c = '\n'
  · exact Or.inl ⟨['n'], by rw [hnewline]; rfl, by decide, fun _ => by rw [hnewline]; rfl⟩
  by_cases hreturn : c = '\r'
  · exact Or.inl ⟨['r'], by rw [hreturn]; rfl, by decide, fun _ => by rw [hreturn]; rfl⟩
  by_cases htab : c = '\t'
  · exact Or.inl ⟨['t'], by rw [htab]; rfl, by decide, fun _ => by rw [htab]; rfl⟩
  by_cases hbackspace : c = '\x08'
  · exact Or.inl ⟨['b'], by rw [hbackspace]; rfl, by decide, fun _ => by rw [hbackspace]; rfl⟩
  by_cases hfeed : c = '\x0c'
  · exact Or.inl ⟨['f'], by rw [hfeed]; rfl, by decide, fun _ => by rw [hfeed]; rfl⟩
  rw [escape, if_neg hquote, if_neg hbackslash, if_neg hnewline, if_neg hreturn, if_neg htab,
    if_neg hbackspace, if_neg hfeed]
  by_cases hlt : c.toNat < 32
  · rw [if_pos hlt]
    refine Or.inl ⟨'u' :: hex 4 c.toNat, rfl, ?_, fun rest => ?_⟩
    · have hhex : ∀ n < 32, Plain ('u' :: hex 4 n) := by decide
      exact hhex c.toNat hlt
    · rw [List.cons_append, readEscape, readUnicode_hex hlt, Char.ofNat_toNat]
  · rw [if_neg hlt]
    exact Or.inr ⟨rfl, hquote, hbackslash, Nat.not_lt.mp hlt⟩

end AnnotatedSql.Json
