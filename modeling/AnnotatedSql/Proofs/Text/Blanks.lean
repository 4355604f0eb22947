import AnnotatedSql.Text.Blank
import AnnotatedSql.Text.Word
import Mathlib.Data.List.DropRight
import Mathlib.Data.Nat.Notation

/-!
# Blanks

Trimming a text takes away the blanks at its ends. What is left starts and ends with characters that
are no blanks, so that trimming again changes nothing.
-/

set_option autoImplicit false

namespace AnnotatedSql.Text

/-- The characters from the capital A to the small z are not blank. -/
theorem isBlank_of_visible {c : Char} (hlow : 65 ≤ c.toNat) (hhigh : c.toNat ≤ 122) :
    isBlank c = false := by
  simp only [isBlank, Bool.or_eq_false_iff, Bool.and_eq_false_iff, decide_eq_false_iff_not,
    beq_eq_false_iff_ne]
  omega

/-- A character whose lower case is no blank is none itself. -/
theorem isBlank_of_asciiLower {c : Char} (h : isBlank (asciiLower c) = false) :
    isBlank c = false := by
  unfold asciiLower at h
  split at h
  · next hupper =>
    simp only [Bool.and_eq_true, decide_eq_true_eq] at hupper
    have hlow : 65 ≤ c.toNat := hupper.1
    have hhigh : c.toNat ≤ 90 := hupper.2
    exact isBlank_of_visible hlow (by omega)
  · exact h

/-- The code points of the blanks. -/
def blankCodes : List ℕ :=
  List.range' 9 5 ++ List.range' 28 5 ++ [0x85, 0xA0, 0x1680] ++ List.range' 0x2000 11 ++
    [0x2028, 0x2029, 0x202F, 0x205F, 0x3000]

/-- A blank has one of these code points. -/
theorem toNat_mem_blankCodes {c : Char} (h : isBlank c = true) : c.toNat ∈ blankCodes := by
  simp only [isBlank, Bool.or_eq_true, Bool.and_eq_true, decide_eq_true_eq, beq_iff_eq] at h
  simp only [blankCodes, List.mem_append, List.mem_range'_1, List.mem_cons, List.not_mem_nil,
    or_false]
  omega

/-- No blank is a word character. -/
theorem isWord_of_isBlank {c : Char} (h : isBlank c = true) : isWord c = false := by
  have hcodes : ∀ n ∈ blankCodes, isWord (Char.ofNat n) = false := by decide +kernel
  have hc := hcodes _ (toNat_mem_blankCodes h)
  rwa [Char.ofNat_toNat] at hc

/-- Nothing but blanks. -/
def Blanks (cs : List Char) : Prop :=
  ∀ c ∈ cs, isBlank c = true

/-- There is no blank in front. -/
def StartsVisible (cs : List Char) : Prop :=
  ∀ c ∈ cs.head?, isBlank c = false

/-- There is no blank at the end. -/
def EndsVisible (cs : List Char) : Prop :=
  ∀ c ∈ cs.getLast?, isBlank c = false

section Trimming

variable {cs lead trail : List Char}

/-- The empty text holds nothing but blanks. -/
theorem blanks_nil : Blanks [] := List.forall_mem_nil _

/-- There is no blank in front of the empty text. -/
theorem startsVisible_nil : StartsVisible [] := fun _ hc => nomatch hc

/-- There is no blank at the end of the empty text. -/
theorem endsVisible_nil : EndsVisible [] := fun _ hc => nomatch hc

/-- A text is blank when it holds nothing but blanks. -/
theorem isBlankText_iff : isBlankText cs = true ↔ Blanks cs :=
  List.all_eq_true

/-- Blanks in front are trimmed. -/
theorem trimLeft_append (h : Blanks lead) (cs : List Char) : trimLeft (lead ++ cs) = trimLeft cs :=
  List.dropWhile_append_of_pos h

/-- Where there is no blank in front nothing is trimmed there. -/
theorem trimLeft_eq_self (h : StartsVisible cs) : trimLeft cs = cs := by
  cases cs with
  | nil => rfl
  | cons c rest => exact List.dropWhile_cons_of_neg (by simp [h c rfl])

/-- What is trimmed in front are blanks. -/
theorem exists_trimLeft (cs : List Char) :
    ∃ lead, Blanks lead ∧ cs = lead ++ trimLeft cs ∧ StartsVisible (trimLeft cs) := by
  refine ⟨cs.takeWhile isBlank, List.all_eq_true.mp List.all_takeWhile,
    List.takeWhile_append_dropWhile.symm, ?_⟩
  intro c hc
  have hhead := List.head?_dropWhile_not isBlank cs
  rw [show (cs.dropWhile isBlank).head? = some c from hc] at hhead
  exact hhead

/-- Blanks at the end are dropped from the right. -/
theorem trimRight_eq_rdropWhile (cs : List Char) : trimRight cs = cs.rdropWhile isBlank := by
  induction cs with
  | nil => rfl
  | cons c rest ih =>
    unfold List.rdropWhile at ih ⊢
    rw [trimRight, ih, List.reverse_cons, List.dropWhile_append]
    cases hrest : rest.reverse.dropWhile isBlank with
    | nil =>
      by_cases hc : isBlank c = true
      · simp [hc]
      · simp [hc]
    | cons d kept =>
      have hne : (d :: kept).reverse ≠ [] := by simp
      cases hreverse : (d :: kept).reverse with
      | nil => exact absurd hreverse hne
      | cons e others =>
        simp only [List.isEmpty_cons, Bool.false_eq_true, if_false, List.reverse_append,
          List.reverse_cons, List.reverse_nil, List.nil_append, List.singleton_append] at hreverse ⊢
        rw [hreverse]

/-- A character that is no blank ends the text that is trimmed at its end. -/
theorem trimRight_concat {c : Char} (cs : List Char) (hc : isBlank c = false) :
    trimRight (cs ++ [c]) = cs ++ [c] := by
  rw [trimRight_eq_rdropWhile, List.rdropWhile_concat_neg]
  simp [hc]

/-- Blanks at the end are trimmed. -/
theorem trimRight_append (h : Blanks trail) (cs : List Char) :
    trimRight (cs ++ trail) = trimRight cs := by
  rw [trimRight_eq_rdropWhile, trimRight_eq_rdropWhile, List.rdropWhile, List.reverse_append,
    List.dropWhile_append_of_pos fun c hc => h c (List.mem_reverse.mp hc)]
  rfl

/-- Nothing is left of blanks. -/
theorem trimRight_of_blanks (h : Blanks cs) : trimRight cs = [] :=
  trimRight_append h []

/-- Where there is no blank at the end nothing is trimmed there. -/
theorem trimRight_eq_self (h : EndsVisible cs) : trimRight cs = cs := by
  rw [trimRight_eq_rdropWhile, List.rdropWhile_eq_self_iff]
  intro hne
  simp [h _ (List.getLast?_eq_some_getLast hne)]

/-- What is trimmed at the end are blanks. -/
theorem exists_trimRight (cs : List Char) :
    ∃ trail, Blanks trail ∧ cs = trimRight cs ++ trail ∧ EndsVisible (trimRight cs) := by
  induction cs using List.reverseRecOn with
  | nil => exact ⟨[], blanks_nil, rfl, endsVisible_nil⟩
  | append_singleton cs c ih =>
    cases hc : isBlank c with
    | true =>
      obtain ⟨trail, htrail, hcs, hends⟩ := ih
      have hlast : Blanks [c] := List.forall_mem_singleton.mpr hc
      rw [trimRight_append hlast]
      refine ⟨trail ++ [c], List.forall_mem_append.mpr ⟨htrail, hlast⟩, ?_, hends⟩
      rw [← List.append_assoc, ← hcs]
    | false =>
      rw [trimRight_concat cs hc]
      refine ⟨[], blanks_nil, (List.append_nil _).symm, ?_⟩
      intro d hd
      rw [List.getLast?_concat, Option.mem_some_iff] at hd
      exact hd ▸ hc

/-- A text starts with no blank when one that goes on with it does not. -/
theorem StartsVisible.of_append (h : StartsVisible (cs ++ trail)) : StartsVisible cs := by
  cases cs with
  | nil => exact startsVisible_nil
  | cons d rest => exact fun c hc => h c hc

/-- What is left of a text when it is trimmed stands between blanks. -/
theorem trim_eq_iff {kept : List Char} : trim cs = kept ↔ StartsVisible kept ∧ EndsVisible kept ∧
    ∃ lead trail, Blanks lead ∧ Blanks trail ∧ cs = lead ++ kept ++ trail := by
  constructor
  · rintro rfl
    obtain ⟨lead, hlead, hcs, hstarts⟩ := exists_trimLeft cs
    obtain ⟨trail, htrail, hkept, hends⟩ := exists_trimRight (trimLeft cs)
    refine ⟨?_, hends, lead, trail, hlead, htrail, ?_⟩
    · rw [hkept] at hstarts
      exact hstarts.of_append
    · rw [trim, List.append_assoc, ← hkept]
      exact hcs
  · rintro ⟨hstarts, hends, lead, trail, hlead, htrail, rfl⟩
    rw [trim, List.append_assoc, trimLeft_append hlead]
    cases kept with
    | nil =>
      have hnone := trimLeft_append htrail []
      rw [List.append_nil] at hnone
      rw [List.nil_append, hnone]
      rfl
    | cons c rest =>
      have hvisible : StartsVisible (c :: rest ++ trail) := fun d hd => hstarts d hd
      rw [trimLeft_eq_self hvisible, trimRight_append htrail, trimRight_eq_self hends]

/-- Trimming again changes nothing. -/
theorem trim_trim (cs : List Char) : trim (trim cs) = trim cs := by
  obtain ⟨hstarts, hends, _⟩ := trim_eq_iff.mp (rfl : trim cs = trim cs)
  exact trim_eq_iff.mpr ⟨hstarts, hends, [], [], blanks_nil, blanks_nil, (List.append_nil _).symm⟩

/-- Stripping again changes nothing. -/
theorem strip_strip (s : String) : strip (strip s) = strip s := by
  unfold strip
  rw [String.toList_ofList, trim_trim]

/-- Trimming adds nothing. -/
theorem mem_of_mem_trim {c : Char} (h : c ∈ trim cs) : c ∈ cs := by
  obtain ⟨-, -, lead, trail, -, -, hcs⟩ := trim_eq_iff.mp (rfl : trim cs = trim cs)
  rw [hcs]
  exact List.mem_append_left trail (List.mem_append_right lead h)

end Trimming

/-- Stripping bytes again changes nothing. -/
theorem stripBytes_stripBytes (bs : List UInt8) : stripBytes (stripBytes bs) = stripBytes bs := by
  have hstrip (bs : List UInt8) :
      stripBytes bs = (bs.dropWhile isBlankByte).rdropWhile isBlankByte := rfl
  have hstarts : (stripBytes bs).dropWhile isBlankByte = stripBytes bs := by
    cases hkept : stripBytes bs with
    | nil => rfl
    | cons b rest =>
      -- What is left starts as the bytes do without the blanks in front.
      obtain ⟨trail, htrail⟩ := List.rdropWhile_prefix isBlankByte (bs.dropWhile isBlankByte)
      have hhead := List.head?_dropWhile_not isBlankByte bs
      rw [← htrail, ← hstrip, hkept, List.cons_append, List.head?_cons] at hhead
      exact List.dropWhile_cons_of_neg (by simpa using hhead)
  rw [hstrip (stripBytes bs), hstarts, hstrip bs]
  exact List.rdropWhile_idempotent isBlankByte _

end AnnotatedSql.Text
