import AnnotatedSql.Proofs.Json.Number
import AnnotatedSql.Proofs.Json.Text

/-!
# Values on one line

Compact JSON text has no white space, and no control character in its strings. So it stands on one
line. A written value is compact, whatever the value is.
-/

set_option autoImplicit false

namespace AnnotatedSql.Json

open Text Decimal

/-- The characters that numbers are written with. -/
def isNumeric (c : Char) : Bool :=
  isAsciiDigit c || ['-', '+', '.', 'e', 'E'].contains c

/-- A text has only characters of numbers. -/
def Numeric (cs : List Char) : Prop :=
  ∀ c ∈ cs, isNumeric c = true

namespace Numeric

instance (cs : List Char) : Decidable (Numeric cs) :=
  show Decidable (∀ c ∈ cs, isNumeric c = true) from
    List.decidableBAll (fun c : Char => isNumeric c = true) cs

/-- A character in front of others. -/
theorem cons {c : Char} {cs : List Char} (hc : isNumeric c = true) (h : Numeric cs) :
    Numeric (c :: cs) :=
  List.forall_mem_cons.mpr ⟨hc, h⟩

/-- Two texts one after the other. -/
theorem append {first second : List Char} (hfirst : Numeric first) (hsecond : Numeric second) :
    Numeric (first ++ second) :=
  List.forall_mem_append.mpr ⟨hfirst, hsecond⟩

/-- Digits are characters of numbers. -/
theorem of_digits {cs : List Char} (h : ∀ c ∈ cs, isAsciiDigit c = true) : Numeric cs := by
  intro c hc
  rw [isNumeric, h c hc, Bool.true_or]

/-- The characters of numbers are no control characters. -/
theorem plain {cs : List Char} (h : Numeric cs) : Plain cs := by
  intro c hc
  have hnumeric := h c hc
  simp only [isNumeric, isAsciiDigit, Bool.or_eq_true, Bool.and_eq_true, decide_eq_true_eq,
    List.contains_eq_mem, List.mem_cons, List.not_mem_nil, or_false] at hnumeric
  rcases hnumeric with hdigit | rfl | rfl | rfl | rfl | rfl
  · have hle : '0'.toNat ≤ c.toNat := hdigit.1
    exact Nat.le_trans (by decide) hle
  all_goals decide

end Numeric

/-- Compact JSON text: a word, a number, a string, or values between brackets with nothing but
commas and colons between them. No more is said of a number than which characters it may have. -/
inductive Compact : List Char → Prop where
  | word {cs : List Char}
    (h : cs ∈ [['n', 'u', 'l', 'l'], ['t', 'r', 'u', 'e'], ['f', 'a', 'l', 's', 'e']]) : Compact cs
  | number {cs : List Char} (h : Numeric cs) : Compact cs
  | string {cs : List Char} (h : Plain cs) : Compact ('"' :: cs ++ ['"'])
  | array {items : List (List Char)} (h : ∀ cs ∈ items, Compact cs) :
    Compact ('[' :: List.intercalate [','] items ++ [']'])
  | object {entries : List (List Char × List Char)} (hkeys : ∀ e ∈ entries, Plain e.1)
    (h : ∀ e ∈ entries, Compact e.2) :
    Compact ('\x7b' ::
      List.intercalate [','] (entries.map fun e => '"' :: e.1 ++ ['"'] ++ ':' :: e.2) ++ ['\x7d'])

/-- Texts with commas between them. -/
theorem Plain.intercalate {items : List (List Char)} (h : ∀ cs ∈ items, Plain cs) :
    Plain (List.intercalate [','] items) := by
  induction items with
  | nil => exact .nil
  | cons first rest ih =>
    obtain ⟨hfirst, hrest⟩ := List.forall_mem_cons.mp h
    cases rest with
    | nil => rwa [List.intercalate_singleton]
    | cons second others =>
      rw [List.intercalate_cons_cons]
      exact (hfirst.append (by decide)).append (ih hrest)

/-- There is no control character in compact text. -/
theorem Compact.plain {cs : List Char} (h : Compact cs) : Plain cs := by
  induction h with
  | word h =>
    simp only [List.mem_cons, List.not_mem_nil, or_false] at h
    rcases h with rfl | rfl | rfl <;> decide
  | number h => exact h.plain
  | string h => exact (h.cons (by decide)).append (by decide)
  | array _ ih => exact ((Plain.intercalate ih).cons (by decide)).append (by decide)
  | object hkeys _ ih =>
    have hquote : Plain ['"'] := by decide
    have hentries := fun e he =>
      (((hkeys e he).cons (c := '"') (by decide)).append hquote).append
        ((ih e he).cons (c := ':') (by decide))
    exact ((Plain.intercalate (List.forall_mem_map.mpr hentries)).cons (by decide)).append
      (by decide)

/-- The characters of a text, since control characters are escaped. -/
theorem plain_flatMap_escape (cs : List Char) : Plain (cs.flatMap escape) := by
  have hescape : ∀ c, Plain (escape c) := by
    intro c
    rcases escape_cases c with ⟨tail, htail, hge, -⟩ | ⟨hself, -, -, hge⟩
    · rw [htail]
      exact .cons (by decide) hge
    · rw [hself]
      exact .cons hge .nil
  intro d hd
  obtain ⟨c, -, hc⟩ := List.mem_flatMap.mp hd
  exact hescape c d hc

/-- A written text. -/
theorem compact_writeText (s : String) : Compact (writeText s) :=
  .string (plain_flatMap_escape s.toList)

/-- The exponent of a number. -/
theorem numeric_exponentText (layout : Layout) (e : ℤ) : Numeric (layout.exponentText e) := by
  have hsign : Numeric (if e < 0 then ['-'] else if layout.plus then ['+'] else []) := by
    split
    · decide
    · split <;> decide
  exact (hsign.append (.of_digits isAsciiDigit_of_mem_zeros)).append
    (.of_digits isAsciiDigit_of_mem_toDigits)

/-- A decimal in any layout. -/
theorem numeric_text (layout : Layout) (d : Digits) : Numeric (layout.text d) := by
  have hdigits : Numeric d.characters := .of_digits isAsciiDigit_of_mem_toDigits
  have hzeros : ∀ n, Numeric (List.replicate n '0') := fun _ => .of_digits isAsciiDigit_of_mem_zeros
  unfold Layout.text
  generalize d.characters = cs at hdigits
  simp only
  split
  · split
    · exact ((hzeros _).cons (by decide)).cons (by decide) |>.append hdigits
    · refine (Numeric.append (fun c hc => hdigits c (List.mem_of_mem_take hc)) (hzeros _)).append
        (Numeric.cons (by decide) ?_)
      split
      · exact hzeros 1
      · exact fun c hc => hdigits c (List.mem_of_mem_drop hc)
  · refine Numeric.append ?_ ((numeric_exponentText layout _).cons (by decide))
    split
    · decide
    · exact hdigits
    · obtain ⟨hc, hrest⟩ := List.forall_mem_cons.mp hdigits
      exact .cons hc (.cons (by decide) hrest)

/-- A written double. -/
theorem compact_writeFloat (x : Double) : Compact (writeFloat x) := by
  cases x with
  | finite negative magnitude =>
    have hmagnitude : Numeric (magnitudeText magnitude) := by
      unfold magnitudeText
      split
      · decide
      · exact numeric_text floatLayout _
    rw [writeFloat_eq]
    split
    · exact .number (hmagnitude.cons (by decide))
    · exact .number hmagnitude
  | nan => exact .word (by decide)
  | infinite negative => exact .word (by rw [writeFloat]; decide)

/-- A written integer. -/
theorem numeric_toString (n : ℤ) : Numeric (toString n).toList := by
  have hdigits : Numeric (Nat.toDigits 10 n.natAbs) := .of_digits isAsciiDigit_of_mem_toDigits
  rw [toList_toString_int]
  split
  · exact hdigits.cons (by decide)
  · exact hdigits

/-- A digit of base sixty-four. -/
theorem le_toNat_base64Digit (n : ℕ) : 32 ≤ (base64Digit n).toNat := by
  have hascii : ∀ m, 32 ≤ m → m < 128 → 32 ≤ (Char.ofNat m).toNat := by decide +kernel
  unfold base64Digit
  split
  · exact hascii _ (by omega) (by omega)
  split
  · exact hascii _ (by omega) (by omega)
  split
  · exact hascii _ (by omega) (by omega)
  split <;> decide

/-- Bytes in base sixty-four. -/
theorem plain_base64 (bytes : List UInt8) : Plain (base64 bytes) := by
  fun_induction base64 bytes with
  | case1 => exact .nil
  | case2 a n =>
    exact .cons (le_toNat_base64Digit _) (.cons (le_toNat_base64Digit _) (by decide))
  | case3 a b n =>
    exact .cons (le_toNat_base64Digit _) (.cons (le_toNat_base64Digit _)
      (.cons (le_toNat_base64Digit _) (by decide)))
  | case4 a b c rest n ih =>
    exact .cons (le_toNat_base64Digit _) (.cons (le_toNat_base64Digit _)
      (.cons (le_toNat_base64Digit _) (.cons (le_toNat_base64Digit _) ih)))

/-- Written values have commas between them. -/
theorem writeItems_eq (items : List Value) :
    writeItems items = List.intercalate [','] (items.map write) := by
  induction items with
  | nil => rw [writeItems, List.map_nil, List.intercalate_nil]
  | cons v rest ih =>
    cases rest with
    | nil => rw [writeItems, List.map_singleton, List.intercalate_singleton]
    | cons w others =>
      rw [writeItems, ih]
      simp only [List.map_cons, List.intercalate_cons_cons, List.append_assoc,
        List.singleton_append]

/-- A key and a value, as they are written. -/
def entryText (e : String × Value) : List Char × List Char :=
  (e.1.toList.flatMap escape, write e.2)

/-- Written entries have commas between them. -/
theorem writeEntries_eq (entries : List (String × Value)) :
    writeEntries entries = List.intercalate [',']
      ((entries.map entryText).map fun e => '"' :: e.1 ++ ['"'] ++ ':' :: e.2) := by
  induction entries with
  | nil => rw [writeEntries, List.map_nil, List.map_nil, List.intercalate_nil]
  | cons e rest ih =>
    cases rest with
    | nil =>
      rw [writeEntries, List.map_singleton, List.map_singleton, List.intercalate_singleton]
      rfl
    | cons other others =>
      rw [writeEntries, ih]
      simp [entryText, writeText, List.intercalate_cons_cons]

mutual

/-- A written value is compact. -/
theorem compact_write : ∀ v : Value, Compact (write v)
  | .none => by
    rw [write]
    exact .word (by decide)
  | .bool b => by
    rw [write]
    cases b <;> exact .word (by decide)
  | .int n => by
    rw [write]
    exact .number (numeric_toString n)
  | .float x => by
    rw [write]
    exact compact_writeFloat x
  | .text s => by
    rw [write]
    exact compact_writeText s
  | .bytes bs => by
    rw [write]
    exact .string (plain_base64 bs)
  | .list items => by
    rw [write, writeItems_eq]
    exact .array (List.forall_mem_map.mpr (compact_items items))
  | .tuple items => by
    rw [write, writeItems_eq]
    exact .array (List.forall_mem_map.mpr (compact_items items))
  | .mapping entries => by
    rw [write, writeEntries_eq]
    exact .object (List.forall_mem_map.mpr fun e _ => plain_flatMap_escape e.1.toList)
      (List.forall_mem_map.mpr (compact_entries entries))
  | .object s => by
    rw [write]
    exact compact_writeText s
  | .stream _ => by
    rw [write]
    exact compact_writeText _
  | .connection => by
    rw [write]
    exact compact_writeText _
  | .callback _ => by
    rw [write]
    exact compact_writeText _

/-- Written values are compact. -/
theorem compact_items : ∀ items : List Value, ∀ v ∈ items, Compact (write v)
  | [] => List.forall_mem_nil _
  | v :: rest => List.forall_mem_cons.mpr ⟨compact_write v, compact_items rest⟩

/-- The written values of entries are compact. -/
theorem compact_entries : ∀ entries : List (String × Value), ∀ e ∈ entries,
    Compact (entryText e).2
  | [] => List.forall_mem_nil _
  | (_, v) :: rest => List.forall_mem_cons.mpr ⟨compact_write v, compact_entries rest⟩

end

end AnnotatedSql.Json
