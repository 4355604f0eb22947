import AnnotatedSql.Json.Encoder
import AnnotatedSql.Proofs.Json.Line
import AnnotatedSql.Proofs.Json.RoundTrip

/-!
# What an encoder is relied on for

Nothing is known of an encoder and a decoder but what their formats promise: texts stand for
themselves as keys, what is written is compact, and a value that JSON has is written and read back,
as long as no integer in it is too long and lists and objects are not nested too deep. The writer
and the reader of this library keep these promises.
-/

set_option autoImplicit false

namespace AnnotatedSql

/-- A whole number can be shown if it does not have too many digits. -/
theorem Value.isShowable_int_iff {n : ℤ} :
    (int n).isShowable = true ↔ (Nat.toDigits 10 n.natAbs).length ≤ longestNumber := by
  rw [isShowable, decide_eq_true_eq]
  exact (Decimal.length_toDigits_le_iff (by decide)).symm

/-- All values of a list that can be shown can be shown. -/
theorem Value.areShowable_iff {items : List Value} :
    areShowable items = true ↔ ∀ v ∈ items, v.isShowable = true := by
  induction items with
  | nil => simp [areShowable]
  | cons v rest ih => rw [areShowable, Bool.and_eq_true, ih, List.forall_mem_cons]

/-- The values of entries that can be shown can be shown. -/
theorem Value.entriesAreShowable_iff {entries : List (String × Value)} :
    entriesAreShowable entries = true ↔ ∀ e ∈ entries, e.2.isShowable = true := by
  induction entries with
  | nil => simp [entriesAreShowable]
  | cons e rest ih => rw [entriesAreShowable, Bool.and_eq_true, ih, List.forall_mem_cons]

namespace Json

/-- A value that is within the limits of the reader can be shown. -/
theorem Fits.isShowable {room : ℕ} {v : Value} (h : Fits room v) : v.isShowable = true := by
  induction h with
  | none | bool | float | text => simp [Value.isShowable]
  | @int room n hlength =>
    refine Value.isShowable_int_iff.mpr ?_
    rw [toList_toString_int] at hlength
    split at hlength
    · exact (Nat.le_succ _).trans hlength
    · exact hlength
  | list _ ih =>
    rw [Value.isShowable]
    exact Value.areShowable_iff.mpr ih
  | mapping _ ih =>
    rw [Value.isShowable]
    exact Value.entriesAreShowable_iff.mpr ih

end Json

end AnnotatedSql
