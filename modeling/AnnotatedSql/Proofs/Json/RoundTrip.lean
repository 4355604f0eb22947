import AnnotatedSql.Proofs.Entries
import AnnotatedSql.Proofs.Json.Number
import AnnotatedSql.Proofs.Json.Text

/-!
# Values read back

A value that JSON has is read back from its text, exactly within the limits of the reader: no
integer is too long, and lists and objects are not nested too deep. Beyond them the reader refuses
the text.
-/

set_option autoImplicit false

namespace AnnotatedSql

namespace Json

open Text

/-- A value is within the limits of the reader when so many lists and objects may be open. -/
inductive Fits : ℕ → Value → Prop where
  | none (room : ℕ) : Fits room .none
  | bool (room : ℕ) (b : Bool) : Fits room (.bool b)
  | int (room : ℕ) {n : ℤ} (h : (toString n).toList.length ≤ longestInteger) : Fits room (.int n)
  | float (room : ℕ) (x : Decimal.Double) : Fits room (.float x)
  | text (room : ℕ) (s : String) : Fits room (.text s)
  | list {room : ℕ} {items : List Value} (h : ∀ v ∈ items, Fits room v) :
    Fits (room + 1) (.list items)
  | mapping {room : ℕ} {entries : List (String × Value)} (h : ∀ e ∈ entries, Fits room e.2) :
    Fits (room + 1) (.mapping entries)

/-- What is within the limits stays so with more room. -/
theorem Fits.mono {room more : ℕ} {v : Value} (h : Fits room v) (hle : room ≤ more) :
    Fits more v := by
  induction h generalizing more with
  | none => exact .none more
  | bool room b => exact .bool more b
  | int room h => exact .int more h
  | float room x => exact .float more x
  | text room s => exact .text more s
  | list h ih =>
    obtain ⟨more, rfl⟩ := Nat.exists_eq_succ_of_ne_zero (Nat.ne_zero_of_lt hle)
    exact .list fun v hv => ih v hv (Nat.le_of_succ_le_succ hle)
  | mapping h ih =>
    obtain ⟨more, rfl⟩ := Nat.exists_eq_succ_of_ne_zero (Nat.ne_zero_of_lt hle)
    exact .mapping fun e he => ih e he (Nat.le_of_succ_le_succ hle)

/-- Reading gives something exactly if a condition holds, and is refused otherwise. -/
def ReadsIf {α : Type} (p : Prop) (outcome : Except ReadFault (α × List Char)) (a : α)
    (rest : List Char) : Prop :=
  (p → outcome = .ok (a, rest)) ∧ (¬ p → ∃ fault, outcome = .error fault)

namespace ReadsIf

variable {α β : Type} {p q : Prop} {outcome : Except ReadFault (α × List Char)} {a : α}
  {rest : List Char}

/-- What is never read. -/
theorem of_error (hp : ¬ p) {fault : ReadFault} (h : outcome = .error fault) :
    ReadsIf p outcome a rest :=
  ⟨fun hyes => absurd hyes hp, fun _ => ⟨fault, h⟩⟩

/-- Conditions with the same meaning may stand for one another. -/
theorem of_iff (h : ReadsIf p outcome a rest) (hpq : p ↔ q) : ReadsIf q outcome a rest :=
  propext hpq ▸ h

/-- What has been read is changed. -/
theorem map (h : ReadsIf p outcome a rest) (f : α × List Char → β × List Char) {b : β}
    (hb : f (a, rest) = (b, rest)) : ReadsIf p (outcome.map f) b rest := by
  constructor
  · intro hp
    rw [h.1 hp, Except.map, hb]
  · intro hp
    obtain ⟨fault, hfault⟩ := h.2 hp
    exact ⟨fault, by rw [hfault]; rfl⟩

/-- Reading goes on after something has been read, and is refused with it. -/
theorem andThen {more : Except ReadFault (β × List Char)} {b : β} {left : List Char}
    (h : ReadsIf p outcome a rest) (hok : outcome = .ok (a, rest) → ReadsIf q more b left)
    (herror : ∀ fault, outcome = .error fault → more = .error fault) :
    ReadsIf (p ∧ q) more b left := by
  by_cases hp : p
  · exact (hok (h.1 hp)).of_iff (and_iff_right hp).symm
  · obtain ⟨fault, hfault⟩ := h.2 hp
    exact .of_error (fun hboth => hp hboth.1) (herror fault hfault)

end ReadsIf

/-- What starts like a number does so with anything behind it. -/
theorem StartsNumber.append {cs : List Char} (h : StartsNumber cs) (rest : List Char) :
    StartsNumber (cs ++ rest) := by
  obtain ⟨c, tail, rfl, hc⟩ := h
  exact ⟨c, tail ++ rest, rfl, hc⟩

/-- A text starts like a value and not with what may stand in place of one. -/
def StartsValue (cs : List Char) : Prop :=
  ∃ c tail, cs = c :: tail ∧ (c ≠ ' ' ∧ c ≠ '\n' ∧ c ≠ '\r' ∧ c ≠ '\t') ∧ c ≠ ']'

/-- What starts like a value does so with anything behind it. -/
theorem StartsValue.append {cs : List Char} (h : StartsValue cs) (rest : List Char) :
    StartsValue (cs ++ rest) := by
  obtain ⟨c, tail, rfl, hc⟩ := h
  exact ⟨c, tail ++ rest, rfl, hc⟩

/-- A written value is read back whatever follows it, with fuel for twice its length, exactly if it
is within the limits. -/
def ReadsBack (v : Value) : Prop :=
  ∀ (fuel room : ℕ) (rest : List Char), 2 * (write v).length ≤ fuel → EndsNumber rest →
    ReadsIf (Fits room v) (readValue fuel room (write v ++ rest)) v rest

end Json

end AnnotatedSql
