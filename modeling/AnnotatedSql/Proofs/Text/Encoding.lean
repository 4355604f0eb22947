import AnnotatedSql.Proofs.Outcome
import AnnotatedSql.Text.Encoding
import Mathlib.Data.List.Basic

/-!
# Decoding undoes encoding

What bytes an encoding has for characters is said without decoding: UTF-8 by the encoder of the
standard library, UTF-16 by units, the others by codes. Bytes decode to characters exactly when they
are those of the characters.
-/

set_option autoImplicit false

namespace AnnotatedSql.Text

/-- Decoding goes character by character: nothing is decoded from no bytes, a character from its own
bytes, and nothing from bytes that start with those of no character. -/
structure DecodesBy (decode : ℕ → List UInt8 → Except DecodeFault (List Char))
    (encode : Char → List UInt8) : Prop where
  /-- No bytes are no characters. -/
  nil : ∀ position, decode position [] = .ok []
  /-- The bytes of a character come to that character. -/
  step : ∀ c position rest, decode position (encode c ++ rest) =
    (decode (position + (encode c).length) rest).map (c :: ·)
  /-- Bytes that decode start with those of a character. -/
  head : ∀ position first rest cs, decode position (first :: rest) = .ok cs →
    ∃ c later, first :: rest = encode c ++ later

/-- Decoding character by character gives the characters whose bytes are given, and no others. -/
theorem DecodesBy.eq_ok_iff {decode : ℕ → List UInt8 → Except DecodeFault (List Char)}
    {encode : Char → List UInt8} (h : DecodesBy decode encode) {position : ℕ} {bytes : List UInt8}
    {cs : List Char} : decode position bytes = .ok cs ↔ bytes = cs.flatMap encode := by
  constructor
  · intro hok
    induction cs generalizing position bytes with
    | nil =>
      cases bytes with
      | nil => rfl
      | cons first rest =>
        obtain ⟨c, later, hsplit⟩ := h.head position first rest [] hok
        rw [hsplit, h.step] at hok
        obtain ⟨_, _, hcons⟩ := Outcome.map_eq_ok_iff.mp hok
        cases hcons
    | cons d cs ih =>
      cases bytes with
      | nil =>
        rw [h.nil] at hok
        cases hok
      | cons first rest =>
        obtain ⟨c, later, hsplit⟩ := h.head position first rest (d :: cs) hok
        rw [hsplit, h.step] at hok
        obtain ⟨_, hlater, hcons⟩ := Outcome.map_eq_ok_iff.mp hok
        cases hcons
        rw [hsplit, List.flatMap_cons, ← ih hlater]
  · rintro rfl
    induction cs generalizing position with
    | nil => exact h.nil position
    | cons c cs ih =>
      rw [List.flatMap_cons, h.step, ih]
      rfl

section Codes

/-- The code of a character that is one. -/
theorem toNat_charOf {n : ℕ} (h : n < 0xD800 ∨ 0xDFFF < n ∧ n < 0x110000) :
    (charOf n).toNat = n := by
  have hvalid : n.isValidChar := h
  rw [charOf, Char.ofNat, dif_pos hvalid]
  rfl

/-- A character is that of its code. -/
theorem charOf_toNat (c : Char) : charOf c.toNat = c :=
  Char.ofNat_toNat c

/-- The codes of characters leave out the surrogates. -/
theorem toNat_bounds (c : Char) : c.toNat < 0xD800 ∨ 0xDFFF < c.toNat ∧ c.toNat < 0x110000 :=
  c.valid

/-- A number below 256 is that of its byte. -/
theorem toNat_ofNat_byte {n : ℕ} (h : n < 256) : (UInt8.ofNat n).toNat = n := by
  rw [UInt8.toNat_ofNat']
  exact Nat.mod_eq_of_lt h

/-- A byte is known by its number. -/
theorem ofNat_eq_byte {n : ℕ} {b : UInt8} (h : n = b.toNat) : UInt8.ofNat n = b := by
  rw [h, UInt8.ofNat_toNat]

end Codes

section Utf8

variable {lead size position : ℕ} {a b c d : UInt8} {rest : List UInt8}

/-- The bytes that may follow others, by their numbers. -/
theorem isTail_iff : isTail b = true ↔ 0x80 ≤ b.toNat ∧ b.toNat < 0xC0 := by
  simp [isTail, UInt8.le_iff_toNat_le, UInt8.lt_iff_toNat_lt]

/-- The bytes that may follow a first one, by their numbers. -/
theorem isSecond_iff : isSecond lead b = true ↔
    0x80 ≤ b.toNat ∧ b.toNat < 0xC0 ∧ (lead = 0xE0 → 0xA0 ≤ b.toNat) ∧
      (lead = 0xED → b.toNat < 0xA0) ∧ (lead = 0xF0 → 0x90 ≤ b.toNat) ∧
      (lead = 0xF4 → b.toNat < 0x90) := by
  simp only [isSecond, Bool.and_eq_true, isTail_iff, Bool.or_eq_true, bne_iff_ne, ne_eq,
    decide_eq_true_eq, UInt8.le_iff_toNat_le, UInt8.lt_iff_toNat_lt, ← imp_iff_not_or, and_assoc]
  rfl

/-- How many bytes a character takes, by the number of the first one. -/
theorem utf8Width_eq_some_iff {width : ℕ} : utf8Width lead = some width ↔
    width = 1 ∧ lead < 0x80 ∨ width = 2 ∧ 0xC2 ≤ lead ∧ lead < 0xE0 ∨
      width = 3 ∧ 0xE0 ≤ lead ∧ lead < 0xF0 ∨ width = 4 ∧ 0xF0 ≤ lead ∧ lead < 0xF5 := by
  simp only [utf8Width, Bool.and_eq_true, decide_eq_true_eq]
  split_ifs <;> simp only [Option.some.injEq, false_iff] <;> omega

/-- A first byte below 128 is a character of its own. -/
theorem decodeUtf8_one (ha : a.toNat < 0x80) : decodeUtf8 size position (a :: rest) =
    (decodeUtf8 size (position + 1) rest).map (charOf a.toNat :: ·) := by
  have hwidth : utf8Width a.toNat = some 1 := utf8Width_eq_some_iff.mpr (by omega)
  rw [decodeUtf8.eq_def]
  simp only [hwidth]

/-- Two bytes are a character. -/
theorem decodeUtf8_two (ha : 0xC2 ≤ a.toNat ∧ a.toNat < 0xE0) (hb : isSecond a.toNat b = true) :
    decodeUtf8 size position (a :: b :: rest) =
      (decodeUtf8 size (position + 2) rest).map
        (charOf (a.toNat % 32 * 64 + tailBits b) :: ·) := by
  have hwidth : utf8Width a.toNat = some 2 := utf8Width_eq_some_iff.mpr (by omega)
  rw [decodeUtf8, hwidth]
  simp only [hb, if_true]

/-- Three bytes are a character. -/
theorem decodeUtf8_three (ha : 0xE0 ≤ a.toNat ∧ a.toNat < 0xF0) (hb : isSecond a.toNat b = true)
    (hc : isTail c = true) :
    decodeUtf8 size position (a :: b :: c :: rest) =
      (decodeUtf8 size (position + 3) rest).map
        (charOf ((a.toNat % 16 * 64 + tailBits b) * 64 + tailBits c) :: ·) := by
  have hwidth : utf8Width a.toNat = some 3 := utf8Width_eq_some_iff.mpr (by omega)
  rw [decodeUtf8, hwidth]
  simp only [hb, hc, Bool.not_true, Bool.false_eq_true, if_false]

/-- Four bytes are a character. -/
theorem decodeUtf8_four (ha : 0xF0 ≤ a.toNat ∧ a.toNat < 0xF5) (hb : isSecond a.toNat b = true)
    (hc : isTail c = true) (hd : isTail d = true) :
    decodeUtf8 size position (a :: b :: c :: d :: rest) =
      (decodeUtf8 size (position + 4) rest).map
        (charOf (((a.toNat % 8 * 64 + tailBits b) * 64 + tailBits c) * 64 + tailBits d) :: ·) := by
  have hwidth : utf8Width a.toNat = some 4 := utf8Width_eq_some_iff.mpr (by omega)
  rw [decodeUtf8, hwidth]
  simp only [hb, hc, hd, Bool.not_true, Bool.false_eq_true, if_false]

/-- The bytes of a character in UTF-8, by its code. -/
theorem utf8EncodeChar_eq (c : Char) : String.utf8EncodeChar c =
    if c.toNat ≤ 0x7F then [UInt8.ofNat c.toNat]
    else if c.toNat ≤ 0x7FF then
      [UInt8.ofNat (c.toNat / 64 % 32 + 192), UInt8.ofNat (c.toNat % 64 + 128)]
    else if c.toNat ≤ 0xFFFF then
      [UInt8.ofNat (c.toNat / 4096 % 16 + 224), UInt8.ofNat (c.toNat / 64 % 64 + 128),
        UInt8.ofNat (c.toNat % 64 + 128)]
    else
      [UInt8.ofNat (c.toNat / 262144 % 8 + 240), UInt8.ofNat (c.toNat / 4096 % 64 + 128),
        UInt8.ofNat (c.toNat / 64 % 64 + 128), UInt8.ofNat (c.toNat % 64 + 128)] :=
  rfl

/-- A character is decoded from its bytes. -/
theorem decodeUtf8_utf8EncodeChar (c : Char) :
    decodeUtf8 size position (String.utf8EncodeChar c ++ rest) =
      (decodeUtf8 size (position + (String.utf8EncodeChar c).length) rest).map (c :: ·) := by
  have hbounds := toNat_bounds c
  rw [utf8EncodeChar_eq]
  split_ifs with hone htwo hthree
  · have hfirst := toNat_ofNat_byte (n := c.toNat) (by omega)
    rw [List.singleton_append, decodeUtf8_one (by omega), hfirst, charOf_toNat]
    rfl
  · have hfirst := toNat_ofNat_byte (n := c.toNat / 64 % 32 + 192) (by omega)
    have hlast := toNat_ofNat_byte (n := c.toNat % 64 + 128) (by omega)
    have hcode : (c.toNat / 64 % 32 + 192) % 32 * 64 + (c.toNat % 64 + 128) % 64 = c.toNat := by
      omega
    rw [List.cons_append, List.singleton_append, decodeUtf8_two (by omega)
      (isSecond_iff.mpr (by omega)), tailBits, hfirst, hlast, hcode, charOf_toNat]
    rfl
  · have hfirst := toNat_ofNat_byte (n := c.toNat / 4096 % 16 + 224) (by omega)
    have hsecond := toNat_ofNat_byte (n := c.toNat / 64 % 64 + 128) (by omega)
    have hlast := toNat_ofNat_byte (n := c.toNat % 64 + 128) (by omega)
    have hcode : ((c.toNat / 4096 % 16 + 224) % 16 * 64 + (c.toNat / 64 % 64 + 128) % 64) * 64 +
        (c.toNat % 64 + 128) % 64 = c.toNat := by omega
    rw [List.cons_append, List.cons_append, List.singleton_append, decodeUtf8_three (by omega)
      (isSecond_iff.mpr (by omega)) (isTail_iff.mpr (by omega)), tailBits, tailBits, hfirst,
      hsecond, hlast, hcode, charOf_toNat]
    rfl
  · have hfirst := toNat_ofNat_byte (n := c.toNat / 262144 % 8 + 240) (by omega)
    have hsecond := toNat_ofNat_byte (n := c.toNat / 4096 % 64 + 128) (by omega)
    have hthird := toNat_ofNat_byte (n := c.toNat / 64 % 64 + 128) (by omega)
    have hlast := toNat_ofNat_byte (n := c.toNat % 64 + 128) (by omega)
    have hcode : (((c.toNat / 262144 % 8 + 240) % 8 * 64 + (c.toNat / 4096 % 64 + 128) % 64) * 64 +
        (c.toNat / 64 % 64 + 128) % 64) * 64 + (c.toNat % 64 + 128) % 64 = c.toNat := by omega
    rw [List.cons_append, List.cons_append, List.cons_append, List.singleton_append,
      decodeUtf8_four (by omega) (isSecond_iff.mpr (by omega)) (isTail_iff.mpr (by omega))
      (isTail_iff.mpr (by omega)), tailBits, tailBits, tailBits, hfirst, hsecond, hthird, hlast,
      hcode, charOf_toNat]
    rfl

/-- One byte is all of a character. -/
theorem utf8EncodeChar_one (ha : a.toNat < 0x80) :
    String.utf8EncodeChar (charOf a.toNat) = [a] := by
  rw [utf8EncodeChar_eq, toNat_charOf (by omega), if_pos (by omega), UInt8.ofNat_toNat]

/-- Two bytes are all of a character. -/
theorem utf8EncodeChar_two (ha : 0xC2 ≤ a.toNat ∧ a.toNat < 0xE0)
    (hb : isSecond a.toNat b = true) :
    String.utf8EncodeChar (charOf (a.toNat % 32 * 64 + tailBits b)) = [a, b] := by
  have hb := isSecond_iff.mp hb
  unfold tailBits
  rw [utf8EncodeChar_eq, toNat_charOf (by omega), if_neg (by omega), if_pos (by omega),
    ofNat_eq_byte (b := a) (by omega), ofNat_eq_byte (b := b) (by omega)]

/-- Three bytes are all of a character. -/
theorem utf8EncodeChar_three (ha : 0xE0 ≤ a.toNat ∧ a.toNat < 0xF0)
    (hb : isSecond a.toNat b = true) (hc : isTail c = true) :
    String.utf8EncodeChar (charOf ((a.toNat % 16 * 64 + tailBits b) * 64 + tailBits c)) =
      [a, b, c] := by
  have hb := isSecond_iff.mp hb
  have hc := isTail_iff.mp hc
  unfold tailBits
  rw [utf8EncodeChar_eq, toNat_charOf (by omega), if_neg (by omega), if_neg (by omega),
    if_pos (by omega), ofNat_eq_byte (b := a) (by omega), ofNat_eq_byte (b := b) (by omega),
    ofNat_eq_byte (b := c) (by omega)]

/-- Four bytes are all of a character. -/
theorem utf8EncodeChar_four (ha : 0xF0 ≤ a.toNat ∧ a.toNat < 0xF5)
    (hb : isSecond a.toNat b = true) (hc : isTail c = true) (hd : isTail d = true) :
    String.utf8EncodeChar
      (charOf (((a.toNat % 8 * 64 + tailBits b) * 64 + tailBits c) * 64 + tailBits d)) =
      [a, b, c, d] := by
  have hb := isSecond_iff.mp hb
  have hc := isTail_iff.mp hc
  have hd := isTail_iff.mp hd
  unfold tailBits
  rw [utf8EncodeChar_eq, toNat_charOf (by omega), if_neg (by omega), if_neg (by omega),
    if_neg (by omega), ofNat_eq_byte (b := a) (by omega), ofNat_eq_byte (b := b) (by omega),
    ofNat_eq_byte (b := c) (by omega), ofNat_eq_byte (b := d) (by omega)]

/-- Bytes that decode start with those of a character. -/
theorem decodeUtf8_head {cs : List Char} (h : decodeUtf8 size position (a :: rest) = .ok cs) :
    ∃ c later, a :: rest = String.utf8EncodeChar c ++ later := by
  rw [decodeUtf8.eq_def] at h
  dsimp only at h
  split at h
  · cases h
  · next hwidth =>
    have ha := utf8Width_eq_some_iff.mp hwidth
    have hbytes := utf8EncodeChar_one (a := a) (by omega)
    exact ⟨_, rest, congrArg (· ++ rest) hbytes.symm⟩
  · next hwidth =>
    have ha := utf8Width_eq_some_iff.mp hwidth
    split at h
    · cases h
    · next b rest =>
      split at h
      · next hb =>
        have hbytes := utf8EncodeChar_two (by omega) hb
        exact ⟨_, rest, congrArg (· ++ rest) hbytes.symm⟩
      · cases h
  · next hwidth =>
    have ha := utf8Width_eq_some_iff.mp hwidth
    split at h
    · cases h
    · split at h <;> cases h
    · next b c rest =>
      split_ifs at h with hb hc
      have hsecond : isSecond a.toNat b = true := by simpa using hb
      have htail : isTail c = true := by simpa using hc
      have hbytes := utf8EncodeChar_three (by omega) hsecond htail
      exact ⟨_, rest, congrArg (· ++ rest) hbytes.symm⟩
  · next width hone htwo hthree hwidth =>
    have ha : 0xF0 ≤ a.toNat ∧ a.toNat < 0xF5 := by
      rcases utf8Width_eq_some_iff.mp hwidth with h | h | h | h
      · exact absurd h.1 hone
      · exact absurd h.1 htwo
      · exact absurd h.1 hthree
      · exact h.2
    split at h
    · cases h
    · split at h <;> cases h
    · split_ifs at h
    · next b c d rest =>
      split_ifs at h with hb hc hd
      have hsecond : isSecond a.toNat b = true := by simpa using hb
      have hthird : isTail c = true := by simpa using hc
      have htail : isTail d = true := by simpa using hd
      have hbytes := utf8EncodeChar_four ha hsecond hthird htail
      exact ⟨_, rest, congrArg (· ++ rest) hbytes.symm⟩

/-- UTF-8 is decoded character by character. -/
theorem decodesBy_utf8 (size : ℕ) : DecodesBy (decodeUtf8 size) String.utf8EncodeChar where
  nil _ := by rw [decodeUtf8.eq_def]
  step c _ _ := decodeUtf8_utf8EncodeChar c
  head _ _ _ _ h := decodeUtf8_head h

end Utf8

section Utf16

variable {bigEndian : Bool} {size position : ℕ} {a b c d : UInt8} {rest : List UInt8}

/-- The units of a character in UTF-16: its code, or a pair of surrogates. -/
def utf16Units (c : Char) : List ℕ :=
  if c.toNat < 0x10000 then [c.toNat]
  else [0xD800 + (c.toNat - 0x10000) / 0x400, 0xDC00 + (c.toNat - 0x10000) % 0x400]

/-- The two bytes of a unit, in an order. -/
def unitBytes (bigEndian : Bool) (unit : ℕ) : List UInt8 :=
  if bigEndian then [UInt8.ofNat (unit / 256), UInt8.ofNat (unit % 256)]
  else [UInt8.ofNat (unit % 256), UInt8.ofNat (unit / 256)]

/-- The bytes of a character in UTF-16. -/
def utf16EncodeChar (bigEndian : Bool) (c : Char) : List UInt8 :=
  (utf16Units c).flatMap (unitBytes bigEndian)

/-- A unit is that of its bytes. -/
theorem exists_unitBytes (bigEndian : Bool) (unit : ℕ) (h : unit < 0x10000) :
    ∃ a b, unitBytes bigEndian unit = [a, b] ∧ unit16 bigEndian a b = unit := by
  have hhigh := toNat_ofNat_byte (n := unit / 256) (by omega)
  have hlow := toNat_ofNat_byte (n := unit % 256) (by omega)
  cases bigEndian with
  | true =>
    refine ⟨_, _, rfl, ?_⟩
    rw [unit16, if_pos rfl, hhigh, hlow]
    omega
  | false =>
    refine ⟨_, _, rfl, ?_⟩
    rw [unit16, if_neg Bool.false_ne_true, hhigh, hlow]
    omega

/-- Two bytes are those of their unit. -/
theorem unitBytes_unit16 : unitBytes bigEndian (unit16 bigEndian a b) = [a, b] := by
  have ha := a.toNat_lt
  have hb := b.toNat_lt
  cases bigEndian with
  | true =>
    rw [unitBytes, unit16, if_pos rfl, if_pos rfl, ofNat_eq_byte (b := a) (by omega),
      ofNat_eq_byte (b := b) (by omega)]
  | false =>
    rw [unitBytes, unit16, if_neg Bool.false_ne_true, if_neg Bool.false_ne_true,
      ofNat_eq_byte (b := a) (by omega), ofNat_eq_byte (b := b) (by omega)]

/-- A unit that is no surrogate is a character. -/
theorem decodeUtf16_unit
    (h : unit16 bigEndian a b < 0xD800 ∨ 0xDFFF < unit16 bigEndian a b) :
    decodeUtf16 bigEndian size position (a :: b :: rest) =
      (decodeUtf16 bigEndian size (position + 2) rest).map
        (charOf (unit16 bigEndian a b) :: ·) := by
  have hlow : isLowSurrogate (unit16 bigEndian a b) = false := by
    simp only [isLowSurrogate, Bool.and_eq_false_iff, decide_eq_false_iff_not]
    omega
  have hhigh : isHighSurrogate (unit16 bigEndian a b) = false := by
    simp only [isHighSurrogate, Bool.and_eq_false_iff, decide_eq_false_iff_not]
    omega
  rw [decodeUtf16.eq_def]
  simp only [hlow, hhigh, Bool.false_eq_true, if_false]

/-- A pair of surrogates is a character. -/
theorem decodeUtf16_pair
    (hhigh : 0xD800 ≤ unit16 bigEndian a b ∧ unit16 bigEndian a b < 0xDC00)
    (hlow : 0xDC00 ≤ unit16 bigEndian c d ∧ unit16 bigEndian c d < 0xE000) :
    decodeUtf16 bigEndian size position (a :: b :: c :: d :: rest) =
      (decodeUtf16 bigEndian size (position + 4) rest).map
        (charOf (0x10000 + (unit16 bigEndian a b - 0xD800) * 0x400 +
          (unit16 bigEndian c d - 0xDC00)) :: ·) := by
  have hfirst : isLowSurrogate (unit16 bigEndian a b) = false := by
    simp only [isLowSurrogate, Bool.and_eq_false_iff, decide_eq_false_iff_not]
    omega
  have hsecond : isHighSurrogate (unit16 bigEndian a b) = true := by
    simpa [isHighSurrogate] using hhigh
  have hthird : isLowSurrogate (unit16 bigEndian c d) = true := by
    simpa [isLowSurrogate] using hlow
  rw [decodeUtf16.eq_def]
  simp only [hfirst, hsecond, hthird, Bool.false_eq_true, if_false, if_true]

/-- A character is decoded from its bytes. -/
theorem decodeUtf16_utf16EncodeChar (c : Char) :
    decodeUtf16 bigEndian size position (utf16EncodeChar bigEndian c ++ rest) =
      (decodeUtf16 bigEndian size (position + (utf16EncodeChar bigEndian c).length) rest).map
        (c :: ·) := by
  have hbounds := toNat_bounds c
  unfold utf16EncodeChar utf16Units
  split_ifs with hone
  · obtain ⟨x, y, hbytes, hunit⟩ := exists_unitBytes bigEndian c.toNat hone
    rw [List.flatMap_singleton, hbytes, List.cons_append, List.singleton_append,
      decodeUtf16_unit (by omega), hunit, charOf_toNat]
    rfl
  · obtain ⟨x, y, hhigh, hfirst⟩ := exists_unitBytes bigEndian
      (0xD800 + (c.toNat - 0x10000) / 0x400) (by omega)
    obtain ⟨z, w, hlow, hsecond⟩ := exists_unitBytes bigEndian
      (0xDC00 + (c.toNat - 0x10000) % 0x400) (by omega)
    have hcode : 0x10000 + (0xD800 + (c.toNat - 0x10000) / 0x400 - 0xD800) * 0x400 +
        (0xDC00 + (c.toNat - 0x10000) % 0x400 - 0xDC00) = c.toNat := by omega
    rw [List.flatMap_cons, List.flatMap_singleton, hhigh, hlow, List.cons_append,
      List.singleton_append, List.cons_append, List.cons_append, List.cons_append,
      List.singleton_append, decodeUtf16_pair (by omega) (by omega), hfirst, hsecond, hcode,
      charOf_toNat]
    rfl

/-- A unit has two bytes. -/
theorem unit16_lt : unit16 bigEndian a b < 0x10000 := by
  have ha := a.toNat_lt
  have hb := b.toNat_lt
  unfold unit16
  split <;> omega

/-- A unit that is no surrogate is all of a character. -/
theorem utf16EncodeChar_unit
    (h : unit16 bigEndian a b < 0xD800 ∨ 0xDFFF < unit16 bigEndian a b) :
    utf16EncodeChar bigEndian (charOf (unit16 bigEndian a b)) = [a, b] := by
  have hlt : unit16 bigEndian a b < 0x10000 := unit16_lt
  rw [utf16EncodeChar, utf16Units, toNat_charOf (by omega), if_pos hlt, List.flatMap_singleton,
    unitBytes_unit16]

/-- A pair of surrogates is all of a character. -/
theorem utf16EncodeChar_pair
    (hhigh : 0xD800 ≤ unit16 bigEndian a b ∧ unit16 bigEndian a b < 0xDC00)
    (hlow : 0xDC00 ≤ unit16 bigEndian c d ∧ unit16 bigEndian c d < 0xE000) :
    utf16EncodeChar bigEndian (charOf (0x10000 + (unit16 bigEndian a b - 0xD800) * 0x400 +
      (unit16 bigEndian c d - 0xDC00))) = [a, b, c, d] := by
  have hfirst : 0xD800 + (0x10000 + (unit16 bigEndian a b - 0xD800) * 0x400 +
      (unit16 bigEndian c d - 0xDC00) - 0x10000) / 0x400 = unit16 bigEndian a b := by omega
  have hsecond : 0xDC00 + (0x10000 + (unit16 bigEndian a b - 0xD800) * 0x400 +
      (unit16 bigEndian c d - 0xDC00) - 0x10000) % 0x400 = unit16 bigEndian c d := by omega
  rw [utf16EncodeChar, utf16Units, toNat_charOf (by omega), if_neg (by omega), hfirst, hsecond,
    List.flatMap_cons, List.flatMap_singleton, unitBytes_unit16, unitBytes_unit16]
  rfl

/-- Bytes that decode start with those of a character. -/
theorem decodeUtf16_head {cs : List Char}
    (h : decodeUtf16 bigEndian size position (a :: rest) = .ok cs) :
    ∃ c later, a :: rest = utf16EncodeChar bigEndian c ++ later := by
  rw [decodeUtf16.eq_def] at h
  dsimp only at h
  split at h
  · next hnil => cases hnil
  · cases h
  · next b rest hbytes =>
    cases hbytes
    split at h
    · cases h
    · next hlow =>
      split at h
      · next hhigh =>
        split at h
        · cases h
        · cases h
        · next c d rest =>
          split_ifs at h with hsecond
          have hbytes := utf16EncodeChar_pair (by simpa [isHighSurrogate] using hhigh)
            (by simpa [isLowSurrogate] using hsecond)
          exact ⟨_, rest, congrArg (· ++ rest) hbytes.symm⟩
      · next hhigh =>
        simp only [isLowSurrogate, isHighSurrogate, Bool.and_eq_true, decide_eq_true_eq]
          at hlow hhigh
        have hunit : unit16 bigEndian a b < 0xD800 ∨ 0xDFFF < unit16 bigEndian a b := by omega
        exact ⟨_, rest, congrArg (· ++ rest) (utf16EncodeChar_unit hunit).symm⟩

/-- UTF-16 is decoded character by character. -/
theorem decodesBy_utf16 (bigEndian : Bool) (size : ℕ) :
    DecodesBy (decodeUtf16 bigEndian size) (utf16EncodeChar bigEndian) where
  nil _ := by rw [decodeUtf16.eq_def]
  step c _ _ := decodeUtf16_utf16EncodeChar c
  head _ _ _ _ h := decodeUtf16_head h

end Utf16

section Codes

/-- The byte of a code is that of a character. -/
theorem charOf_eq_iff {b : UInt8} {c : Char} : charOf b.toNat = c ↔ b.toNat = c.toNat := by
  have hb := b.toNat_lt
  constructor
  · rintro rfl
    rw [toNat_charOf (by omega)]
  · intro hcode
    rw [hcode, charOf_toNat]

/-- ASCII decodes to the characters with the same codes. -/
theorem decodeAscii_eq_ok_iff {position : ℕ} {bytes : List UInt8} {cs : List Char} :
    decodeAscii position bytes = .ok cs ↔
      bytes.map UInt8.toNat = cs.map Char.toNat ∧ ∀ c ∈ cs, c.toNat < 0x80 := by
  induction bytes generalizing position cs with
  | nil => cases cs <;> simp [decodeAscii]
  | cons b rest ih =>
    have hascii : b < 0x80 ↔ b.toNat < 0x80 := UInt8.lt_iff_toNat_lt
    rw [decodeAscii]
    cases cs with
    | nil =>
      split
      · simp [Outcome.map_eq_ok_iff]
      · simp
    | cons c cs =>
      split
      · next hb =>
        simp only [Outcome.map_eq_ok_iff, ih, List.cons.injEq, charOf_eq_iff, List.map_cons,
          List.forall_mem_cons]
        constructor
        · rintro ⟨_, ⟨hrest, hlow⟩, hc, rfl⟩
          exact ⟨⟨hc, hrest⟩, hc ▸ hascii.mp hb, hlow⟩
        · rintro ⟨⟨hc, hrest⟩, _, hlow⟩
          exact ⟨cs, ⟨hrest, hlow⟩, hc, rfl⟩
      · next hb =>
        simp only [reduceCtorEq, List.map_cons, List.cons.injEq, List.forall_mem_cons, false_iff]
        rintro ⟨⟨hc, _⟩, hlow, _⟩
        exact hb (hascii.mpr (hc ▸ hlow))

/-- Latin-1 decodes to the characters with the same codes. -/
theorem map_charOf_eq_iff {bytes : List UInt8} {cs : List Char} :
    bytes.map (fun b => charOf b.toNat) = cs ↔ bytes.map UInt8.toNat = cs.map Char.toNat := by
  induction bytes generalizing cs with
  | nil => cases cs <;> simp
  | cons b rest ih =>
    cases cs with
    | nil => simp
    | cons c cs => simp only [List.map_cons, List.cons.injEq, charOf_eq_iff, ih]

end Codes

section Faults

variable {size position : ℕ}

/-- Where the rest of the bytes has its mark, so have all. -/
theorem map_ne_missingMark {decoded : Except DecodeFault (List Char)}
    (f : List Char → List Char) (h : decoded ≠ .error .missingMark) :
    decoded.map f ≠ .error .missingMark :=
  fun herror => h (Outcome.map_eq_error_iff.mp herror)

/-- In ASCII no mark is missing. -/
theorem decodeAscii_ne_missingMark (bytes : List UInt8) :
    decodeAscii position bytes ≠ .error .missingMark := by
  fun_induction decodeAscii position bytes with
  | case1 => simp
  | case2 _ _ _ _ ih => exact map_ne_missingMark _ ih
  | case3 => simp

/-- In UTF-8 no mark is missing. -/
theorem decodeUtf8_ne_missingMark (bytes : List UInt8) :
    decodeUtf8 size position bytes ≠ .error .missingMark := by
  fun_induction decodeUtf8 size position bytes
  -- After a character the rest decides. In all other cases the fault is in the bytes.
  all_goals first
    | exact map_ne_missingMark _ ‹_›
    | simp +zetaDelta only [ne_eq, reduceCtorEq, Except.error.injEq, not_false_eq_true]

/-- In UTF-16 of a known order no mark is missing. -/
theorem decodeUtf16_ne_missingMark (bigEndian : Bool) (bytes : List UInt8) :
    decodeUtf16 bigEndian size position bytes ≠ .error .missingMark := by
  fun_induction decodeUtf16 bigEndian size position bytes
  all_goals first
    | exact map_ne_missingMark _ ‹_›
    | simp +zetaDelta only [ne_eq, reduceCtorEq, Except.error.injEq, not_false_eq_true]

end Faults

/-- No bytes are those of no characters. -/
theorem flatMap_utf8EncodeChar_eq_nil_iff {cs : List Char} :
    cs.flatMap String.utf8EncodeChar = [] ↔ cs = [] := by
  have hdecode : decodeUtf8 0 0 [] = .ok cs ↔ [] = cs.flatMap String.utf8EncodeChar :=
    (decodesBy_utf8 0).eq_ok_iff
  rw [(decodesBy_utf8 0).nil, Except.ok.injEq] at hdecode
  exact eq_comm.trans (hdecode.symm.trans eq_comm)

/-- The first bytes of the mark of UTF-8 are no characters. -/
theorem eq_nil_of_flatMap_isPrefix {cs : List Char}
    (hlength : (cs.flatMap String.utf8EncodeChar).length < 3)
    (h : cs.flatMap String.utf8EncodeChar <+: utf8MarkBytes) : cs = [] := by
  have hdecode : decodeUtf8 2 0 (cs.flatMap String.utf8EncodeChar) = .ok cs :=
    (decodesBy_utf8 2).eq_ok_iff.mpr rfl
  rw [← flatMap_utf8EncodeChar_eq_nil_iff]
  have hfirst := List.prefix_iff_eq_take.mp h
  generalize cs.flatMap String.utf8EncodeChar = bytes at hlength hfirst hdecode
  match hcount : bytes.length with
  | 0 => exact List.eq_nil_of_length_eq_zero hcount
  | 1 =>
    rw [hcount] at hfirst
    rw [hfirst, decodeUtf8.eq_def] at hdecode
    cases hdecode
  | 2 =>
    rw [hcount] at hfirst
    rw [hfirst, decodeUtf8.eq_def] at hdecode
    cases hdecode
  | n + 3 => omega

namespace Encoding

/-- The bytes are those of characters in an encoding. A mark may be in front of UTF-8, and a mark
that is cut off is no character. A mark is in front of UTF-16 unless there are no bytes. -/
def Encodes : Encoding → List Char → List UInt8 → Prop
  | utf8, cs, bytes => bytes = cs.flatMap String.utf8EncodeChar
  | utf8Mark, cs, bytes =>
    bytes = utf8MarkBytes ++ cs.flatMap String.utf8EncodeChar ∨
      (¬ utf8MarkBytes <+: bytes ∧ bytes = cs.flatMap String.utf8EncodeChar) ∨
      (bytes <+: utf8MarkBytes ∧ bytes ≠ utf8MarkBytes ∧ cs = [])
  | latin1, cs, bytes => bytes.map UInt8.toNat = cs.map Char.toNat
  | ascii, cs, bytes => bytes.map UInt8.toNat = cs.map Char.toNat ∧ ∀ c ∈ cs, c.toNat < 0x80
  | utf16, cs, bytes =>
    bytes = 0xFF :: 0xFE :: cs.flatMap (utf16EncodeChar false) ∨
      bytes = 0xFE :: 0xFF :: cs.flatMap (utf16EncodeChar true) ∨ (bytes = [] ∧ cs = [])
  | utf16LittleEndian, cs, bytes => bytes = cs.flatMap (utf16EncodeChar false)
  | utf16BigEndian, cs, bytes => bytes = cs.flatMap (utf16EncodeChar true)

/-- The bytes are characters in UTF-16, but the mark in front of them is missing. -/
def LacksMark (bytes : List UInt8) : Prop :=
  ¬ [0xFF, 0xFE] <+: bytes ∧ ¬ [0xFE, 0xFF] <+: bytes ∧
    ∃ c cs, bytes = (c :: cs).flatMap (utf16EncodeChar false)

/-- Without the mark in front, bytes are those of the same characters. -/
theorem withoutMark_eq_iff {bytes : List UInt8} {cs : List Char} :
    withoutMark bytes = cs.flatMap String.utf8EncodeChar ↔ Encodes utf8Mark cs bytes := by
  unfold withoutMark Encodes
  split_ifs with hcut hmark
  · simp only [Bool.and_eq_true, decide_eq_true_eq, List.isPrefixOf_iff_prefix] at hcut
    obtain ⟨hlength, hstart⟩ := hcut
    constructor
    · intro hnone
      have hcs := flatMap_utf8EncodeChar_eq_nil_iff.mp hnone.symm
      refine Or.inr (Or.inr ⟨hstart, ?_, hcs⟩)
      rintro rfl
      exact absurd hlength (by decide)
    · rintro (rfl | ⟨_, rfl⟩ | ⟨_, _, rfl⟩)
      · rw [List.length_append] at hlength
        exact absurd (Nat.lt_of_le_of_lt (Nat.le_add_right _ _) hlength) (by decide)
      · rw [eq_nil_of_flatMap_isPrefix hlength hstart]
        rfl
      · rfl
  · obtain ⟨rest, rfl⟩ := List.isPrefixOf_iff_prefix.mp hmark
    have hdrop : (utf8MarkBytes ++ rest).drop 3 = rest := rfl
    rw [hdrop]
    constructor
    · rintro rfl
      exact Or.inl rfl
    · rintro (hrest | ⟨hnone, _⟩ | ⟨hstart, hne, _⟩)
      · exact List.append_cancel_left hrest
      · exact absurd (List.prefix_append _ _) hnone
      · exact absurd (hstart.eq_of_length_le (by simp)) hne
  · have hnone : ¬ utf8MarkBytes <+: bytes := fun h => hmark (List.isPrefixOf_iff_prefix.mpr h)
    constructor
    · exact fun h => Or.inr (Or.inl ⟨hnone, h⟩)
    · rintro (rfl | ⟨_, h⟩ | ⟨hstart, hne, _⟩)
      · exact absurd (List.prefix_append _ _) hnone
      · exact h
      · have hlength : bytes.length < 3 :=
          Nat.lt_of_le_of_ne hstart.length_le fun h => hne (hstart.eq_of_length h)
        simp [hlength, hstart] at hcut

/-- UTF-16 with a mark decodes to the characters whose bytes come after it. -/
theorem decode_utf16_eq_ok_iff {bytes : List UInt8} {cs : List Char} :
    decode utf16 bytes = .ok cs ↔ Encodes utf16 cs bytes := by
  simp only [decode]
  split
  · next rest =>
    rw [(decodesBy_utf16 false _).eq_ok_iff]
    simp [Encodes]
  · next rest =>
    rw [(decodesBy_utf16 true _).eq_ok_iff]
    simp [Encodes]
  · next hlittle hbig =>
    have hnil : decodeUtf16 false bytes.length 0 bytes = .ok [] ↔ bytes = [] :=
      (decodesBy_utf16 false _).eq_ok_iff
    have hmark : Encodes utf16 cs bytes ↔ bytes = [] ∧ cs = [] := by
      constructor
      · rintro (hbytes | hbytes | hnone)
        · exact absurd hbytes (hlittle _)
        · exact absurd hbytes (hbig _)
        · exact hnone
      · exact fun hnone => Or.inr (Or.inr hnone)
    rw [hmark, ← hnil]
    split
    · next hdecode => simp [hdecode, eq_comm]
    · next found hfound hdecode =>
      simp only [reduceCtorEq, hdecode, Except.ok.injEq, false_iff, not_and]
      intro hempty
      exact absurd hempty hfound
    · next hdecode => simp [hdecode]

/-- Bytes decode to characters exactly when they are those of the characters. -/
theorem decode_eq_ok_iff {e : Encoding} {bytes : List UInt8} {cs : List Char} :
    e.decode bytes = .ok cs ↔ e.Encodes cs bytes := by
  cases e with
  | utf8 => exact (decodesBy_utf8 _).eq_ok_iff
  | utf8Mark => exact (decodesBy_utf8 _).eq_ok_iff.trans withoutMark_eq_iff
  | latin1 =>
    rw [decode, Except.ok.injEq]
    exact map_charOf_eq_iff
  | ascii => exact decodeAscii_eq_ok_iff
  | utf16 => exact decode_utf16_eq_ok_iff
  | utf16LittleEndian => exact (decodesBy_utf16 false _).eq_ok_iff
  | utf16BigEndian => exact (decodesBy_utf16 true _).eq_ok_iff

/-- In UTF-16 the mark is missing exactly where the bytes lack it. -/
theorem decode_utf16_eq_missingMark_iff {bytes : List UInt8} :
    decode utf16 bytes = .error .missingMark ↔ LacksMark bytes := by
  simp only [decode]
  split
  · next rest =>
    have hmark : ¬ LacksMark (0xFF :: 0xFE :: rest) := fun h => h.1 ⟨rest, rfl⟩
    simp only [hmark, iff_false]
    exact decodeUtf16_ne_missingMark false rest
  · next rest =>
    have hmark : ¬ LacksMark (0xFE :: 0xFF :: rest) := fun h => h.2.1 ⟨rest, rfl⟩
    simp only [hmark, iff_false]
    exact decodeUtf16_ne_missingMark true rest
  · next hlittle hbig =>
    have hlacks : LacksMark bytes ↔
        ∃ c cs, decodeUtf16 false bytes.length 0 bytes = .ok (c :: cs) := by
      simp only [(decodesBy_utf16 false _).eq_ok_iff]
      constructor
      · exact fun h => h.2.2
      · intro h
        refine ⟨?_, ?_, h⟩
        · rintro ⟨rest, hrest⟩
          exact hlittle rest hrest.symm
        · rintro ⟨rest, hrest⟩
          exact hbig rest hrest.symm
    rw [hlacks]
    split
    · next hdecode => simp [hdecode]
    · next found hfound hdecode =>
      cases found with
      | nil => exact absurd rfl hfound
      | cons c cs => simp [hdecode]
    · next fault hdecode =>
      have hother : fault ≠ .missingMark := by
        rintro rfl
        exact decodeUtf16_ne_missingMark false bytes hdecode
      simp [hdecode, hother]

/-- A mark is missing exactly in UTF-16 without one. -/
theorem decode_eq_missingMark_iff {e : Encoding} {bytes : List UInt8} :
    e.decode bytes = .error .missingMark ↔ e = .utf16 ∧ LacksMark bytes := by
  cases e with
  | utf16 => simp only [decode_utf16_eq_missingMark_iff, true_and]
  | utf8 => exact iff_of_false (decodeUtf8_ne_missingMark bytes) (by simp)
  | utf8Mark => exact iff_of_false (decodeUtf8_ne_missingMark (withoutMark bytes)) (by simp)
  | latin1 => exact iff_of_false (by simp [decode]) (by simp)
  | ascii => exact iff_of_false (decodeAscii_ne_missingMark bytes) (by simp)
  | utf16LittleEndian => exact iff_of_false (decodeUtf16_ne_missingMark false bytes) (by simp)
  | utf16BigEndian => exact iff_of_false (decodeUtf16_ne_missingMark true bytes) (by simp)

end Encoding

end AnnotatedSql.Text
