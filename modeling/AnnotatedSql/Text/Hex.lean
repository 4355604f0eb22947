/-!
# Hexadecimal digits

Numbers written with a fixed count of lower-case hexadecimal digits, and read back.
-/

namespace AnnotatedSql.Text

/-- The digit of a value below sixteen. -/
def hexDigit (n : Nat) : Char :=
  if n < 10 then Char.ofNat (48 + n) else Char.ofNat (87 + n)

/-- The last `width` hexadecimal digits of a number. -/
def hex : (width : Nat) → Nat → List Char
  | 0, _ => []
  | width + 1, n => hex width (n / 16) ++ [hexDigit (n % 16)]

/-- The value of a hexadecimal digit in either case. -/
def hexValue? (c : Char) : Option Nat :=
  if '0' ≤ c && c ≤ '9' then some (c.toNat - 48)
  else if 'a' ≤ c && c ≤ 'f' then some (c.toNat - 87)
  else if 'A' ≤ c && c ≤ 'F' then some (c.toNat - 55)
  else none

/-- The number that hexadecimal digits write, the leading digit first. -/
def ofHex? (digits : List Char) : Option Nat :=
  digits.foldlM (fun n c => (hexValue? c).map (16 * n + ·)) 0

/-- The bytes that pairs of hexadecimal digits write. -/
def bytesOfHex? : List Char → Option (List UInt8)
  | [] => some []
  | [_] => none
  | a :: b :: rest => do
    let byte ← ofHex? [a, b]
    let bytes ← bytesOfHex? rest
    pure (UInt8.ofNat byte :: bytes)

/-- Bytes written as pairs of hexadecimal digits. -/
def hexOfBytes (bytes : List UInt8) : List Char :=
  bytes.flatMap fun byte => hex 2 byte.toNat

end AnnotatedSql.Text
