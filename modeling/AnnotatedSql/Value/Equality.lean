import AnnotatedSql.Value.Basic

/-!
# Equality of values

Numbers are equal when they are the same number, whatever their type, and truth values count as
one and zero. Sequences are equal element by element, dictionaries key by key in any order. What
is known by its identity only equals nothing but itself, so no two such values are equal.

Equal values have equal hash codes where they have any; a hash code is told apart here as far as
two values can share one.
-/

namespace AnnotatedSql.Value

/-- An exact number: a fraction, or one of the two infinities. -/
inductive Number where
  /-- A fraction by its numerator and denominator. -/
  | ratio (numerator : Int) (denominator : Nat)
  /-- Infinity with its sign. -/
  | infinite (negative : Bool)
  deriving DecidableEq

/-- The number a value is. What is not a number is none. -/
def number? : Value → Option Number
  | bool b => some (.ratio (if b then 1 else 0) 1)
  | int n => some (.ratio n 1)
  | float .nan => Option.none
  | float (.infinite negative) => some (.infinite negative)
  | float (.finite negative m) =>
    let n : Int := m.numerator
    some (.ratio (if negative then -n else n) m.denominator)
  | _ => Option.none

/-- The same number. -/
def Number.same : Number → Number → Bool
  | .ratio a b, .ratio c d => a * d == c * b
  | .infinite s, .infinite t => s == t
  | _, _ => false

mutual

/-- Equality of values. -/
def equal : Value → Value → Bool
  | none, none => true
  | text s, text t => s == t
  | bytes s, bytes t => s == t
  | list xs, list ys => equalAll xs ys
  | tuple xs, tuple ys => equalAll xs ys
  | mapping xs, mapping ys => xs.length == ys.length && equalEntries xs ys
  | v, w =>
    match number? v, number? w with
    | some m, some n => m.same n
    | _, _ => false

/-- Equality element by element. -/
def equalAll : List Value → List Value → Bool
  | [], [] => true
  | v :: vs, w :: ws => equal v w && equalAll vs ws
  | _, _ => false

/-- Every entry has an equal one under its key. -/
def equalEntries : List (String × Value) → List (String × Value) → Bool
  | [], _ => true
  | (k, v) :: rest, others =>
    (match others.lookup k with
      | some w => equal v w
      | Option.none => false) && equalEntries rest others

end

/-- The value is equal to itself, and every value is but the one that is not a number. Elements
that are the very same count as equal, so this does not depend on them. -/
def equalsItself : Value → Bool
  | float .nan => false
  | _ => true

/-- What a hash code depends on. -/
inductive HashCode where
  /-- The code of no value. -/
  | absent
  /-- A number modulo a prime, where minus one counts as minus two. -/
  | number (n : Int)
  /-- The characters of a text in the narrowest of the widths one, two and four bytes that holds
  them all, or bytes themselves. -/
  | bytes (bytes : List UInt8)
  /-- The codes of the elements. -/
  | sequence (codes : List HashCode)
  /-- A code that no other value shares. -/
  | identity

mutual

/-- Two hash codes are the same. -/
def HashCode.same : HashCode → HashCode → Bool
  | .absent, .absent => true
  | .number m, .number n => m == n
  | .bytes s, .bytes t => s == t
  | .sequence s, .sequence t => HashCode.sameAll s t
  | _, _ => false

/-- Two sequences of hash codes are the same. -/
def HashCode.sameAll : List HashCode → List HashCode → Bool
  | [], [] => true
  | c :: cs, d :: ds => HashCode.same c d && HashCode.sameAll cs ds
  | _, _ => false

end

/-- The prime that numbers are reduced by. -/
def hashPrime : Nat := Decimal.twoTo 61 - 1

/-- The hash code of a number. A power of two in the denominator is divided by multiplying with
the inverse of two, which is two to the sixtieth. -/
def Number.hashCode : Number → Int
  | .infinite negative => if negative then -314159 else 314159
  | .ratio numerator denominator =>
    let halvings := denominator.log2 % 61
    let code : Int := (numerator.natAbs * Decimal.twoTo (61 - halvings) % hashPrime : Nat)
    let signed := if numerator < 0 then -code else code
    if signed = -1 then -2 else signed

/-- So many bytes of a number, the lowest first. -/
def littleEndian : (width : Nat) → Nat → List UInt8
  | 0, _ => []
  | width + 1, n => UInt8.ofNat (n % 256) :: littleEndian width (n / 256)

/-- The bytes of a text in the narrowest of the three widths. -/
def narrowBytes (s : String) : List UInt8 :=
  let codes := s.toList.map Char.toNat
  let width := if codes.all (· < 0x100) then 1 else if codes.all (· < 0x10000) then 2 else 4
  codes.flatMap (littleEndian width)

/-- The code of bytes; that of none is the code of zero. -/
def bytesHashCode : List UInt8 → HashCode
  | [] => .number 0
  | bs => .bytes bs

mutual

/-- The hash code of a value, or the name of the type that has none. -/
def hashCode : Value → Except String HashCode
  | none => .ok .absent
  | text s => .ok (bytesHashCode (narrowBytes s))
  | bytes bs => .ok (bytesHashCode bs)
  | tuple items => do pure (.sequence (← hashCodes items))
  | list _ => .error "list"
  | mapping _ => .error "dict"
  | bool b => .ok (.number (if b then 1 else 0))
  | int n => .ok (.number (Number.ratio n 1).hashCode)
  | float x =>
    .ok (match number? (float x) with
      | some n => .number n.hashCode
      | Option.none => .identity)
  | object _ | stream _ | connection | callback _ => .ok .identity

/-- The hash codes of values. -/
def hashCodes : List Value → Except String (List HashCode)
  | [] => .ok []
  | v :: rest => do
    let code ← hashCode v
    let codes ← hashCodes rest
    pure (code :: codes)

end

end AnnotatedSql.Value
