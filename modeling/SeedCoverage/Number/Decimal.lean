import SeedCoverage.Number.Fraction
import SeedCoverage.Text.Digits

/-! Decimal numbers as written, and the double nearest to one. -/
namespace SeedCoverage

/-- `digits` times ten to the power `exponent`. -/
structure Decimal where
  digits : Nat
  exponent : Int
  deriving DecidableEq, Repr

/-- The bits of a double. -/
structure Double where
  bits : UInt64
  deriving DecidableEq, Repr

namespace Double

def infinity : Double := ⟨0x7ff0000000000000⟩

def nan : Double := ⟨0x7ff8000000000000⟩

def one : Double := ⟨0x3ff0000000000000⟩

def two : Double := ⟨0x4000000000000000⟩

/-- The same double with the other sign. -/
def negate (value : Double) : Double := ⟨value.bits ^^^ 0x8000000000000000⟩

def toFloat (value : Double) : Float := Float.ofBits value.bits

/-- The double nearest to a fraction, a tie going to the even one. -/
def ofFraction (value : Fraction) : Double :=
  if value.numerator = 0 then ⟨0⟩
  else
    let shift := min value.binaryShift 1074
    let digits := (value.shift shift).nearestEven
    let bits := ((1074 - shift) * Nat.pow 2 52 + digits).toNat
    if infinity.bits.toNat ≤ bits then infinity else ⟨bits.toUInt64⟩

/-- Whether the sign bit is set. -/
def isNegative (value : Double) : Bool := value.bits &&& 0x8000000000000000 != 0

/-- The bits without the sign. -/
def magnitudeBits (value : Double) : Nat := (value.bits &&& 0x7fffffffffffffff).toNat

/-- The magnitude of a finite double. -/
def magnitude (value : Double) : Fraction :=
  let exponent : Nat := value.magnitudeBits / Nat.pow 2 52
  let digits : Nat := value.magnitudeBits % Nat.pow 2 52
  if exponent = 0 then (Fraction.ofNat digits).shift (-1074)
  else (Fraction.ofNat (Nat.pow 2 52 + digits)).shift ((exponent : Int) - 1075)

/-- A whole number times a double, as doubles are multiplied, and cut to a whole number below 2^64.
What is no number, or less than zero, is zero. -/
def scale (factor : Double) (value : Nat) : Nat :=
  if factor.isNegative || infinity.bits.toNat < factor.magnitudeBits || value = 0 then 0
  else if factor.magnitudeBits = infinity.bits.toNat then Nat.pow 2 64 - 1
  else
    let product := ((Fraction.ofNat value).toBinary.mul factor.magnitude).toBinary
    min (product.numerator / product.denominator) (Nat.pow 2 64 - 1)

/-- The double nearest to a whole number. -/
def ofInt (value : Int) : Double :=
  let size := ofFraction (.ofNat value.natAbs)
  if value < 0 then size.negate else size

end Double

namespace Decimal

/-- An exponent: a sign or none, and digits. -/
def exponent? (text : Text) : Option Int :=
  let (sign, digits) : Int × Text := match text with
    | '-' :: rest => (-1, rest)
    | '+' :: rest => (1, rest)
    | _ => (1, text)
  if digits.isEmpty || !digits.all Char.isDigit then none else some (sign * digitsValue 10 digits)

/-- A number without a sign: digits with or without a point among or beside them, and an exponent
or none. -/
def ofText? (text : Text) : Option Decimal := do
  let whole := text.takeWhile Char.isDigit
  let rest := text.dropWhile Char.isDigit
  let (part, rest) := match rest with
    | '.' :: more => (more.takeWhile Char.isDigit, more.dropWhile Char.isDigit)
    | _ => ([], rest)
  if whole.isEmpty && part.isEmpty then none
  let exponent ← match rest with
    | [] => some 0
    | mark :: more => if mark == 'e' || mark == 'E' then exponent? more else none
  return ⟨digitsValue 10 (whole ++ part), exponent - part.length⟩

/-- The double nearest to the number. -/
def toDouble (number : Decimal) : Double :=
  let size : Int := (Text.ofNat number.digits).length
  if number.digits = 0 || number.exponent + size < -400 then ⟨0⟩
  else if 400 < number.exponent + size then .infinity
  else match number.exponent with
    | .ofNat up => Double.ofFraction ⟨number.digits * Nat.pow 10 up, 1⟩
    | .negSucc down => Double.ofFraction ⟨number.digits, Nat.pow 10 (down + 1)⟩

/-- Whether the number lies in the range of doubles. -/
def inRange (number : Decimal) : Bool := number.toDouble != .infinity

end Decimal
end SeedCoverage
