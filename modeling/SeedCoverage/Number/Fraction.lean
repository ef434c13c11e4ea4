/-! Fractions of natural numbers, and rounding them: to whole numbers, and to 53 significant bits. -/
namespace SeedCoverage

/-- A fraction of natural numbers. -/
structure Fraction where
  numerator : Nat
  denominator : Nat

namespace Fraction

def ofNat (value : Nat) : Fraction := ⟨value, 1⟩

/-- The whole number nearest to a fraction, a tie going to the even one. -/
def nearestEven (value : Fraction) : Nat :=
  let whole := value.numerator / value.denominator
  let twice := 2 * (value.numerator % value.denominator)
  if twice < value.denominator then whole
  else if value.denominator < twice then whole + 1
  else whole + whole % 2

/-- The whole number nearest to a fraction, a tie going up. -/
def nearestUp (value : Fraction) : Nat :=
  (2 * value.numerator + value.denominator) / (2 * value.denominator)

def mul (left right : Fraction) : Fraction :=
  ⟨left.numerator * right.numerator, left.denominator * right.denominator⟩

def div (left right : Fraction) : Fraction :=
  ⟨left.numerator * right.denominator, left.denominator * right.numerator⟩

/-- A fraction times a power of two. -/
def shift (value : Fraction) : Int → Fraction
  | .ofNat up => ⟨value.numerator * Nat.pow 2 up, value.denominator⟩
  | .negSucc down => ⟨value.numerator, value.denominator * Nat.pow 2 (down + 1)⟩

/-- The power of two by which a fraction above zero comes to lie in 2^52 … 2^53. -/
def binaryShift (value : Fraction) : Int :=
  let guess : Int := 52 + value.denominator.log2 - value.numerator.log2
  let scaled := value.shift guess
  if scaled.numerator < Nat.pow 2 52 * scaled.denominator then guess + 1 else guess

/-- The nearest fraction of 53 significant bits, a tie going to the even one. -/
def toBinary (value : Fraction) : Fraction :=
  if value.numerator = 0 then ofNat 0
  else
    let shift := value.binaryShift
    (ofNat (value.shift shift).nearestEven).shift (-shift)

end Fraction
end SeedCoverage
