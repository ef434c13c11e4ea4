import SeedCoverage.Number.Decimal

/-! Numbers in JSON text, and whether a double can hold them. A number is taken as its leading
digits below 2^64 times a power of ten; both are rounded before they are multiplied. -/
namespace SeedCoverage.Json

/-- The value of the leading digits as long as it is below 2^64, with `value` before them, and how
many digits are left. -/
def leadingDigits (value : Nat) : Text → Nat × Nat
  | [] => (value, 0)
  | c :: rest =>
    let next := 10 * value + digitValue c
    if next < Nat.pow 2 64 then leadingDigits next rest else (value, (c :: rest).length)

/-- Whether the product of a number below 2^64 and a power of ten, each rounded to a double, is
nearer to a double than to infinity. -/
def productInRange (digits : Nat) (exponent : Int) : Bool :=
  if digits = 0 || exponent < 0 then true
  else if 308 < exponent then false
  else
    let power := (Fraction.ofNat (Nat.pow 10 exponent.toNat)).toBinary
    let product := (Fraction.ofNat digits).toBinary.mul power
    product.numerator < (Nat.pow 2 1024 - Nat.pow 2 970) * product.denominator

/-- A number at the start of `text` in range, and what follows. -/
def number? (text : Text) : Option (Text × Text) := do
  let unsigned := if text.head? = some '-' then text.tail else text
  let whole := unsigned.takeWhile Char.isDigit
  if whole.isEmpty || (whole.head? == some '0' && whole.length != 1) then none
  let rest := unsigned.drop whole.length
  let part := if rest.head? = some '.' then rest.tail.takeWhile Char.isDigit else []
  if rest.head? = some '.' && part.isEmpty then none
  let rest := if part.isEmpty then rest else rest.drop (part.length + 1)
  let (exponent, rest) ← match rest with
    | [] => some (0, [])
    | mark :: more =>
      if mark == 'e' || mark == 'E' then
        let sign := more.takeWhile fun c => c == '+' || c == '-'
        let digits := (more.drop sign.length).takeWhile Char.isDigit
        (Decimal.exponent? (sign ++ digits)).map fun exponent =>
          (exponent, more.drop (sign.length + digits.length))
      else some (0, mark :: more)
  let (digits, left) := leadingDigits 0 (whole ++ part)
  if productInRange digits (exponent - part.length + left) then
    return (text.take (text.length - rest.length), rest)
  else none

end SeedCoverage.Json
