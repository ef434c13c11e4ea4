import SeedCoverage.Number.Fraction

/-! Percentages in binary fractions of 53 bits: the quotient is rounded, then a hundred times it is
rounded, and then half a percent goes up. -/
namespace SeedCoverage

/-- The greatest percentage that is reported. -/
def percentLimit : Nat := Nat.pow 2 32 - 1

/-- `complete` as a rounded percentage of `total`; of nothing it is 0. -/
def percent (complete total : Nat) : Nat :=
  if total = 0 then 0
  else
    let part := (Fraction.ofNat complete).toBinary
    let whole := (Fraction.ofNat total).toBinary
    min ((part.div whole).toBinary.mul (Fraction.ofNat 100)).toBinary.nearestUp percentLimit

end SeedCoverage
