import Mathlib
import SeedCoverage.Number.Fraction

/-! What rounding does to the number that a fraction stands for. A number is rounded on the grid of its
own binade, so numbers are compared binade by binade. -/
namespace SeedCoverage.Fraction

variable {left right : Fraction} {number other : ℚ} {whole : ℕ} {place : ℤ}

/-- The number that a fraction stands for. -/
def value (fraction : Fraction) : ℚ := fraction.numerator / fraction.denominator

@[simp]
theorem value_ofNat (whole : ℕ) : (ofNat whole).value = whole := by
  simp [ofNat, value]

@[simp]
theorem value_mul (left right : Fraction) : (left.mul right).value = left.value * right.value := by
  simp only [mul, value, Nat.cast_mul]
  exact mul_div_mul_comm _ _ _ _

@[simp]
theorem value_div (left right : Fraction) : (left.div right).value = left.value / right.value := by
  simp only [div, value, Nat.cast_mul]
  exact (div_div_div_eq _ _ _ _).symm

@[simp]
theorem value_shift (fraction : Fraction) (place : ℤ) :
    (fraction.shift place).value = fraction.value * 2 ^ place := by
  cases place with
  | ofNat up =>
    simp only [shift, value, Nat.pow_eq, Nat.cast_mul, Nat.cast_pow, Nat.cast_ofNat, Int.ofNat_eq_natCast,
      zpow_natCast]
    exact mul_div_right_comm _ _ _
  | negSucc down =>
    simp only [shift, value, Nat.pow_eq, Nat.cast_mul, Nat.cast_pow, Nat.cast_ofNat, zpow_negSucc]
    rw [← div_eq_mul_inv, div_div]

theorem value_nonneg (fraction : Fraction) : 0 ≤ fraction.value :=
  div_nonneg (Nat.cast_nonneg _) (Nat.cast_nonneg _)

theorem denominator_shift_pos (proper : 0 < left.denominator) (place : ℤ) :
    0 < (left.shift place).denominator := by
  cases place with
  | ofNat up => exact proper
  | negSucc down => exact Nat.mul_pos proper (Nat.two_pow_pos _)

theorem denominator_div_pos (proper : 0 < left.denominator) (some : 0 < right.value) :
    0 < (left.div right).denominator := by
  apply Nat.mul_pos proper
  by_contra none
  simp [value, Nat.eq_zero_of_not_pos none] at some

theorem denominator_toBinary_pos (fraction : Fraction) : 0 < fraction.toBinary.denominator := by
  unfold toBinary
  split
  · exact Nat.one_pos
  · exact denominator_shift_pos Nat.one_pos _

/-! ### Whole numbers -/

/-- Half a unit is added, and what is behind the point is cut off. -/
theorem nearestUp_eq_floor (proper : 0 < left.denominator) :
    left.nearestUp = ⌊left.value + 1 / 2⌋₊ := by
  have positive : (left.denominator : ℚ) ≠ 0 := Nat.cast_ne_zero.mpr (Nat.ne_of_gt proper)
  have same : left.value + 1 / 2 =
      ((2 * left.numerator + left.denominator : ℕ) : ℚ) / ((2 * left.denominator : ℕ) : ℚ) := by
    rw [value]
    push_cast
    field_simp
  rw [nearestUp, same, Nat.floor_div_eq_div]

theorem nearestUp_mono (proper : 0 < left.denominator) (proper' : 0 < right.denominator)
    (ordered : left.value ≤ right.value) : left.nearestUp ≤ right.nearestUp := by
  rw [nearestUp_eq_floor proper, nearestUp_eq_floor proper']
  exact Nat.floor_le_floor (by linarith)

/-- No whole number is nearer to a number, and of two that are equally near the even one is meant. -/
structure RoundsTo (number : ℚ) (whole : ℕ) : Prop where
  low : number ≤ whole + 1 / 2
  high : whole ≤ number + 1 / 2
  tie : number = whole + 1 / 2 ∨ (whole : ℚ) = number + 1 / 2 → whole % 2 = 0

/-- What is behind the point is less than one, and the remainder tells on which side of a half it is. -/
theorem exists_part (proper : 0 < left.denominator) :
    ∃ part : ℚ, left.value = (left.numerator / left.denominator : ℕ) + part ∧ 0 ≤ part ∧ part < 1 ∧
      (part < 1 / 2 ↔ 2 * (left.numerator % left.denominator) < left.denominator) ∧
      (1 / 2 < part ↔ left.denominator < 2 * (left.numerator % left.denominator)) := by
  have positive : (0 : ℚ) < left.denominator := Nat.cast_pos.mpr proper
  have division : (left.numerator : ℚ) = left.denominator * (left.numerator / left.denominator : ℕ) +
      (left.numerator % left.denominator : ℕ) := by
    exact_mod_cast (Nat.div_add_mod left.numerator left.denominator).symm
  refine ⟨(left.numerator % left.denominator : ℕ) / left.denominator, ?_, ?_, ?_, ?_, ?_⟩
  · rw [value, div_eq_iff positive.ne', add_mul, div_mul_cancel₀ _ positive.ne']
    linarith
  · exact div_nonneg (Nat.cast_nonneg _) positive.le
  · rw [div_lt_one positive]
    exact_mod_cast Nat.mod_lt _ proper
  · rw [div_lt_div_iff₀ positive two_pos, one_mul, mul_comm]
    exact_mod_cast Iff.rfl
  · rw [div_lt_div_iff₀ two_pos positive, one_mul, mul_comm]
    exact_mod_cast Iff.rfl

theorem nearestEven_spec (proper : 0 < left.denominator) : RoundsTo left.value left.nearestEven := by
  obtain ⟨part, parts, least, less, below, above⟩ := exists_part proper
  rw [parts]
  simp only [nearestEven, ← below, ← above]
  generalize left.numerator / left.denominator = quotient
  have next : ((quotient + 1 : ℕ) : ℚ) = quotient + 1 := Nat.cast_succ quotient
  rcases lt_trichotomy part (1 / 2) with small | half | great
  · rw [if_pos small]
    refine ⟨by linarith, by linarith, ?_⟩
    rintro (tie | tie) <;> linarith
  · rw [if_neg half.not_lt, if_neg half.not_gt, half]
    rcases Nat.mod_two_eq_zero_or_one quotient with even | odd
    · rw [even, Nat.add_zero]
      exact ⟨le_rfl, by linarith, fun _ => even⟩
    · rw [odd]
      exact ⟨by linarith, by linarith, fun _ => by omega⟩
  · rw [if_neg great.not_gt, if_pos great]
    refine ⟨by linarith, by linarith, ?_⟩
    rintro (tie | tie) <;> linarith

namespace RoundsTo

theorem mono {whole' : ℕ} (rounds : RoundsTo number whole) (rounds' : RoundsTo other whole')
    (ordered : number ≤ other) : whole ≤ whole' := by
  by_contra more
  have apart : (whole' : ℚ) + 1 ≤ whole := by exact_mod_cast Nat.lt_of_not_le more
  have := rounds.high
  have := rounds'.low
  -- both numbers lie midway between the two whole numbers, which are then both even
  have even := rounds.tie (.inr (by linarith))
  have even' := rounds'.tie (.inl (by linarith))
  have next : whole = whole' + 1 := by
    have : (whole : ℚ) = whole' + 1 := by linarith
    exact_mod_cast this
  omega

theorem le_of_lt {bound : ℕ} (rounds : RoundsTo number whole) (above : (bound - 1 / 2 : ℚ) < number) :
    bound ≤ whole := by
  have close : (bound : ℚ) < (whole + 1 : ℕ) := by push_cast; linarith [rounds.low]
  exact Nat.lt_succ_iff.mp (Nat.cast_lt.mp close)

theorem ge_of_lt {bound : ℕ} (rounds : RoundsTo number whole) (below : number < (bound + 1 / 2 : ℚ)) :
    whole ≤ bound := by
  have close : (whole : ℚ) < (bound + 1 : ℕ) := by push_cast; linarith [rounds.high]
  exact Nat.lt_succ_iff.mp (Nat.cast_lt.mp close)

theorem eq_of_natCast {exact : ℕ} (rounds : RoundsTo exact whole) : whole = exact :=
  Nat.le_antisymm (rounds.ge_of_lt (by linarith)) (rounds.le_of_lt (by linarith))

end RoundsTo

/-! ### Binades -/

/-- The number lies in the binade in which units of `2 ^ -place` are counted with 53 bits. -/
structure InBinade (number : ℚ) (place : ℤ) : Prop where
  low : 2 ^ 52 ≤ number * 2 ^ place
  high : number * 2 ^ place < 2 ^ 53

theorem InBinade.pos (binade : InBinade number place) : 0 < number := by
  have unit : (0 : ℚ) < 2 ^ place := by positivity
  exact pos_of_mul_pos_left (lt_of_lt_of_le (by positivity) binade.low) unit.le

private theorem value_lt_iff (proper : 0 < left.denominator) (bound : ℕ) :
    left.value < bound ↔ left.numerator < bound * left.denominator := by
  rw [value, div_lt_iff₀ (Nat.cast_pos.mpr proper)]
  exact_mod_cast Iff.rfl

/-- The difference of the binary logarithms is off by at most one. -/
private theorem guess_bounds (some : left.numerator ≠ 0) (proper : 0 < left.denominator) :
    2 ^ 51 ≤ left.value * 2 ^ (52 + left.denominator.log2 - left.numerator.log2 : ℤ) ∧
      left.value * 2 ^ (52 + left.denominator.log2 - left.numerator.log2 : ℤ) < 2 ^ 53 := by
  have positive : (0 : ℚ) < left.denominator := Nat.cast_pos.mpr proper
  have least : (2 : ℚ) ^ left.numerator.log2 ≤ left.numerator := by
    exact_mod_cast Nat.log2_self_le some
  have most : (left.numerator : ℚ) < 2 * 2 ^ left.numerator.log2 := by
    rw [← pow_succ']
    exact_mod_cast Nat.lt_log2_self
  have least' : (2 : ℚ) ^ left.denominator.log2 ≤ left.denominator := by
    exact_mod_cast Nat.log2_self_le (Nat.ne_of_gt proper)
  have most' : (left.denominator : ℚ) < 2 * 2 ^ left.denominator.log2 := by
    rw [← pow_succ']
    exact_mod_cast Nat.lt_log2_self
  have power : (2 : ℚ) ^ (52 + left.denominator.log2 - left.numerator.log2 : ℤ) =
      2 ^ 52 * 2 ^ left.denominator.log2 / 2 ^ left.numerator.log2 := by
    rw [zpow_sub₀ two_ne_zero, zpow_add₀ two_ne_zero, zpow_natCast, zpow_natCast]
    rfl
  have above : (0 : ℚ) < 2 ^ left.numerator.log2 := by positivity
  have above' : (0 : ℚ) < 2 ^ left.denominator.log2 := by positivity
  rw [power, value, div_mul_div_comm, le_div_iff₀ (by positivity), div_lt_iff₀ (by positivity)]
  constructor
  · have := mul_le_mul least most'.le positive.le (by linarith)
    linarith
  · have := mul_lt_mul most least' above' (by linarith)
    linarith

theorem binaryShift_spec (some : left.numerator ≠ 0) (proper : 0 < left.denominator) :
    InBinade left.value left.binaryShift := by
  obtain ⟨low, high⟩ := guess_bounds some proper
  have proper' := denominator_shift_pos proper (52 + left.denominator.log2 - left.numerator.log2)
  have under := value_lt_iff proper' (Nat.pow 2 52)
  rw [value_shift] at under
  simp only [binaryShift, ← under, Nat.pow_eq, Nat.cast_pow, Nat.cast_ofNat]
  split
  · rename_i short
    have double : (2 : ℚ) ^ (52 + left.denominator.log2 - left.numerator.log2 + 1 : ℤ) =
        2 ^ (52 + left.denominator.log2 - left.numerator.log2 : ℤ) * 2 :=
      zpow_add_one₀ two_ne_zero _
    constructor
    · rw [double]
      linarith
    · rw [double]
      linarith
  · rename_i long
    exact ⟨le_of_not_gt long, high⟩

private theorem two_mul_zpow_le {place place' : ℤ} (finer : place < place') :
    2 * (2 : ℚ) ^ place ≤ 2 ^ place' := by
  rw [mul_comm, ← zpow_add_one₀ two_ne_zero]
  exact zpow_le_zpow_right₀ one_le_two finer

/-- The finer the binade, the less its numbers. -/
theorem InBinade.lt {place' : ℤ} (binade : InBinade number place) (binade' : InBinade other place')
    (finer : place < place') : other < number := by
  have double := two_mul_zpow_le finer
  have unit : (0 : ℚ) < 2 ^ place := by positivity
  by_contra more
  have := mul_le_mul (le_of_not_gt more) double (by positivity) (by nlinarith [binade.low])
  linarith [binade.low, binade'.high]

/-- A number above zero in 53 bits: so many units of its binade. -/
structure Rounding (number : ℚ) (place : ℤ) (bits : ℕ) : Prop where
  binade : InBinade number place
  nearest : RoundsTo (number * 2 ^ place) bits

namespace Rounding

variable {bits bits' : ℕ} {place' : ℤ}

theorem bits_ge (rounding : Rounding number place bits) : 2 ^ 52 ≤ bits := by
  apply rounding.nearest.le_of_lt
  push_cast
  linarith [rounding.binade.low]

theorem bits_le (rounding : Rounding number place bits) : bits ≤ 2 ^ 53 := by
  apply rounding.nearest.ge_of_lt
  push_cast
  linarith [rounding.binade.high]

/-- Full as it may be, a binade ends where the next one begins. -/
theorem le_of_finer (few : bits ≤ 2 ^ 53) (many : 2 ^ 52 ≤ bits') (finer : place < place') :
    (bits : ℚ) / 2 ^ place' ≤ bits' / 2 ^ place := by
  have few : (bits : ℚ) ≤ 2 ^ 53 := by exact_mod_cast few
  have many : (2 : ℚ) ^ 52 ≤ bits' := by exact_mod_cast many
  have double := two_mul_zpow_le finer
  rw [div_le_div_iff₀ (by positivity) (by positivity)]
  calc (bits : ℚ) * 2 ^ place
      ≤ 2 ^ 53 * 2 ^ place := mul_le_mul_of_nonneg_right few (by positivity)
    _ = 2 ^ 52 * (2 * 2 ^ place) := by ring
    _ ≤ bits' * 2 ^ place' := mul_le_mul many double (by positivity) (by positivity)

theorem mono (rounding : Rounding number place bits) (rounding' : Rounding other place' bits')
    (ordered : number ≤ other) : (bits : ℚ) / 2 ^ place ≤ bits' / 2 ^ place' := by
  rcases lt_trichotomy place place' with coarser | rfl | finer
  · exact absurd ordered (rounding.binade.lt rounding'.binade coarser).not_ge
  · have unit : (0 : ℚ) < 2 ^ place := by positivity
    have scaled := mul_le_mul_of_nonneg_right ordered unit.le
    have bits_mono := rounding.nearest.mono rounding'.nearest scaled
    exact div_le_div_of_nonneg_right (by exact_mod_cast bits_mono) unit.le
  · exact le_of_finer rounding.bits_le rounding'.bits_ge finer

end Rounding

/-! ### Fifty-three bits -/

theorem exists_rounding (positive : 0 < left.value) :
    ∃ place bits, Rounding left.value place bits ∧ left.toBinary.value = bits / 2 ^ place := by
  have some : left.numerator ≠ 0 := by
    intro none
    simp [value, none] at positive
  have proper : 0 < left.denominator := by
    by_contra none
    simp [value, Nat.eq_zero_of_not_pos none] at positive
  have nearest := nearestEven_spec (denominator_shift_pos proper left.binaryShift)
  rw [value_shift] at nearest
  refine ⟨left.binaryShift, _, ⟨binaryShift_spec some proper, nearest⟩, ?_⟩
  simp only [toBinary, if_neg some, value_shift, value_ofNat, zpow_neg]
  rfl

theorem toBinary_of_not_pos (proper : 0 < left.denominator) (none : ¬0 < left.value) :
    left.toBinary.value = 0 := by
  have zero : left.numerator = 0 := by
    by_contra some
    exact none (div_pos (Nat.cast_pos.mpr (Nat.pos_of_ne_zero some)) (Nat.cast_pos.mpr proper))
  rw [toBinary, if_pos zero, value_ofNat, Nat.cast_zero]

theorem toBinary_mono (proper : 0 < left.denominator) (ordered : left.value ≤ right.value) :
    left.toBinary.value ≤ right.toBinary.value := by
  by_cases positive : 0 < left.value
  · obtain ⟨place, bits, rounding, rounded⟩ := exists_rounding positive
    obtain ⟨place', bits', rounding', rounded'⟩ := exists_rounding (positive.trans_le ordered)
    rw [rounded, rounded']
    exact rounding.mono rounding' ordered
  · rw [toBinary_of_not_pos proper positive]
    exact value_nonneg _

theorem value_toBinary_ofNat (small : whole < 2 ^ 53) : (ofNat whole).toBinary.value = whole := by
  rcases Nat.eq_zero_or_pos whole with rfl | positive
  · rw [toBinary_of_not_pos Nat.one_pos (by simp), Nat.cast_zero]
  · have positive : 0 < (ofNat whole).value := by simpa using positive
    obtain ⟨place, bits, ⟨binade, nearest⟩, rounded⟩ := exists_rounding positive
    rw [value_ofNat] at binade nearest
    have fits : 0 ≤ place := by
      by_contra short
      have halved := two_mul_zpow_le (Int.lt_of_not_ge short)
      have less : (whole : ℚ) < 2 ^ 53 := by exact_mod_cast small
      have := mul_le_mul_of_nonneg_left halved (Nat.cast_nonneg (α := ℚ) whole)
      linarith [binade.low, zpow_zero (2 : ℚ)]
    obtain ⟨up, rfl⟩ := Int.eq_ofNat_of_zero_le fits
    rw [zpow_natCast] at nearest rounded
    have same : (whole : ℚ) * 2 ^ up = (whole * 2 ^ up : ℕ) := by push_cast; rfl
    rw [same] at nearest
    rw [rounded, nearest.eq_of_natCast, ← same, mul_div_cancel_right₀ _ (by positivity)]

private theorem midpoint_binade (place : ℤ) (enough : 2 ^ 52 < whole) (fits : whole ≤ 2 ^ 53) :
    InBinade ((whole - 1 / 2 : ℚ) / 2 ^ place) place := by
  have enough : (2 : ℚ) ^ 52 + 1 ≤ whole := by exact_mod_cast enough
  have fits : (whole : ℚ) ≤ 2 ^ 53 := by exact_mod_cast fits
  have unit : (2 : ℚ) ^ place ≠ 0 := by positivity
  constructor
  · rw [div_mul_cancel₀ _ unit]
    linarith
  · rw [div_mul_cancel₀ _ unit]
    linarith

/-- What lies above the midpoint of two neighbours is rounded to the upper one, or beyond. -/
theorem toBinary_ge_of_midpoint_lt (place : ℤ) (enough : 2 ^ 52 < whole) (fits : whole ≤ 2 ^ 53)
    (above : (whole - 1 / 2 : ℚ) / 2 ^ place < left.value) :
    (whole : ℚ) / 2 ^ place ≤ left.toBinary.value := by
  have middle := midpoint_binade place enough fits
  have unit : (0 : ℚ) < 2 ^ place := by positivity
  obtain ⟨place', bits, rounding, rounded⟩ := exists_rounding (middle.pos.trans above)
  rw [rounded]
  rcases lt_trichotomy place place' with finer | rfl | coarser
  · exact absurd above (middle.lt rounding.binade finer).not_gt
  · have more := rounding.nearest.le_of_lt ((div_lt_iff₀ unit).mp above)
    exact div_le_div_of_nonneg_right (by exact_mod_cast more) unit.le
  · exact Rounding.le_of_finer fits rounding.bits_ge coarser

/-- What lies below the midpoint of two neighbours is rounded to the lower one, or beyond. -/
theorem toBinary_le_of_lt_midpoint (place : ℤ) (proper : 0 < left.denominator)
    (enough : 2 ^ 52 < whole) (fits : whole ≤ 2 ^ 53) (below : left.value < (whole - 1 / 2 : ℚ) / 2 ^ place) :
    left.toBinary.value ≤ (whole - 1 : ℕ) / 2 ^ place := by
  by_cases positive : 0 < left.value
  · have middle := midpoint_binade place enough fits
    have unit : (0 : ℚ) < 2 ^ place := by positivity
    obtain ⟨place', bits, rounding, rounded⟩ := exists_rounding positive
    rw [rounded]
    rcases lt_trichotomy place place' with finer | rfl | coarser
    · exact Rounding.le_of_finer rounding.bits_le (by omega) finer
    · have previous : ((whole - 1 : ℕ) : ℚ) = whole - 1 := Nat.cast_pred (by omega)
      have scaled := (lt_div_iff₀ unit).mp below
      have less : bits ≤ whole - 1 := rounding.nearest.ge_of_lt (by rw [previous]; linarith)
      exact div_le_div_of_nonneg_right (by exact_mod_cast less) unit.le
    · exact absurd below (rounding.binade.lt middle coarser).not_gt
  · rw [toBinary_of_not_pos proper positive]
    positivity

end SeedCoverage.Fraction
