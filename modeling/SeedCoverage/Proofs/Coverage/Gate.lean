import Mathlib
import SeedCoverage.Proofs.Coverage.Room
import SeedCoverage.Proofs.Number.Rounding

/-! What a threshold asks for. Percentages are rounded before they are compared, so a threshold is
reached from half a percent below it on. Rounding to 53 bits moves that point a little: to the midpoint
of two neighbouring quotients, which depends on the threshold alone. -/
namespace SeedCoverage

open Fraction

/-- A part of one as a percentage. -/
def hundredfold (part : Fraction) : ℕ := (part.mul (ofNat 100)).toBinary.nearestUp

theorem hundredfold_mono {part part' : Fraction} (proper : 0 < part.denominator)
    (ordered : part.value ≤ part'.value) : hundredfold part ≤ hundredfold part' := by
  apply nearestUp_mono (denominator_toBinary_pos _) (denominator_toBinary_pos _)
  apply toBinary_mono (Nat.mul_pos proper Nat.one_pos)
  rw [value_mul, value_mul]
  exact mul_le_mul_of_nonneg_right ordered (value_nonneg _)

/-! ### Gates -/

variable {mark complete total : ℕ}

/-- The place of the last of 53 bits of a part that is half a percent below a mark. -/
def gatePlace (mark : ℕ) : ℕ := 53 + (200 / (2 * mark - 1)).log2

/-- The first of the parts about half a percent below a mark that comes to the mark, in units of the
last bit. -/
def gateBits (mark : ℕ) : ℕ :=
  let unit := 2 ^ gatePlace mark
  let near := nearestEven ⟨(2 * mark - 1) * unit, 200⟩
  if mark ≤ hundredfold ⟨near - 1, unit⟩ then near - 1
  else if mark ≤ hundredfold ⟨near, unit⟩ then near
  else near + 1

/-- Midway between the first part that comes to a mark and the one before it. -/
def gate (mark : ℕ) : ℚ := (gateBits mark - 1 / 2) / 2 ^ gatePlace mark

/-- The parts on both sides of a gate have 53 bits, and the mark lies between their percentages. -/
structure IsGate (mark bits place : ℕ) : Prop where
  enough : 2 ^ 52 < bits
  fits : bits ≤ 2 ^ 53
  reached : mark ≤ hundredfold ⟨bits, 2 ^ place⟩
  missed : hundredfold ⟨bits - 1, 2 ^ place⟩ < mark

theorem isGate (some : 0 < mark) (inside : mark ≤ 100) : IsGate mark (gateBits mark) (gatePlace mark) := by
  have table : ∀ less < 100, (2 ^ 52 < gateBits (less + 1) ∧ gateBits (less + 1) ≤ 2 ^ 53) ∧
      less + 1 ≤ hundredfold ⟨gateBits (less + 1), 2 ^ gatePlace (less + 1)⟩ ∧
      hundredfold ⟨gateBits (less + 1) - 1, 2 ^ gatePlace (less + 1)⟩ < less + 1 := by
    decide +kernel
  obtain ⟨less, rfl⟩ := Nat.exists_eq_add_one.mpr some
  obtain ⟨⟨enough, fits⟩, reached, missed⟩ := table less inside
  exact ⟨enough, fits, reached, missed⟩

/-- The marks of which half a percent below is just missed. -/
def strictMarks : List ℕ := [15, 29, 57, 58]

theorem gate_near (some : 0 < mark) (inside : mark ≤ 100) :
    |gate mark - (2 * mark - 1) / 200| < 1 / 2 ^ 52 ∧
      (gate mark < (2 * mark - 1) / 200 ↔ mark ∉ strictMarks) := by
  have table : ∀ less < 100, |gate (less + 1) - (2 * less + 1) / 200| < 1 / 2 ^ 52 ∧
      (gate (less + 1) < (2 * less + 1) / 200 ↔ less + 1 ∉ strictMarks) := by
    decide +kernel
  obtain ⟨less, rfl⟩ := Nat.exists_eq_add_one.mpr some
  have half : (2 * (less + 1 : ℕ) - 1 : ℚ) = 2 * less + 1 := by push_cast; ring
  rw [half]
  exact table less inside

/-- A part is rounded to 53 bits and comes to a mark, if it lies above its gate. -/
theorem le_hundredfold_of_gate_lt {part : Fraction} (some : 0 < mark) (inside : mark ≤ 100)
    (above : gate mark < part.value) : mark ≤ hundredfold part.toBinary := by
  obtain ⟨enough, fits, reached, -⟩ := isGate some inside
  apply reached.trans
  apply hundredfold_mono (Nat.two_pow_pos _)
  have rounded := toBinary_ge_of_midpoint_lt (gatePlace mark) enough fits
    (by rwa [zpow_natCast])
  simpa [value] using rounded

theorem hundredfold_lt_of_lt_gate {part : Fraction} (proper : 0 < part.denominator) (some : 0 < mark)
    (inside : mark ≤ 100) (below : part.value < gate mark) : hundredfold part.toBinary < mark := by
  obtain ⟨enough, fits, -, missed⟩ := isGate some inside
  apply lt_of_le_of_lt _ missed
  apply hundredfold_mono (denominator_toBinary_pos _)
  have rounded := toBinary_le_of_lt_midpoint (gatePlace mark) proper enough fits
    (by rwa [zpow_natCast])
  simpa [value] using rounded

/-- A gate has more bits behind the point than a quotient of 53-bit numbers can have. -/
theorem gate_ne_quotient (some : 0 < total) (small : total < 2 ^ 53) :
    gate mark ≠ (complete : ℚ) / total := by
  intro same
  rw [gate, div_eq_div_iff (by positivity) (by positivity)] at same
  have whole : (2 * gateBits mark - 1 : ℤ) * total = complete * 2 ^ (gatePlace mark + 1) := by
    have : (2 * gateBits mark - 1 : ℚ) * total = complete * 2 ^ (gatePlace mark + 1) := by
      rw [pow_succ]
      linarith
    exact_mod_cast this
  have odd : IsCoprime (2 ^ (gatePlace mark + 1)) (2 * gateBits mark - 1 : ℤ) :=
    IsCoprime.pow_left ⟨gateBits mark, -1, by ring⟩
  have power : (2 : ℤ) ^ (gatePlace mark + 1) ≤ total :=
    Int.le_of_dvd (by exact_mod_cast some) (odd.dvd_of_dvd_mul_left (whole ▸ dvd_mul_left _ _))
  have least : 2 ^ 53 ≤ 2 ^ (gatePlace mark + 1) := by
    apply Nat.pow_le_pow_right Nat.two_pos
    rw [gatePlace]
    omega
  have : 2 ^ (gatePlace mark + 1) ≤ total := by exact_mod_cast power
  omega

/-- The percentage comes to a mark just where the quotient lies above the gate. -/
theorem le_percent_iff (bounded : complete ≤ total) (some : 0 < total) (small : total < 2 ^ 53)
    (positive : 0 < mark) (inside : mark ≤ 100) :
    mark ≤ percent complete total ↔ gate mark < complete / total := by
  have whole : (ofNat total).toBinary.value = total := value_toBinary_ofNat small
  have part : (ofNat complete).toBinary.value = complete :=
    value_toBinary_ofNat (bounded.trans_lt small)
  have quotient : ((ofNat complete).toBinary.div (ofNat total).toBinary).value = complete / total := by
    rw [value_div, part, whole]
  have proper : 0 < ((ofNat complete).toBinary.div (ofNat total).toBinary).denominator :=
    denominator_div_pos (denominator_toBinary_pos _) (by rw [whole]; exact_mod_cast some)
  have unlimited : mark ≤ percentLimit := inside.trans (by decide)
  rw [percent, if_neg some.ne', le_min_iff, and_iff_left unlimited, ← quotient]
  constructor
  · intro reached
    by_contra below
    have other : gate mark ≠ _ := quotient ▸ gate_ne_quotient some small
    have missed := hundredfold_lt_of_lt_gate proper positive inside
      (lt_of_le_of_ne (le_of_not_gt below) other.symm)
    exact missed.not_ge reached
  · exact le_hundredfold_of_gate_lt positive inside

/-! ### Thresholds of a run -/

theorem Report.percent_eq (report : Report)
    (sound : ∀ row ∈ report.rows, row.count.complete ≤ row.count.total)
    (small : (report.rows.map fun row => row.count.total.toNat).sum < UInt64.size) :
    report.percent = SeedCoverage.percent (report.rows.map fun row => row.count.complete.toNat).sum
      (report.rows.map fun row => row.count.total.toNat).sum := by
  have each : ∀ count ∈ report.rows.map TableCount.count, count.complete.toNat ≤ count.total.toNat := by
    intro count member
    obtain ⟨row, present, rfl⟩ := List.mem_map.mp member
    exact UInt64.le_iff_toNat_le.mp (sound row present)
  have room : Count.Room {} (report.rows.map TableCount.count) := by
    rw [Count.room_iff (Nat.le_refl _) each, List.map_map]
    exact (Nat.zero_add _).trans_lt small
  obtain ⟨whole, part⟩ := Count.toNat_foldl_plus room
  rw [List.map_map] at whole part
  rw [Report.percent, Count.percent]
  congr 1
  · exact part.trans (Nat.zero_add _)
  · exact whole.trans (Nat.zero_add _)

theorem exitCode_eq_zero_iff (reached : ℕ) : exitCode reached (some mark) = 0 ↔ mark ≤ reached := by
  simp [exitCode]

theorem sum_complete_le {rows : List TableCount}
    (sound : ∀ row ∈ rows, row.count.complete ≤ row.count.total) :
    (rows.map fun row => row.count.complete.toNat).sum ≤
      (rows.map fun row => row.count.total.toNat).sum := by
  apply List.sum_le_sum
  intro row member
  exact UInt64.le_iff_toNat_le.mp (sound row member)

theorem gate_lt_of_le (some : 0 < total) (positive : 0 < mark) (inside : mark ≤ 100)
    (enough : mark * total ≤ 100 * complete) : gate mark < complete / total := by
  have near := (abs_lt.mp (gate_near positive inside).1).2
  have enough : (mark : ℚ) / 100 ≤ complete / total := by
    rw [div_le_div_iff₀ (by norm_num) (by exact_mod_cast some), mul_comm (complete : ℚ)]
    exact_mod_cast enough
  linarith

/-- Quotients of short numbers do not come closer to half a percent than a gate does. -/
theorem gate_lt_iff (some : 0 < total) (short : total ≤ 2 ^ 44) (positive : 0 < mark)
    (inside : mark ≤ 100) :
    gate mark < complete / total ↔
      if mark ∈ strictMarks then (2 * mark - 1) * total < 200 * complete
      else (2 * mark - 1) * total ≤ 200 * complete := by
  obtain ⟨near, half⟩ := gate_near positive inside
  obtain ⟨low, high⟩ := abs_lt.mp near
  have some : (0 : ℚ) < total := by exact_mod_cast some
  have short : (total : ℚ) ≤ 2 ^ 44 := by exact_mod_cast short
  have cast : ((2 * mark - 1 : ℕ) : ℚ) = 2 * mark - 1 := by
    rw [Nat.cast_pred (by omega), Nat.cast_mul, Nat.cast_two]
  have low := mul_lt_mul_of_pos_right low some
  have high := mul_lt_mul_of_pos_right high some
  rcases Nat.lt_trichotomy ((2 * mark - 1) * total) (200 * complete) with more | same | less
  · have apart : (2 * mark - 1 : ℚ) * total + 1 ≤ 200 * complete := by
      rw [← cast]
      exact_mod_cast more
    have above : gate mark < complete / total := by
      rw [lt_div_iff₀ some]
      linarith
    simp only [above, more, more.le, ite_self]
  · have exact : (complete : ℚ) / total = (2 * mark - 1) / 200 := by
      rw [div_eq_div_iff some.ne' (by norm_num), ← cast, mul_comm (complete : ℚ)]
      exact_mod_cast same.symm
    rw [exact, half, same]
    simp
  · have apart : 200 * (complete : ℚ) + 1 ≤ (2 * mark - 1) * total := by
      rw [← cast]
      exact_mod_cast less
    have below : ¬gate mark < complete / total := by
      rw [lt_div_iff₀ some]
      linarith
    simp only [below, less.not_gt, less.not_ge, ite_self]

/-- A run passes a threshold just where the quotient of its rows lies above the gate of the threshold,
which is half a percent below it but for less than 2^-52. So a run passes that comes to its threshold.
If there are no more than 2^44 rows, one passes just where it comes to half a percent below, and at four
thresholds only where it comes to more than that. -/
theorem threshold_passed_iff (rows : List TableCount) (mark : ℕ)
    (sound : ∀ row ∈ rows, row.count.complete ≤ row.count.total)
    (counted : 0 < (rows.map fun row => row.count.total.toNat).sum)
    (small : (rows.map fun row => row.count.total.toNat).sum < 2 ^ 53) (inside : mark ≤ 100) :
    let complete : ℕ := (rows.map fun row => row.count.complete.toNat).sum
    let total : ℕ := (rows.map fun row => row.count.total.toNat).sum
    let code := exitCode ({ source := .files, rows } : Report).percent (some mark)
    (code = 0 ↔ mark = 0 ∨ gate mark < complete / total) ∧
      (0 < mark → |gate mark - (2 * mark - 1) / 200| < 1 / 2 ^ 52) ∧
      (mark * total ≤ 100 * complete → code = 0) ∧
      (total ≤ 2 ^ 44 → (code = 0 ↔
        if mark ∈ strictMarks then (2 * mark - 1) * total < 200 * complete
        else (2 * mark - 1) * total ≤ 200 * complete)) := by
  intro complete total code
  have percentage := Report.percent_eq { source := .files, rows } sound (small.trans (by decide))
  have passes : code = 0 ↔ mark ≤ percent complete total := by
    rw [← percentage]
    exact exitCode_eq_zero_iff _
  rw [passes]
  rcases Nat.eq_zero_or_pos mark with rfl | positive
  · simp [strictMarks]
  · have above := le_percent_iff (sum_complete_le sound) counted small positive inside
    refine ⟨?_, fun _ => (gate_near positive inside).1, ?_, ?_⟩
    · rw [above, or_iff_right positive.ne']
    · intro enough
      exact above.mpr (gate_lt_of_le counted positive inside enough)
    · intro short
      exact above.trans (gate_lt_iff counted short positive inside)

/-- Items and badges of which 29 in two hundred are complete: half a percent below fifteen. -/
def scarcelyComplete : List TableCount :=
  [⟨⟨"Items", "items", ["name"], none⟩, ⟨150, 20⟩⟩, ⟨⟨"Badges", "badges", ["title"], none⟩, ⟨50, 9⟩⟩]

theorem scarcelyComplete_fails :
    (∀ row ∈ scarcelyComplete, row.count.complete ≤ row.count.total) ∧
      0 < (scarcelyComplete.map fun row => row.count.total.toNat).sum ∧
      (scarcelyComplete.map fun row => row.count.total.toNat).sum < 2 ^ 53 ∧
      exitCode ({ source := .files, rows := scarcelyComplete } : Report).percent (some 15) ≠ 0 := by
  have sound : ∀ row ∈ scarcelyComplete, row.count.complete ≤ row.count.total := by decide
  have some : 0 < (scarcelyComplete.map fun row => row.count.total.toNat).sum := by decide
  have small : (scarcelyComplete.map fun row => row.count.total.toNat).sum < 2 ^ 53 := by decide
  refine ⟨sound, some, small, ?_⟩
  intro passed
  obtain ⟨-, -, -, short⟩ := threshold_passed_iff scarcelyComplete 15 sound some small (by decide)
  exact absurd ((short (by decide)).mp passed) (by decide)

/-- Two hundred items of which one has no name. -/
def nearlyComplete : List TableCount := [⟨⟨"Items", "items", ["name"], none⟩, ⟨200, 199⟩⟩]

/-- They come to a hundred percent. -/
theorem nearlyComplete_passes :
    (∀ row ∈ nearlyComplete, row.count.complete ≤ row.count.total) ∧
      0 < (nearlyComplete.map fun row => row.count.total.toNat).sum ∧
      (nearlyComplete.map fun row => row.count.total.toNat).sum < 2 ^ 53 ∧
      exitCode ({ source := .files, rows := nearlyComplete } : Report).percent (some 100) = 0 ∧
      ¬100 * (nearlyComplete.map fun row => row.count.total.toNat).sum ≤
        100 * (nearlyComplete.map fun row => row.count.complete.toNat).sum := by
  decide +kernel

end SeedCoverage
