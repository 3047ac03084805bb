import Mathlib.Algebra.Order.Field.Rat
import Mathlib.Tactic.Linarith

namespace Systems

/-- The arithmetic of a machine: a value near the exact result of each operation takes its place. -/
structure Rounding where
  round : ℚ → ℚ
  unit : ℚ
  unit_nonneg : 0 ≤ unit
  unit_lt_one : unit < 1
  near : ∀ value, |round value - value| ≤ unit * |value|
  monotone : ∀ {smaller larger}, 0 ≤ smaller → smaller ≤ larger → round smaller ≤ round larger
  round_round : ∀ value, round (round value) = round value
  round_one : round 1 = 1

namespace Rounding

instance : CoeFun Rounding fun _ => ℚ → ℚ := ⟨round⟩

variable (rounding : Rounding) {value : ℚ}

theorem round_zero : rounding 0 = 0 := by
  have close := rounding.near 0
  rw [abs_zero, mul_zero, sub_zero] at close
  exact abs_nonpos_iff.mp close

theorem round_le (nonneg : 0 ≤ value) : rounding value ≤ (1 + rounding.unit) * value := by
  have close := (abs_le.mp (rounding.near value)).2
  rw [abs_of_nonneg nonneg] at close
  linarith

theorem le_round (nonneg : 0 ≤ value) : (1 - rounding.unit) * value ≤ rounding value := by
  have close := (abs_le.mp (rounding.near value)).1
  rw [abs_of_nonneg nonneg] at close
  linarith

theorem round_nonneg (nonneg : 0 ≤ value) : 0 ≤ rounding value := by
  have less := rounding.unit_lt_one
  have below := rounding.le_round nonneg
  have product : 0 ≤ (1 - rounding.unit) * value := mul_nonneg (by linarith) nonneg
  linarith

theorem round_pos (positive : 0 < value) : 0 < rounding value := by
  have less := rounding.unit_lt_one
  have below := rounding.le_round (le_of_lt positive)
  have product : 0 < (1 - rounding.unit) * value := mul_pos (by linarith) positive
  linarith

/-- Where a sum is kept below a bound, its rounding errs by a part of the bound. -/
theorem min_round_le (top : ℚ) (nonneg : 0 ≤ value) : min top (rounding value) ≤ value + rounding.unit * top := by
  have unit_nonneg := rounding.unit_nonneg
  rcases le_total value top with below | above
  · have rounded := rounding.round_le nonneg
    have part := mul_le_mul_of_nonneg_left below unit_nonneg
    have least := min_le_right top (rounding value)
    linarith
  · rcases le_total 0 top with positive | negative
    · have part := mul_nonneg unit_nonneg positive
      have least := min_le_left top (rounding value)
      linarith
    · have least := min_le_left top (rounding value)
      have less := rounding.unit_lt_one
      have part : (1 - rounding.unit) * top ≤ 0 := mul_nonpos_of_nonneg_of_nonpos (by linarith) negative
      linarith

theorem round_le_add {top : ℚ} (nonneg : 0 ≤ value) (below : value ≤ top) :
    rounding value ≤ value + rounding.unit * top := by
  have rounded := rounding.round_le nonneg
  have part := mul_le_mul_of_nonneg_left below rounding.unit_nonneg
  linarith

theorem sub_le_round {top : ℚ} (nonneg : 0 ≤ value) (below : value ≤ top) :
    value - rounding.unit * top ≤ rounding value := by
  have rounded := rounding.le_round nonneg
  have part := mul_le_mul_of_nonneg_left below rounding.unit_nonneg
  linarith

end Rounding

end Systems
