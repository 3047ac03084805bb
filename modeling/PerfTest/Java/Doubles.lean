import Mathlib.Data.Int.Log
import PerfTest.Java.Formatter
import PerfTest.Systems.Rounding

namespace Java

/-- The `double` nearest to a value that is zero or has the exponent of a normal one: 53 bits are kept. -/
def double (value : ℚ) : ℚ :=
  if value = 0 then 0
  else
    let last : ℚ := 2 ^ (Int.log 2 |value| - 52)
    roundHalfEven (value / last) * last

theorem roundHalfEven_intCast (value : ℤ) : roundHalfEven value = value := by
  simp [roundHalfEven]

theorem roundHalfEven_near (value : ℚ) : |(roundHalfEven value : ℚ) - value| ≤ 1 / 2 := by
  have below := Int.floor_le value
  have above := Int.lt_floor_add_one value
  rw [abs_le]
  simp only [roundHalfEven]
  split
  · rename_i half
    have less : value - ⌊value⌋ ≤ 1 / 2 := by
      rcases half with less | ⟨equal, -⟩
      · exact le_of_lt less
      · exact le_of_eq equal
    constructor <;> linarith
  · rename_i half
    have more : 1 / 2 ≤ value - ⌊value⌋ := by
      by_contra less
      exact half (Or.inl (not_le.mp less))
    push_cast
    constructor <;> linarith

theorem floor_le_roundHalfEven (value : ℚ) : ⌊value⌋ ≤ roundHalfEven value := by
  simp only [roundHalfEven]
  split <;> omega

theorem roundHalfEven_le_floor_add_one (value : ℚ) : roundHalfEven value ≤ ⌊value⌋ + 1 := by
  simp only [roundHalfEven]
  split <;> omega

theorem roundHalfEven_mono {smaller larger : ℚ} (less : smaller ≤ larger) :
    roundHalfEven smaller ≤ roundHalfEven larger := by
  rcases lt_or_eq_of_le (Int.floor_le_floor less) with below | same
  · have upper := roundHalfEven_le_floor_add_one smaller
    have lower := floor_le_roundHalfEven larger
    omega
  · simp only [roundHalfEven, same]
    split
    · split <;> omega
    · rename_i up
      rw [if_neg]
      intro down
      apply up
      rcases down with less' | ⟨equal, even⟩
      · exact Or.inl (by linarith)
      · rcases lt_or_eq_of_le less with less' | rfl
        · exact Or.inl (by linarith)
        · exact Or.inr ⟨equal, even⟩

theorem double_zero : double 0 = 0 := if_pos rfl

theorem double_near (value : ℚ) : |double value - value| ≤ 1 / 2 ^ 53 * |value| := by
  by_cases zero : value = 0
  · simp [zero, double_zero]
  · have positive : 0 < |value| := abs_pos.mpr zero
    have power : (2 : ℚ) ^ Int.log 2 |value| ≤ |value| := Int.zpow_log_le_self (by decide) positive
    rw [double, if_neg zero]
    set last : ℚ := 2 ^ (Int.log 2 |value| - 52) with last_eq
    have last_pos : 0 < last := zpow_pos two_pos _
    have close := roundHalfEven_near (value / last)
    have scaled : last = 2 ^ Int.log 2 |value| / 2 ^ 52 := by
      rw [last_eq, zpow_sub₀ (by norm_num)]
      norm_num
    calc |(roundHalfEven (value / last) : ℚ) * last - value|
        = |(roundHalfEven (value / last) : ℚ) - value / last| * last := by
          rw [← abs_of_pos last_pos, ← abs_mul, abs_of_pos last_pos, sub_mul, div_mul_cancel₀ _ last_pos.ne']
      _ ≤ 1 / 2 * last := mul_le_mul_of_nonneg_right close last_pos.le
      _ = 1 / 2 ^ 53 * 2 ^ Int.log 2 |value| := by rw [scaled]; ring
      _ ≤ 1 / 2 ^ 53 * |value| := mul_le_mul_of_nonneg_left power (by positivity)

theorem log_mul_zpow {part : ℚ} (positive : 0 < part) (exponent : ℤ) :
    Int.log 2 (part * 2 ^ exponent) = Int.log 2 part + exponent := by
  have two : (2 : ℚ) ≠ 0 := two_ne_zero
  have scaled : 0 < part * 2 ^ exponent := mul_pos positive (zpow_pos two_pos _)
  have least : (2 : ℚ) ^ Int.log 2 part ≤ part := Int.zpow_log_le_self (by decide) positive
  have less : part < (2 : ℚ) ^ (Int.log 2 part + 1) := Int.lt_zpow_succ_log_self (by decide) part
  apply le_antisymm
  · apply Int.lt_add_one_iff.mp
    apply (Int.lt_zpow_iff_log_lt (by decide) scaled).mp
    calc part * 2 ^ exponent < 2 ^ (Int.log 2 part + 1) * 2 ^ exponent :=
          mul_lt_mul_of_pos_right less (zpow_pos two_pos _)
      _ = 2 ^ (Int.log 2 part + exponent + 1) := by rw [← zpow_add₀ two]; ring_nf
  · apply (Int.zpow_le_iff_le_log (by decide) scaled).mp
    calc ((2 : ℕ) : ℚ) ^ (Int.log 2 part + exponent) = 2 ^ Int.log 2 part * 2 ^ exponent := zpow_add₀ two _ _
      _ ≤ part * 2 ^ exponent := mul_le_mul_of_nonneg_right least (zpow_pos two_pos _).le

/-- A number of 53 bits, or the power of two above them, is a multiple of the last of its 53 bits. -/
theorem shift_to_last {significand : ℤ} (nonzero : significand ≠ 0) (bits : |significand| ≤ 2 ^ 53) :
    ∃ quotient : ℤ, (significand : ℚ) * 2 ^ (52 - Int.log 2 |(significand : ℚ)|) = quotient := by
  have positive : 0 < |(significand : ℚ)| := abs_pos.mpr (Int.cast_ne_zero.mpr nonzero)
  have size : |(significand : ℚ)| ≤ 2 ^ 53 := by exact_mod_cast bits
  have bound : Int.log 2 |(significand : ℚ)| ≤ 53 := by
    have grows := Int.log_mono_right (b := 2) positive size
    have power : Int.log 2 ((2 : ℚ) ^ 53) = 53 := Int.log_zpow (R := ℚ) (by decide) 53
    rwa [power] at grows
  rcases lt_or_eq_of_le bound with less | equal
  · obtain ⟨shift, shift_eq⟩ := Int.eq_ofNat_of_zero_le (show 0 ≤ 52 - Int.log 2 |(significand : ℚ)| by omega)
    refine ⟨significand * 2 ^ shift, ?_⟩
    rw [shift_eq]
    push_cast
    rfl
  · have least : ((2 : ℕ) : ℚ) ^ Int.log 2 |(significand : ℚ)| ≤ |(significand : ℚ)| :=
      Int.zpow_log_le_self (by decide) positive
    rw [equal] at least
    have power : |(significand : ℚ)| = 2 ^ 53 := le_antisymm size (by exact_mod_cast least)
    rcases (abs_eq (by norm_num)).mp power with plus | minus
    · exact ⟨2 ^ 52, by rw [equal, plus]; norm_num⟩
    · exact ⟨-2 ^ 52, by rw [equal, minus]; norm_num⟩

/-- A number of at most 53 bits times a power of two is a `double`. -/
theorem double_mul_zpow {significand : ℤ} (bits : |significand| ≤ 2 ^ 53) (exponent : ℤ) :
    double (significand * 2 ^ exponent) = significand * 2 ^ exponent := by
  by_cases zero : significand = 0
  · simp [zero, double_zero]
  · have two : (2 : ℚ) ≠ 0 := two_ne_zero
    have power_pos : (0 : ℚ) < 2 ^ exponent := zpow_pos two_pos _
    have positive : 0 < |(significand : ℚ)| := abs_pos.mpr (Int.cast_ne_zero.mpr zero)
    have nonzero : (significand : ℚ) * 2 ^ exponent ≠ 0 := mul_ne_zero (Int.cast_ne_zero.mpr zero) power_pos.ne'
    have log : Int.log 2 |(significand : ℚ) * 2 ^ exponent| = Int.log 2 |(significand : ℚ)| + exponent := by
      rw [abs_mul, abs_of_pos power_pos, log_mul_zpow positive]
    have shifted : (significand : ℚ) * 2 ^ exponent / 2 ^ (Int.log 2 |(significand : ℚ)| + exponent - 52) =
        significand * 2 ^ (52 - Int.log 2 |(significand : ℚ)|) := by
      rw [mul_div_assoc, ← zpow_sub₀ two]
      ring_nf
    obtain ⟨quotient, quotient_eq⟩ := shift_to_last zero bits
    have quotient_eq := shifted.trans quotient_eq
    rw [double, if_neg nonzero]
    simp only [log, quotient_eq, roundHalfEven_intCast]
    rw [← quotient_eq, div_mul_cancel₀ _ (zpow_ne_zero _ two)]

theorem double_eq (value : ℚ) :
    ∃ significand exponent : ℤ, |significand| ≤ 2 ^ 53 ∧ double value = significand * 2 ^ exponent := by
  by_cases zero : value = 0
  · exact ⟨0, 0, by simp [zero, double_zero]⟩
  · refine ⟨roundHalfEven (value / 2 ^ (Int.log 2 |value| - 52)), Int.log 2 |value| - 52, ?_, if_neg zero⟩
    have last_pos : (0 : ℚ) < 2 ^ (Int.log 2 |value| - 52) := zpow_pos two_pos _
    have scaled : |value / 2 ^ (Int.log 2 |value| - 52)| < 2 ^ 53 := by
      rw [abs_div, abs_of_pos last_pos, div_lt_iff₀ last_pos]
      calc |value| < 2 ^ (Int.log 2 |value| + 1) := Int.lt_zpow_succ_log_self (by decide) _
        _ = 2 ^ (53 : ℤ) * 2 ^ (Int.log 2 |value| - 52) := by
          rw [← zpow_add₀ two_ne_zero]
          ring_nf
    have close := abs_le.mp (roundHalfEven_near (value / 2 ^ (Int.log 2 |value| - 52)))
    have range := abs_lt.mp scaled
    have upper : roundHalfEven (value / 2 ^ (Int.log 2 |value| - 52)) < 2 ^ 53 + 1 := by
      have : (roundHalfEven (value / 2 ^ (Int.log 2 |value| - 52)) : ℚ) < (2 ^ 53 + 1 : ℤ) := by
        push_cast
        linarith
      exact_mod_cast this
    have lower : -(2 ^ 53 + 1) < roundHalfEven (value / 2 ^ (Int.log 2 |value| - 52)) := by
      have : ((-(2 ^ 53 + 1) : ℤ) : ℚ) < (roundHalfEven (value / 2 ^ (Int.log 2 |value| - 52)) : ℚ) := by
        push_cast
        linarith
      exact_mod_cast this
    exact abs_le.mpr ⟨by omega, by omega⟩

section Positive

variable {value : ℚ} (positive : 0 < value)

include positive

theorem double_of_pos :
    double value = roundHalfEven (value / 2 ^ (Int.log 2 value - 52)) * 2 ^ (Int.log 2 value - 52) := by
  rw [double, if_neg positive.ne', abs_of_pos positive]

theorem zpow_log_le_double : 2 ^ Int.log 2 value ≤ double value := by
  have last_pos : (0 : ℚ) < 2 ^ (Int.log 2 value - 52) := zpow_pos two_pos _
  have power : ((2 : ℤ) ^ 52 : ℤ) ≤ roundHalfEven (value / 2 ^ (Int.log 2 value - 52)) := by
    rw [← roundHalfEven_intCast (2 ^ 52)]
    apply roundHalfEven_mono
    rw [le_div_iff₀ last_pos]
    calc (((2 : ℤ) ^ 52 : ℤ) : ℚ) * 2 ^ (Int.log 2 value - 52) = 2 ^ (52 : ℤ) * 2 ^ (Int.log 2 value - 52) := by
          norm_num
      _ = 2 ^ Int.log 2 value := by
          rw [← zpow_add₀ two_ne_zero]
          ring_nf
      _ ≤ value := Int.zpow_log_le_self (by decide) positive
  rw [double_of_pos positive]
  calc (2 : ℚ) ^ Int.log 2 value = 2 ^ (52 : ℤ) * 2 ^ (Int.log 2 value - 52) := by
        rw [← zpow_add₀ two_ne_zero]
        ring_nf
    _ ≤ roundHalfEven (value / 2 ^ (Int.log 2 value - 52)) * 2 ^ (Int.log 2 value - 52) := by
        apply mul_le_mul_of_nonneg_right _ last_pos.le
        exact_mod_cast power

theorem double_le_zpow_log : double value ≤ 2 ^ (Int.log 2 value + 1) := by
  have last_pos : (0 : ℚ) < 2 ^ (Int.log 2 value - 52) := zpow_pos two_pos _
  have power : roundHalfEven (value / 2 ^ (Int.log 2 value - 52)) ≤ ((2 : ℤ) ^ 53 : ℤ) := by
    rw [← roundHalfEven_intCast (2 ^ 53)]
    apply roundHalfEven_mono
    rw [div_le_iff₀ last_pos]
    calc value ≤ 2 ^ (Int.log 2 value + 1) := (Int.lt_zpow_succ_log_self (by decide) _).le
      _ = 2 ^ (53 : ℤ) * 2 ^ (Int.log 2 value - 52) := by
          rw [← zpow_add₀ two_ne_zero]
          ring_nf
      _ = (((2 : ℤ) ^ 53 : ℤ) : ℚ) * 2 ^ (Int.log 2 value - 52) := by norm_num
  rw [double_of_pos positive]
  calc (roundHalfEven (value / 2 ^ (Int.log 2 value - 52)) : ℚ) * 2 ^ (Int.log 2 value - 52)
      ≤ 2 ^ (53 : ℤ) * 2 ^ (Int.log 2 value - 52) := by
        apply mul_le_mul_of_nonneg_right _ last_pos.le
        exact_mod_cast power
    _ = 2 ^ (Int.log 2 value + 1) := by
        rw [← zpow_add₀ two_ne_zero]
        ring_nf

theorem double_mono_of_pos {larger : ℚ} (less : value ≤ larger) : double value ≤ double larger := by
  have larger_pos := positive.trans_le less
  rcases lt_or_eq_of_le (Int.log_mono_right (b := 2) positive less) with below | same
  · calc double value ≤ 2 ^ (Int.log 2 value + 1) := double_le_zpow_log positive
      _ ≤ 2 ^ Int.log 2 larger := zpow_le_zpow_right₀ one_le_two (by omega)
      _ ≤ double larger := zpow_log_le_double larger_pos
  · rw [double_of_pos positive, double_of_pos larger_pos, same]
    have last_pos : (0 : ℚ) < 2 ^ (Int.log 2 larger - 52) := zpow_pos two_pos _
    apply mul_le_mul_of_nonneg_right _ last_pos.le
    exact_mod_cast roundHalfEven_mono (div_le_div_of_nonneg_right less last_pos.le)

end Positive

theorem double_mono {smaller larger : ℚ} (nonneg : 0 ≤ smaller) (less : smaller ≤ larger) :
    double smaller ≤ double larger := by
  rcases eq_or_lt_of_le nonneg with rfl | positive
  · rcases eq_or_lt_of_le less with rfl | larger_pos
    · exact le_refl _
    · rw [double_zero]
      exact (zpow_pos two_pos _).le.trans (zpow_log_le_double larger_pos)
  · exact double_mono_of_pos positive less

theorem double_double (value : ℚ) : double (double value) = double value := by
  obtain ⟨significand, exponent, bits, equal⟩ := double_eq value
  rw [equal]
  exact double_mul_zpow bits exponent

theorem double_intCast {value : ℤ} (bits : |value| ≤ 2 ^ 53) : double value = value := by
  have exact := double_mul_zpow bits 0
  rwa [zpow_zero, mul_one] at exact

/-- The arithmetic of `double` as long as no result overflows or is subnormal. -/
def doubles : Systems.Rounding where
  round := double
  unit := 1 / 2 ^ 53
  unit_nonneg := by norm_num
  unit_lt_one := by norm_num
  near := double_near
  monotone := double_mono
  round_round := double_double
  round_one := by
    have one : double (1 : ℤ) = (1 : ℤ) := double_intCast (by norm_num)
    rwa [Int.cast_one] at one

end Java
