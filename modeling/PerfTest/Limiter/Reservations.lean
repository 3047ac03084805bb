import Mathlib.Tactic.FieldSimp
import Mathlib.Tactic.Ring
import PerfTest.Limiter.SmoothRateLimiter

open PerfTestModel PerfTestModel.SmoothRateLimiter
open Systems (Rounding)

namespace PerfTestProof

theorem xor_neg (a b : ℤ) : Int.xor a b < 0 ↔ ¬ (a < 0 ↔ b < 0) := by
  cases a with
  | ofNat a =>
    cases b with
    | ofNat b =>
      simp only [Int.xor, Int.ofNat_eq_natCast]
      omega
    | negSucc b =>
      simp only [Int.xor, Int.ofNat_eq_natCast]
      omega
  | negSucc a =>
    cases b with
    | ofNat b =>
      simp only [Int.xor, Int.ofNat_eq_natCast]
      omega
    | negSucc b =>
      simp only [Int.xor]
      omega

theorem saturatedAdd_eq {a b : ℤ} (a_long : Java.long a = a) (b_long : Java.long b = b) :
    saturatedAdd a b = max Java.longMinValue (min Java.longMaxValue (a + b)) := by
  have a_range := Java.long_eq_self.mp a_long
  have b_range := Java.long_eq_self.mp b_long
  unfold saturatedAdd Java.longMaxValue Java.longMinValue
  simp only [← not_lt, xor_neg]
  by_cases fits : -2 ^ 63 ≤ a + b ∧ a + b < 2 ^ 63
  · rw [Java.long_eq_self.mpr fits, if_pos (by omega)]
    omega
  · rcases lt_or_ge (a + b) 0 with negative | positive
    · have wrapped : Java.long (a + b) = a + b + 2 ^ 64 := by
        rw [Java.long, ← Int.add_bmod_right]
        exact Int.bmod_eq_of_le (by omega) (by omega)
      rw [wrapped, if_neg (by omega), if_neg (by omega)]
      have least : Java.long (2 ^ 63 - 1 + Int.xor 0 1) = -2 ^ 63 := by decide
      omega
    · have wrapped : Java.long (a + b) = a + b - 2 ^ 64 := by
        rw [Java.long, ← Int.sub_bmod_right]
        exact Int.bmod_eq_of_le (by omega) (by omega)
      rw [wrapped, if_neg (by omega), if_pos (by omega)]
      have most : Java.long (2 ^ 63 - 1 + Int.xor 1 1) = 2 ^ 63 - 1 := by decide
      omega

theorem longOfDouble_floor {value : ℚ} (nonneg : 0 ≤ value) :
    Java.longOfDouble value = min Java.longMaxValue ⌊value⌋ := by
  have numerator : 0 ≤ value.num := Rat.num_nonneg.mpr nonneg
  have floor_nonneg : 0 ≤ ⌊value⌋ := Int.floor_nonneg.mpr nonneg
  have floor_eq : value.num.tdiv value.den = ⌊value⌋ := by
    rw [Int.tdiv_eq_ediv_of_nonneg numerator, Rat.floor_def']
  rw [Java.longOfDouble, floor_eq]
  unfold Java.longMaxValue Java.longMinValue
  omega

theorem longOfDouble_range {value : ℚ} (nonneg : 0 ≤ value) :
    0 ≤ Java.longOfDouble value ∧ Java.longOfDouble value ≤ Java.longMaxValue := by
  have floor_nonneg : 0 ≤ ⌊value⌋ := Int.floor_nonneg.mpr nonneg
  rw [longOfDouble_floor nonneg]
  unfold Java.longMaxValue
  omega

theorem longOfDouble_le {value : ℚ} (nonneg : 0 ≤ value) : (Java.longOfDouble value : ℚ) ≤ value := by
  rw [longOfDouble_floor nonneg]
  have least : min Java.longMaxValue ⌊value⌋ ≤ ⌊value⌋ := min_le_right _ _
  calc ((min Java.longMaxValue ⌊value⌋ : ℤ) : ℚ) ≤ ⌊value⌋ := by exact_mod_cast least
    _ ≤ value := Int.floor_le value

theorem lt_longOfDouble_add_one {value : ℚ} (nonneg : 0 ≤ value) (less : Java.longOfDouble value < Java.longMaxValue) :
    value < Java.longOfDouble value + 1 := by
  rw [longOfDouble_floor nonneg] at less ⊢
  have floor_eq : min Java.longMaxValue ⌊value⌋ = ⌊value⌋ := by omega
  rw [floor_eq]
  exact Int.lt_floor_add_one value

structure Bursty (double : Rounding) (limiter : SmoothRateLimiter) : Prop where
  subclass : ∃ own, limiter.subclass = .bursty own
  stored_nonneg : 0 ≤ limiter.storedPermits
  stored_le : limiter.storedPermits ≤ limiter.maxPermits
  max_double : double limiter.maxPermits = limiter.maxPermits
  stable_pos : 0 < limiter.stableIntervalMicros
  next_nonneg : 0 ≤ limiter.nextFreeTicketMicros
  next_le : limiter.nextFreeTicketMicros ≤ Java.longMaxValue

namespace Bursty

variable {double : Rounding} {limiter : SmoothRateLimiter} {permits nowMicros : ℤ}

theorem max_nonneg (bursty : Bursty double limiter) : 0 ≤ limiter.maxPermits :=
  bursty.stored_nonneg.trans bursty.stored_le

theorem coolDown (bursty : Bursty double limiter) :
    limiter.coolDownIntervalMicros double = limiter.stableIntervalMicros := by
  obtain ⟨own, subclass⟩ := bursty.subclass
  simp [coolDownIntervalMicros, subclass]

theorem waitTime (bursty : Bursty double limiter) (storedPermits permitsToTake : ℚ) :
    limiter.storedPermitsToWaitTime double storedPermits permitsToTake = 0 := by
  obtain ⟨own, subclass⟩ := bursty.subclass
  simp [SmoothRateLimiter.storedPermitsToWaitTime, subclass]

def gain (double : Rounding) (limiter : SmoothRateLimiter) (nowMicros : ℤ) : ℚ :=
  double (double ((nowMicros - limiter.nextFreeTicketMicros : ℤ) : ℚ) / limiter.stableIntervalMicros)

theorem resync_eq (bursty : Bursty double limiter) (reading : nowMicros ≤ Java.longMaxValue) :
    limiter.resync double nowMicros =
      if limiter.nextFreeTicketMicros < nowMicros then
        { limiter with
          storedPermits := min limiter.maxPermits (double (limiter.storedPermits + gain double limiter nowMicros))
          nextFreeTicketMicros := nowMicros }
      else limiter := by
  unfold resync
  split
  · rename_i late
    have first := bursty.next_nonneg
    unfold Java.longMaxValue at reading
    have exact : Java.long (nowMicros - limiter.nextFreeTicketMicros) = nowMicros - limiter.nextFreeTicketMicros :=
      Java.long_eq_self.mpr (by omega)
    simp only [bursty.coolDown, exact, gain]
  · rfl

theorem gain_nonneg (bursty : Bursty double limiter) (late : limiter.nextFreeTicketMicros < nowMicros) :
    0 ≤ gain double limiter nowMicros := by
  have elapsed : (0 : ℚ) ≤ ((nowMicros - limiter.nextFreeTicketMicros : ℤ) : ℚ) :=
    Int.cast_nonneg (sub_nonneg.mpr late.le)
  exact double.round_nonneg (div_nonneg (double.round_nonneg elapsed) bursty.stable_pos.le)

theorem resync_next (bursty : Bursty double limiter) (reading : nowMicros ≤ Java.longMaxValue) :
    (limiter.resync double nowMicros).nextFreeTicketMicros = max limiter.nextFreeTicketMicros nowMicros := by
  rw [bursty.resync_eq reading]
  split
  · rename_i late
    exact (max_eq_right late.le).symm
  · rename_i early
    exact (max_eq_left (not_lt.mp early)).symm

@[simp] theorem resync_max : (limiter.resync double nowMicros).maxPermits = limiter.maxPermits := by
  unfold resync
  split <;> rfl

@[simp] theorem resync_stable :
    (limiter.resync double nowMicros).stableIntervalMicros = limiter.stableIntervalMicros := by
  unfold resync
  split <;> rfl

@[simp] theorem resync_subclass : (limiter.resync double nowMicros).subclass = limiter.subclass := by
  unfold resync
  split <;> rfl

theorem resync (bursty : Bursty double limiter) (reading : nowMicros ≤ Java.longMaxValue) :
    Bursty double (limiter.resync double nowMicros) where
  subclass := by
    rw [resync_subclass]
    exact bursty.subclass
  stored_nonneg := by
    rw [bursty.resync_eq reading]
    split
    · rename_i late
      exact le_min bursty.max_nonneg (double.round_nonneg (add_nonneg bursty.stored_nonneg (bursty.gain_nonneg late)))
    · exact bursty.stored_nonneg
  stored_le := by
    rw [resync_max, bursty.resync_eq reading]
    split
    · exact min_le_left _ _
    · exact bursty.stored_le
  max_double := by
    rw [resync_max]
    exact bursty.max_double
  stable_pos := by
    rw [resync_stable]
    exact bursty.stable_pos
  next_nonneg := by
    rw [bursty.resync_next reading]
    exact le_max_of_le_left bursty.next_nonneg
  next_le := by
    rw [bursty.resync_next reading]
    exact max_le bursty.next_le reading

def wait (double : Rounding) (ready : SmoothRateLimiter) (permits : ℤ) : ℤ :=
  Java.longOfDouble
    (double (double (permits - min (permits : ℚ) ready.storedPermits) * ready.stableIntervalMicros))

theorem charged_nonneg (ready : Bursty double limiter) (permits : ℤ) :
    0 ≤ double (double (permits - min (permits : ℚ) limiter.storedPermits) * limiter.stableIntervalMicros) := by
  have rest : 0 ≤ (permits : ℚ) - min (permits : ℚ) limiter.storedPermits := sub_nonneg.mpr (min_le_left _ _)
  exact double.round_nonneg (mul_nonneg (double.round_nonneg rest) ready.stable_pos.le)

theorem wait_range (ready : Bursty double limiter) (permits : ℤ) :
    0 ≤ wait double limiter permits ∧ wait double limiter permits ≤ Java.longMaxValue :=
  longOfDouble_range (ready.charged_nonneg permits)

theorem reserved_eq (bursty : Bursty double limiter) (permits : ℤ) (reading : nowMicros ≤ Java.longMaxValue) :
    limiter.reserved double permits nowMicros =
      let ready := limiter.resync double nowMicros
      { ready with
        nextFreeTicketMicros := min Java.longMaxValue (ready.nextFreeTicketMicros + wait double ready permits)
        storedPermits := double (ready.storedPermits - min (permits : ℚ) ready.storedPermits) } := by
  have ready := bursty.resync reading
  have range := ready.wait_range permits
  have first := ready.next_nonneg
  have last := ready.next_le
  unfold Java.longMaxValue at range last
  have wait_long : Java.long (wait double (limiter.resync double nowMicros) permits) =
      wait double (limiter.resync double nowMicros) permits := Java.long_eq_self.mpr (by omega)
  have sum : saturatedAdd (limiter.resync double nowMicros).nextFreeTicketMicros
      (wait double (limiter.resync double nowMicros) permits) =
        min Java.longMaxValue ((limiter.resync double nowMicros).nextFreeTicketMicros +
          wait double (limiter.resync double nowMicros) permits) := by
    rw [saturatedAdd_eq (Java.long_eq_self.mpr (by omega)) wait_long]
    unfold Java.longMaxValue Java.longMinValue
    omega
  unfold reserved reserveEarliestAvailable
  simp only [ready.waitTime, zero_add]
  rw [← sum, ← wait_long]
  rfl

@[simp] theorem reserved_max : (limiter.reserved double permits nowMicros).maxPermits = limiter.maxPermits :=
  resync_max

@[simp] theorem reserved_stable :
    (limiter.reserved double permits nowMicros).stableIntervalMicros = limiter.stableIntervalMicros :=
  resync_stable

theorem reserved (bursty : Bursty double limiter) (reading : nowMicros ≤ Java.longMaxValue) (positive : 0 < permits) :
    Bursty double (limiter.reserved double permits nowMicros) := by
  have ready := bursty.resync reading
  have wait_nonneg := (ready.wait_range permits).1
  have first := ready.next_nonneg
  have rest : 0 ≤ (limiter.resync double nowMicros).storedPermits -
      min (permits : ℚ) (limiter.resync double nowMicros).storedPermits := sub_nonneg.mpr (min_le_right _ _)
  have rounded := bursty.reserved_eq permits reading
  refine ⟨?_, ?_, ?_, ?_, ?_, ?_, ?_⟩
  · rw [rounded]
    exact ready.subclass
  · rw [rounded]
    exact double.round_nonneg rest
  · rw [reserved_max, ← bursty.max_double, rounded]
    apply double.monotone rest
    have spent : 0 ≤ min (permits : ℚ) (limiter.resync double nowMicros).storedPermits :=
      le_min (by exact_mod_cast positive.le) ready.stored_nonneg
    have most := ready.stored_le
    rw [resync_max] at most
    linarith
  · rw [reserved_max]
    exact bursty.max_double
  · rw [reserved_stable]
    exact bursty.stable_pos
  · rw [rounded]
    unfold Java.longMaxValue
    dsimp only
    omega
  · rw [rounded]
    exact min_le_left _ _

theorem ready_le_reserved (bursty : Bursty double limiter) (permits : ℤ) (reading : nowMicros ≤ Java.longMaxValue) :
    (limiter.resync double nowMicros).nextFreeTicketMicros ≤
      (limiter.reserved double permits nowMicros).nextFreeTicketMicros := by
  have ready := bursty.resync reading
  have wait_nonneg := (ready.wait_range permits).1
  have last := ready.next_le
  rw [bursty.reserved_eq permits reading]
  dsimp only
  omega

theorem next_le_reserved (bursty : Bursty double limiter) (permits : ℤ) (reading : nowMicros ≤ Java.longMaxValue) :
    limiter.nextFreeTicketMicros ≤ (limiter.reserved double permits nowMicros).nextFreeTicketMicros := by
  have reserved := bursty.ready_le_reserved permits reading
  have synced := bursty.resync_next reading
  omega

def interval (double : Rounding) (limiter : SmoothRateLimiter) : ℚ :=
  (1 - double.unit) ^ 2 * limiter.stableIntervalMicros

theorem interval_pos (bursty : Bursty double limiter) : 0 < interval double limiter := by
  have less := double.unit_lt_one
  exact mul_pos (pow_pos (by linarith) 2) bursty.stable_pos

def level (double : Rounding) (limiter : SmoothRateLimiter) : ℚ :=
  interval double limiter * limiter.storedPermits - limiter.nextFreeTicketMicros

theorem gain_le (bursty : Bursty double limiter) (late : limiter.nextFreeTicketMicros < nowMicros) :
    interval double limiter * gain double limiter nowMicros ≤ nowMicros - limiter.nextFreeTicketMicros := by
  have unit_nonneg := double.unit_nonneg
  have unit_less := double.unit_lt_one
  have stable_pos := bursty.stable_pos
  set elapsed : ℚ := ((nowMicros - limiter.nextFreeTicketMicros : ℤ) : ℚ) with elapsed_eq
  have elapsed_nonneg : 0 ≤ elapsed := Int.cast_nonneg (sub_nonneg.mpr late.le)
  have converted := double.round_le elapsed_nonneg
  have converted_nonneg := double.round_nonneg elapsed_nonneg
  have divided := double.round_le (div_nonneg converted_nonneg stable_pos.le)
  have gained : gain double limiter nowMicros * limiter.stableIntervalMicros ≤ (1 + double.unit) ^ 2 * elapsed :=
    calc gain double limiter nowMicros * limiter.stableIntervalMicros
        ≤ (1 + double.unit) * (double elapsed / limiter.stableIntervalMicros) * limiter.stableIntervalMicros :=
          mul_le_mul_of_nonneg_right divided stable_pos.le
      _ = (1 + double.unit) * double elapsed := by field_simp
      _ ≤ (1 + double.unit) * ((1 + double.unit) * elapsed) := mul_le_mul_of_nonneg_left converted (by linarith)
      _ = (1 + double.unit) ^ 2 * elapsed := by ring
  have squares : ((1 - double.unit) * (1 + double.unit)) ^ 2 ≤ 1 := by
    apply pow_le_one₀ (mul_nonneg (by linarith) (by linarith))
    nlinarith
  calc interval double limiter * gain double limiter nowMicros
      = (1 - double.unit) ^ 2 * (gain double limiter nowMicros * limiter.stableIntervalMicros) := by
        rw [interval]
        ring
    _ ≤ (1 - double.unit) ^ 2 * ((1 + double.unit) ^ 2 * elapsed) :=
        mul_le_mul_of_nonneg_left gained (sq_nonneg _)
    _ = ((1 - double.unit) * (1 + double.unit)) ^ 2 * elapsed := by ring
    _ ≤ 1 * elapsed := mul_le_mul_of_nonneg_right squares elapsed_nonneg
    _ = nowMicros - limiter.nextFreeTicketMicros := by
        rw [one_mul, elapsed_eq]
        push_cast
        rfl

/-- `resync` gives no more permits than the time it moves on for. -/
theorem resync_level (bursty : Bursty double limiter) (reading : nowMicros ≤ Java.longMaxValue) :
    level double (limiter.resync double nowMicros) ≤
      level double limiter + interval double limiter * (double.unit * limiter.maxPermits) := by
  have positive := bursty.interval_pos
  have slack : 0 ≤ double.unit * limiter.maxPermits := mul_nonneg double.unit_nonneg bursty.max_nonneg
  have same : interval double (limiter.resync double nowMicros) = interval double limiter := by
    rw [interval, resync_stable, interval]
  rw [level, level, same, bursty.resync_eq reading]
  split
  · rename_i late
    have gained := bursty.gain_le late
    have sum_nonneg := add_nonneg bursty.stored_nonneg (bursty.gain_nonneg late)
    have stored := double.min_round_le limiter.maxPermits sum_nonneg
    have scaled := mul_le_mul_of_nonneg_left stored positive.le
    dsimp only
    linarith
  · have scaled := mul_nonneg positive.le slack
    linarith

theorem wait_bound (ready : Bursty double limiter) (permits : ℤ)
    (less : wait double limiter permits < Java.longMaxValue) :
    interval double limiter * (permits - min (permits : ℚ) limiter.storedPermits) <
      wait double limiter permits + 1 := by
  have unit_less := double.unit_lt_one
  set rest : ℚ := permits - min (permits : ℚ) limiter.storedPermits with rest_eq
  have rest_nonneg : 0 ≤ rest := sub_nonneg.mpr (min_le_left _ _)
  have fresh := double.le_round rest_nonneg
  have product_nonneg := mul_nonneg (double.round_nonneg rest_nonneg) ready.stable_pos.le
  have charged := double.le_round product_nonneg
  calc interval double limiter * rest
      = (1 - double.unit) * ((1 - double.unit) * rest * limiter.stableIntervalMicros) := by
        rw [interval]
        ring
    _ ≤ (1 - double.unit) * (double rest * limiter.stableIntervalMicros) := by
        apply mul_le_mul_of_nonneg_left _ (by linarith)
        exact mul_le_mul_of_nonneg_right fresh ready.stable_pos.le
    _ ≤ double (double rest * limiter.stableIntervalMicros) := charged
    _ < wait double limiter permits + 1 := lt_longOfDouble_add_one (ready.charged_nonneg permits) less

/-- A reservation pays its permits from those stored and from the time up to the next ticket, but for a
    microsecond that the cast to `long` drops. -/
theorem reserved_level (bursty : Bursty double limiter) (reading : nowMicros ≤ Java.longMaxValue)
    (positive : 0 < permits)
    (early : (limiter.reserved double permits nowMicros).nextFreeTicketMicros < Java.longMaxValue) :
    interval double limiter * permits + level double (limiter.reserved double permits nowMicros) ≤
      level double (limiter.resync double nowMicros) +
        interval double limiter * (double.unit * limiter.maxPermits) + 1 := by
  have ready := bursty.resync reading
  have interval_pos := bursty.interval_pos
  have same : interval double (limiter.reserved double permits nowMicros) = interval double limiter := by
    rw [interval, reserved_stable, interval]
  have same_ready : interval double (limiter.resync double nowMicros) = interval double limiter := by
    rw [interval, resync_stable, interval]
  have equal := bursty.reserved_eq permits reading
  set next := limiter.reserved double permits nowMicros
  set synced := limiter.resync double nowMicros with synced_eq
  have first := ready.next_nonneg
  have next_eq : next.nextFreeTicketMicros = synced.nextFreeTicketMicros + wait double synced permits := by
    have value : next.nextFreeTicketMicros =
      min Java.longMaxValue (synced.nextFreeTicketMicros + wait double synced permits) := by rw [equal]
    omega
  have paid := ready.wait_bound permits (by omega)
  have rest_nonneg : 0 ≤ synced.storedPermits - min (permits : ℚ) synced.storedPermits :=
    sub_nonneg.mpr (min_le_right _ _)
  have spent_nonneg : 0 ≤ min (permits : ℚ) synced.storedPermits :=
    le_min (by exact_mod_cast positive.le) ready.stored_nonneg
  have most := ready.stored_le
  rw [synced_eq, resync_max, ← synced_eq] at most
  have stored : next.storedPermits ≤ synced.storedPermits - min (permits : ℚ) synced.storedPermits +
      double.unit * limiter.maxPermits := by
    have value : next.storedPermits = double (synced.storedPermits - min (permits : ℚ) synced.storedPermits) := by
      rw [equal]
    rw [value]
    exact double.round_le_add rest_nonneg (by linarith)
  have scaled := mul_le_mul_of_nonneg_left stored interval_pos.le
  rw [same_ready] at paid
  rw [level, level, same, same_ready, next_eq]
  push_cast
  linarith

end Bursty

end PerfTestProof
