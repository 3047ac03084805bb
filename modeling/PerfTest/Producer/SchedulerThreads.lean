import PerfTest.Java.Doubles
import PerfTest.Metrics.ScenarioRates

namespace PerfTestModel

open Systems (Rounding)

structure SchedulingParams where
  producerThreadCount : ℤ
  producerSchedulerThreadCount : ℤ
  publishingInterval : Option ℤ
  deriving DecidableEq, Repr

def nbThreadsForProducerScheduledExecutorService (double : Rounding) (params : SchedulingParams) : ℤ :=
  if params.producerSchedulerThreadCount ≤ 0 then
    let publishingIntervalMs : ℚ := double (params.publishingInterval.getD 1000)
    let publishingIntervalSeconds := double (publishingIntervalMs / 1000)
    let rate := double (params.producerThreadCount / publishingIntervalSeconds)
    Java.int (Java.intOf (double (rate / 100)) + 1)
  else params.producerSchedulerThreadCount

end PerfTestModel

open PerfTestModel Systems

namespace PerfTestProof

def threadLoad (double : Rounding) (producers interval : ℚ) : ℚ :=
  double (double (producers / double (double interval / 1000)) / 100)

section

variable (double : Rounding) {producers interval : ℚ}

theorem round_between {value : ℚ} (nonneg : 0 ≤ value) :
    (1 - double.unit) * value ≤ double value ∧ double value ≤ (1 + double.unit) * value :=
  ⟨double.le_round nonneg, double.round_le nonneg⟩

/-- Four operations are rounded, two on each side. -/
theorem threadLoad_between (producers_nonneg : 0 ≤ producers) (interval_pos : 0 < interval) :
    0 ≤ threadLoad double producers interval ∧
      threadLoad double producers interval * interval * (1 - double.unit) ^ 2 ≤
        10 * producers * (1 + double.unit) ^ 2 ∧
      10 * producers * (1 - double.unit) ^ 2 ≤
        threadLoad double producers interval * interval * (1 + double.unit) ^ 2 := by
  have unit_nonneg := double.unit_nonneg
  have unit_less := double.unit_lt_one
  have lower : 0 ≤ 1 - double.unit := by linarith
  have upper : 0 ≤ 1 + double.unit := by linarith
  have millis := round_between double interval_pos.le
  have millis_pos := double.round_pos interval_pos
  set millis_ := double interval
  have seconds := round_between double (div_nonneg millis_pos.le (by norm_num : (0 : ℚ) ≤ 1000))
  have seconds_pos := double.round_pos (div_pos millis_pos (by norm_num : (0 : ℚ) < 1000))
  set seconds_ := double (millis_ / 1000)
  have rate := round_between double (div_nonneg producers_nonneg seconds_pos.le)
  have rate_nonneg := double.round_nonneg (div_nonneg producers_nonneg seconds_pos.le)
  have product : producers / seconds_ * seconds_ = producers := div_mul_cancel₀ _ seconds_pos.ne'
  set rate_ := double (producers / seconds_)
  have load := round_between double (div_nonneg rate_nonneg (by norm_num : (0 : ℚ) ≤ 100))
  have load_nonneg := double.round_nonneg (div_nonneg rate_nonneg (by norm_num : (0 : ℚ) ≤ 100))
  have load_eq : threadLoad double producers interval = double (rate_ / 100) := rfl
  rw [load_eq]
  set load_ := double (rate_ / 100)
  have intervals : interval * (1 - double.unit) ^ 2 ≤ 1000 * seconds_ ∧
      1000 * seconds_ ≤ interval * (1 + double.unit) ^ 2 := by
    have least := mul_le_mul_of_nonneg_left millis.1 lower
    have most := mul_le_mul_of_nonneg_left millis.2 upper
    constructor <;> linarith
  have rates : producers * (1 - double.unit) ≤ rate_ * seconds_ ∧
      rate_ * seconds_ ≤ producers * (1 + double.unit) := by
    have least := mul_le_mul_of_nonneg_right rate.1 seconds_pos.le
    have most := mul_le_mul_of_nonneg_right rate.2 seconds_pos.le
    rw [mul_assoc, product] at least most
    constructor <;> linarith
  have loads : producers * (1 - double.unit) ^ 2 ≤ 100 * load_ * seconds_ ∧
      100 * load_ * seconds_ ≤ producers * (1 + double.unit) ^ 2 := by
    have least := mul_le_mul_of_nonneg_right load.1 seconds_pos.le
    have most := mul_le_mul_of_nonneg_right load.2 seconds_pos.le
    have leastRate := mul_le_mul_of_nonneg_left rates.1 lower
    have mostRate := mul_le_mul_of_nonneg_left rates.2 upper
    constructor <;> linarith
  have least := mul_le_mul_of_nonneg_left intervals.1 load_nonneg
  have most := mul_le_mul_of_nonneg_left intervals.2 load_nonneg
  exact ⟨load_nonneg, by linarith, by linarith⟩

end

theorem intOf_floor {value : ℚ} (nonneg : 0 ≤ value) (less : value < 2 ^ 31) : Java.intOf value = ⌊value⌋ := by
  have quotient : value.num.tdiv value.den = ⌊value⌋ := by
    rw [Rat.floor_def', Int.tdiv_eq_ediv_of_nonneg (Rat.num_nonneg.mpr nonneg)]
  have lower : 0 ≤ ⌊value⌋ := Int.floor_nonneg.mpr nonneg
  have upper : ⌊value⌋ < 2 ^ 31 := Int.floor_lt.mpr (by exact_mod_cast less)
  rw [Java.intOf, quotient]
  omega

section

variable {producers interval : ℤ}

/-- The load is not off by so much that it would reach another integer. -/
theorem floor_threadLoad (producers_nonneg : 0 ≤ producers) (producers_int : producers < 2 ^ 31)
    (interval_pos : 0 < interval) :
    10 * producers ≤ interval * (⌊threadLoad Java.doubles producers interval⌋ + 1) ∧
      interval * ⌊threadLoad Java.doubles producers interval⌋ ≤ 10 * producers := by
  have nonneg : (0 : ℚ) ≤ producers := by exact_mod_cast producers_nonneg
  have positive : (0 : ℚ) < interval := by exact_mod_cast interval_pos
  have bound : (producers : ℚ) < 2 ^ 31 := by exact_mod_cast producers_int
  obtain ⟨-, most, least⟩ := threadLoad_between Java.doubles nonneg positive
  have below := Int.floor_le (threadLoad Java.doubles producers interval)
  have above := Int.lt_floor_add_one (threadLoad Java.doubles producers interval)
  rw [show Java.doubles.unit = 1 / 2 ^ 53 from rfl] at most least
  set floor := ⌊threadLoad Java.doubles producers interval⌋
  constructor
  · by_contra short
    have step : interval * (floor + 1) + 1 ≤ 10 * producers := by omega
    have step : (interval : ℚ) * (floor + 1) + 1 ≤ 10 * producers := by exact_mod_cast step
    have product := mul_lt_mul_of_pos_right above positive
    norm_num at least
    linarith
  · by_contra long
    have step : 10 * producers + 1 ≤ interval * floor := by omega
    have step : 10 * (producers : ℚ) + 1 ≤ interval * floor := by exact_mod_cast step
    have product := mul_le_mul_of_nonneg_right below positive.le
    norm_num at most
    linarith

end

/-- A thread of the scheduler has at most 100 messages a second to publish, and with one thread fewer each would have
    at least as many. -/
theorem scheduler_threads_suffice (params : SchedulingParams) (unset : params.producerSchedulerThreadCount ≤ 0)
    (producers : 0 ≤ params.producerThreadCount ∧ params.producerThreadCount < 2 ^ 31)
    (accepted : ∀ interval ∈ params.publishingInterval, 100 ≤ interval) :
    let threads := nbThreadsForProducerScheduledExecutorService Java.doubles params
    let interval := params.publishingInterval.getD 1000
    1000 * params.producerThreadCount ≤ 100 * threads * interval ∧
      100 * (threads - 1) * interval ≤ 1000 * params.producerThreadCount := by
  obtain ⟨count, own, given⟩ := params
  simp only at unset producers accepted ⊢
  have interval_ge : 100 ≤ given.getD 1000 := by
    cases given with
    | none => decide
    | some interval => exact accepted interval rfl
  set interval := given.getD 1000
  obtain ⟨enough, most⟩ := floor_threadLoad producers.1 producers.2 (by omega : 0 < interval)
  have nonneg := (threadLoad_between Java.doubles (by exact_mod_cast producers.1)
    (by exact_mod_cast (by omega : 0 < interval)) : 0 ≤ threadLoad Java.doubles count interval ∧ _).1
  have floor_nonneg := Int.floor_nonneg.mpr nonneg
  have product : 100 * ⌊threadLoad Java.doubles count interval⌋ ≤ interval * ⌊threadLoad Java.doubles count interval⌋ :=
    mul_le_mul_of_nonneg_right interval_ge floor_nonneg
  have small : threadLoad Java.doubles count interval < 2 ^ 31 := by
    have above := Int.lt_floor_add_one (threadLoad Java.doubles count interval)
    have floor_le : ⌊threadLoad Java.doubles count interval⌋ + 1 ≤ 2 ^ 31 := by omega
    exact lt_of_lt_of_le above (by exact_mod_cast floor_le)
  have threads : nbThreadsForProducerScheduledExecutorService Java.doubles ⟨count, own, given⟩ =
      ⌊threadLoad Java.doubles count interval⌋ + 1 := by
    rw [nbThreadsForProducerScheduledExecutorService, if_pos unset]
    change Java.int (Java.intOf (threadLoad Java.doubles count interval) + 1) = _
    rw [intOf_floor nonneg small]
    exact Java.int_eq_self.mpr (by omega)
  rw [threads]
  constructor <;> linarith

theorem scheduler_threads_suffice_thousand :
    1000 * 1000 ≤ 100 * nbThreadsForProducerScheduledExecutorService Java.doubles ⟨1000, -1, some 1000⟩ * 1000 :=
  (scheduler_threads_suffice ⟨1000, -1, some 1000⟩ (by decide) (by decide) (by simp)).1

end PerfTestProof
