import PerfTest.Limiter.Stopwatch
import PerfTest.Limiter.Throttled

open Systems (Rounding)

namespace PerfTestModel

open SmoothRateLimiter

inductive SleepLoop (origin finish : ℤ) : ℤ → ℤ → ℤ → Bool → Prop
  | slept {remainingNanos moment woken : ℤ} (whole : moment + max remainingNanos 0 ≤ woken) :
      SleepLoop origin finish remainingNanos moment woken false
  | interrupted {remainingNanos moment reading woken : ℤ} {again : Bool} (later : moment ≤ reading)
      (loop : SleepLoop origin finish (Java.long (finish - nanoTime origin reading)) reading woken again) :
      SleepLoop origin finish remainingNanos moment woken true

/-- `MICROSECONDS.toNanos`, which saturates. -/
def microsToNanos (micros : ℤ) : ℤ := max Java.longMinValue (min Java.longMaxValue (micros * 1000))

def SleepUninterruptibly (origin sleepFor moment woken : ℤ) (interrupts : Bool) : Prop :=
  let remainingNanos := microsToNanos sleepFor
  SleepLoop origin (Java.long (nanoTime origin moment + remainingNanos)) remainingNanos moment woken interrupts

def SleepMicrosUninterruptibly (origin micros moment woken : ℤ) : Prop :=
  if 0 < micros then ∃ interrupts, SleepUninterruptibly origin micros moment woken interrupts else moment ≤ woken

def readMicros (origin started moment : ℤ) : ℤ :=
  match Stopwatch.createUnstarted.start (nanoTime origin started) with
  | some stopwatch => stopwatch.elapsedMicros (nanoTime origin moment)
  | none => 0

/-- The moments at which the passes of one thread's loop get past `rateLimiterCallback.run()`, in nanoseconds and
    with all interrupts there may be. -/
inductive Looped (double : Rounding) (origin started : ℤ) : SmoothRateLimiter → ℤ → List ℤ → Prop
  | nil (limiter : SmoothRateLimiter) (moment : ℤ) : Looped double origin started limiter moment []
  | pass {limiter next : SmoothRateLimiter} {moment reading microsToWait sleeps woken : ℤ} {rest : List ℤ}
      (later : moment ≤ reading)
      (reserved : limiter.reserve double 1 (readMicros origin started reading) = .ok (microsToWait, next))
      (unlocked : reading ≤ sleeps) (slept : SleepMicrosUninterruptibly origin microsToWait sleeps woken)
      (loop : Looped double origin started next woken rest) :
      Looped double origin started limiter moment (woken :: rest)

end PerfTestModel

open PerfTestModel PerfTestModel.SmoothRateLimiter

namespace PerfTestProof

theorem long_finish (origin moment remainingNanos reading : ℤ) :
    Java.long (Java.long (nanoTime origin moment + remainingNanos) - nanoTime origin reading) =
      Java.long (moment + remainingNanos - reading) := by
  unfold nanoTime Java.long
  rw [Int.bmod_sub_bmod, Int.sub_bmod_bmod, Int.add_sub_assoc, Int.bmod_add_bmod]
  congr 1
  omega

/-- However often it is interrupted, the loop does not return before what it was asked to sleep is over. -/
theorem sleepLoop_whole {origin start sleepNanos remainingNanos moment woken : ℤ} {interrupts : Bool}
    (loop : SleepLoop origin (Java.long (nanoTime origin start + sleepNanos)) remainingNanos moment woken interrupts)
    (range : 0 ≤ sleepNanos ∧ sleepNanos ≤ Java.longMaxValue) (after : start ≤ moment)
    (left : remainingNanos = Java.long (start + sleepNanos - moment)) : start + sleepNanos ≤ woken := by
  induction loop with
  | @slept remainingNanos moment woken whole =>
    unfold Java.longMaxValue at range
    by_cases near : moment - (start + sleepNanos) ≤ 2 ^ 63
    · have exact : Java.long (start + sleepNanos - moment) = start + sleepNanos - moment :=
        Java.long_eq_self.mpr (by omega)
      omega
    · omega
  | interrupted later loop ih => exact ih (after.trans later) (long_finish ..)

theorem sleepUninterruptibly_whole {origin sleepFor moment woken : ℤ} {interrupts : Bool} (nonneg : 0 ≤ sleepFor)
    (slept : SleepUninterruptibly origin sleepFor moment woken interrupts) :
    moment + min Java.longMaxValue (sleepFor * 1000) ≤ woken := by
  have nanos : microsToNanos sleepFor = min Java.longMaxValue (sleepFor * 1000) := by
    unfold microsToNanos Java.longMaxValue Java.longMinValue
    omega
  unfold SleepUninterruptibly at slept
  rw [nanos] at slept
  unfold Java.longMaxValue at slept ⊢
  refine sleepLoop_whole slept (by unfold Java.longMaxValue; omega) (le_refl _) ?_
  rw [add_sub_cancel_left]
  exact (Java.long_eq_self.mpr (by omega)).symm

theorem readMicros_eq {origin started moment : ℤ} (order : started ≤ moment)
    (early : moment - started < Java.longMaxValue) : readMicros origin started moment = (moment - started) / 1000 := by
  unfold Java.longMaxValue at early
  have shown : ShowsTime origin ⟨true, 0, nanoTime origin started⟩ ⟨some started, 0⟩ :=
    ⟨rfl, rfl, fun since same => by cases same; rfl⟩
  have reading := shown.readNanos moment
  have time : (⟨some started, 0⟩ : RunningTime).elapsed moment = moment - started := zero_add _
  rw [time, Java.long_eq_self.mpr (by omega)] at reading
  rw [readMicros]
  simp only [Stopwatch.createUnstarted, Stopwatch.start, Bool.false_eq_true, if_false, Stopwatch.elapsedMicros, reading]
  exact Int.tdiv_eq_ediv_of_nonneg (by omega)

theorem slept_micros {origin micros sleeps woken : ℤ} (slept : SleepMicrosUninterruptibly origin micros sleeps woken)
    (nonneg : 0 ≤ micros) : sleeps + min Java.longMaxValue (micros * 1000) ≤ woken := by
  unfold SleepMicrosUninterruptibly at slept
  split at slept
  · obtain ⟨interrupts, slept⟩ := slept
    exact sleepUninterruptibly_whole nonneg slept
  · rename_i zero
    have none : micros = 0 := by omega
    subst none
    have same : min Java.longMaxValue (0 * 1000) = 0 := by decide
    omega

theorem slept_order {origin micros sleeps woken : ℤ} (slept : SleepMicrosUninterruptibly origin micros sleeps woken)
    (nonneg : 0 ≤ micros) : sleeps ≤ woken := by
  have whole := slept_micros slept nonneg
  unfold Java.longMaxValue at whole
  omega

variable {double : Rounding} {origin started moment : ℤ} {limiter : SmoothRateLimiter} {passed : List ℤ}

/-- The passes by the stopwatch of the limiter. -/
theorem looped_throttled {permitsPerSecond : ℚ} (looped : Looped Java.doubles origin started limiter moment passed)
    (atRate : AtRate permitsPerSecond limiter) (order : started ≤ moment)
    (early : ∀ woken ∈ passed, woken - started < Java.longMaxValue) :
    Throttled Java.doubles limiter ((moment - started) / 1000) (passed.map fun woken => (woken - started) / 1000) := by
  induction looped with
  | nil limiter moment => exact .nil _ _
  | @pass limiter next moment reading microsToWait sleeps woken rest later reserved unlocked slept loop ih =>
    obtain ⟨woken_early, early⟩ := List.forall_mem_cons.mp early
    obtain ⟨positive, next_eq, wait_eq⟩ := reserve_ok reserved
    have nonneg : 0 ≤ microsToWait := wait_eq ▸ le_max_right _ _
    have whole := slept_micros slept nonneg
    have slept_order := slept_order slept nonneg
    have now_eq : readMicros origin started reading = (reading - started) / 1000 :=
      readMicros_eq (by omega) (by omega)
    unfold Java.longMaxValue at whole woken_early
    have isLong : (reading - started) / 1000 ≤ Java.longMaxValue := by
      unfold Java.longMaxValue
      omega
    rw [now_eq] at reserved next_eq
    have after := atRate.reserved isLong positive
    rw [← next_eq] at after
    exact .pass (by omega) isLong reserved (by dsimp only; omega) (ih after (by omega) early)

/-- However a thread's loop is scheduled and interrupted, between any two of its passes it makes no more than a
    second allows and the time between them allows, but for the rounding and a microsecond for each pass. -/
theorem looped_in_window {permitsPerSecond : ℚ} {origin started settled first last : ℤ} {limiter : SmoothRateLimiter}
    {before middle after : List ℤ} (isDouble : Java.double permitsPerSecond = permitsPerSecond)
    (order : started ≤ settled) (soon : settled - started < Java.longMaxValue)
    (created : create Java.doubles permitsPerSecond (readMicros origin started settled) = .ok limiter)
    (looped : Looped Java.doubles origin started limiter settled (before ++ first :: (middle ++ last :: after)))
    (early : ∀ woken ∈ before ++ first :: (middle ++ last :: after), woken - started < Java.longMaxValue) :
    (middle.length : ℚ) ≤ permitsPerSecond * (1 + middle.length / 2 ^ 52) +
      permitsPerSecond / 1000000 * (1 + 1 / 2 ^ 51) * ((last - first) / 1000 + 1 + middle.length) := by
  have reading : readMicros origin started settled = (settled - started) / 1000 := readMicros_eq order soon
  rw [reading] at created
  have long : (settled - started) / 1000 ≤ Java.longMaxValue := by
    unfold Java.longMaxValue at soon ⊢
    omega
  have throttled := looped_throttled looped (AtRate.of_create isDouble long created) order early
  rw [List.map_append, List.map_cons, List.map_append, List.map_cons] at throttled
  have last_early := early last (by simp)
  have bound := throttled_in_window isDouble (by omega) long created throttled
    (by unfold Java.longMaxValue at last_early ⊢; omega)
  rw [List.length_map] at bound
  have positive := (create_fields created).1
  have rate_nonneg : 0 ≤ permitsPerSecond / 1000000 * (1 + 1 / 2 ^ 51) :=
    mul_nonneg (div_nonneg positive.le (by norm_num)) (by norm_num)
  have micros : (((last - started) / 1000 : ℤ) : ℚ) - ((first - started) / 1000 : ℤ) ≤ (last - first) / 1000 + 1 := by
    have whole : 1000 * ((last - started) / 1000) - 1000 * ((first - started) / 1000) ≤ last - first + 1000 := by omega
    have cast : (1000 : ℚ) * ((last - started) / 1000 : ℤ) - 1000 * ((first - started) / 1000 : ℤ) ≤
        last - first + 1000 := by exact_mod_cast whole
    linarith
  have time := mul_le_mul_of_nonneg_left
    (show (((last - started) / 1000 : ℤ) : ℚ) - ((first - started) / 1000 : ℤ) + middle.length ≤
      (last - first) / 1000 + 1 + middle.length by linarith) rate_nonneg
  linarith

theorem reserve_of_wait {permits nowMicros wait : ℤ} (positive : 0 < permits)
    (waits : max (Java.long ((limiter.ticket double permits nowMicros).momentAvailable - nowMicros)) 0 = wait) :
    limiter.reserve double permits nowMicros = .ok (wait, limiter.reserved double permits nowMicros) := by
  subst waits
  simp only [reserve, checkPermits, if_pos positive]
  rfl

/-- The second pass is interrupted a microsecond after it went to sleep. -/
theorem looped_in_window_interrupted :
    (([1005000] : List ℤ).length : ℚ) ≤ 1000 * (1 + ([1005000] : List ℤ).length / 2 ^ 52) +
      1000 / 1000000 * (1 + 1 / 2 ^ 51) *
        (((2005000 : ℤ) - (6000 : ℤ)) / 1000 + 1 + ([1005000] : List ℤ).length) := by
  have interrupted : SleepMicrosUninterruptibly 0 998 7000 1005000 :=
    ⟨true, .interrupted (show (7000 : ℤ) ≤ 8000 by decide) (.slept (by decide))⟩
  have whole : SleepMicrosUninterruptibly 0 999 1006000 2005000 := ⟨false, .slept (by decide)⟩
  refine @looped_in_window 1000 0 0 5000 6000 2005000 _ [] [1005000] [] (by decide +kernel) (by decide) (by decide) rfl
    (.pass (show (5000 : ℤ) ≤ 5000 by decide) (reserve_of_wait one_pos (show _ = 0 by decide +kernel))
      (show (5000 : ℤ) ≤ 5500 by decide) (show (5500 : ℤ) ≤ 6000 by decide)
      (.pass (show (6000 : ℤ) ≤ 7000 by decide) (reserve_of_wait one_pos (by decide +kernel)) (le_refl _) interrupted
        (.pass (show (1005000 : ℤ) ≤ 1006000 by decide) (reserve_of_wait one_pos (by decide +kernel)) (le_refl _) whole
          (.nil _ _)))) (by decide)

end PerfTestProof
