import Mathlib.Algebra.BigOperators.Group.List.Basic
import PerfTest.Limiter.Reservations

open PerfTestModel PerfTestModel.SmoothRateLimiter
open Systems (Rounding)

namespace PerfTestProof

inductive Granted (double : Rounding) : SmoothRateLimiter → List Ticket → SmoothRateLimiter → Prop
  | nil (limiter : SmoothRateLimiter) : Granted double limiter [] limiter
  | cons {limiter final : SmoothRateLimiter} {permits nowMicros : ℤ} {rest : List Ticket} (positive : 0 < permits)
      (reading : nowMicros ≤ Java.longMaxValue)
      (later : Granted double (limiter.reserved double permits nowMicros) rest final) :
      Granted double limiter (limiter.ticket double permits nowMicros :: rest) final

def permitsOf (tickets : List Ticket) : ℤ := (tickets.map Ticket.permits).sum

theorem permitsOf_cons (ticket : Ticket) (tickets : List Ticket) :
    permitsOf (ticket :: tickets) = ticket.permits + permitsOf tickets := by
  rw [permitsOf, List.map_cons, List.sum_cons, permitsOf]

variable {double : Rounding} {limiter final : SmoothRateLimiter}

theorem handle_cases (double : Rounding) (limiter : SmoothRateLimiter) (call : RateLimiterCall) :
    limiter.handle double call = (none, limiter) ∨
      0 < call.permits ∧
        limiter.handle double call =
          (some (max (Java.long ((limiter.ticket double call.permits call.nowMicros).momentAvailable -
            call.nowMicros)) 0), limiter.reserved double call.permits call.nowMicros) := by
  cases call with
  | acquire permits nowMicros =>
    by_cases positive : 0 < permits
    · refine Or.inr ⟨positive, ?_⟩
      simp only [handle, reserve, checkPermits, if_pos positive]
      rfl
    · left
      simp only [handle, reserve, checkPermits, if_neg positive]
      rfl
  | tryAcquire permits timeout nowMicros =>
    by_cases positive : 0 < permits
    · cases available : limiter.canAcquire nowMicros (max timeout 0) with
      | false =>
        left
        simp only [handle, tryAcquire, checkPermits, if_pos positive, available]
        rfl
      | true =>
        refine Or.inr ⟨positive, ?_⟩
        simp only [handle, tryAcquire, checkPermits, if_pos positive, available]
        rfl
    · left
      simp only [handle, tryAcquire, checkPermits, if_neg positive]
      rfl

theorem serve_granted (double : Rounding) (limiter : SmoothRateLimiter) {calls : List RateLimiterCall}
    (readings : ∀ call ∈ calls, call.nowMicros ≤ Java.longMaxValue) :
    ∃ final, Granted double limiter (limiter.serve double calls) final := by
  induction calls generalizing limiter with
  | nil => exact ⟨limiter, .nil limiter⟩
  | cons call calls ih =>
    obtain ⟨reading, readings⟩ := List.forall_mem_cons.mp readings
    rw [serve]
    rcases handle_cases double limiter call with refused | ⟨positive, reserved⟩
    · rw [refused]
      exact ih limiter readings
    · rw [reserved]
      obtain ⟨final, later⟩ := ih _ readings
      exact ⟨final, .cons positive reading later⟩

namespace Granted

theorem append {first second : List Ticket} (granted : Granted double limiter (first ++ second) final) :
    ∃ middle, Granted double limiter first middle ∧ Granted double middle second final := by
  induction first generalizing limiter with
  | nil => exact ⟨limiter, .nil limiter, granted⟩
  | cons ticket first ih =>
    cases granted with
    | cons positive reading later =>
      obtain ⟨middle, before, after⟩ := ih later
      exact ⟨middle, .cons positive reading before, after⟩

theorem bursty {tickets : List Ticket} (granted : Granted double limiter tickets final)
    (start : Bursty double limiter) : Bursty double final := by
  induction granted with
  | nil limiter => exact start
  | cons positive reading later ih => exact ih (start.reserved reading positive)

theorem max_eq {tickets : List Ticket} (granted : Granted double limiter tickets final) :
    final.maxPermits = limiter.maxPermits := by
  induction granted with
  | nil limiter => rfl
  | cons positive reading later ih => exact ih.trans Bursty.reserved_max

theorem stable_eq {tickets : List Ticket} (granted : Granted double limiter tickets final) :
    final.stableIntervalMicros = limiter.stableIntervalMicros := by
  induction granted with
  | nil limiter => rfl
  | cons positive reading later ih => exact ih.trans Bursty.reserved_stable

theorem next_le {tickets : List Ticket} (granted : Granted double limiter tickets final)
    (start : Bursty double limiter) : limiter.nextFreeTicketMicros ≤ final.nextFreeTicketMicros := by
  induction granted with
  | nil limiter => exact le_refl _
  | cons positive reading later ih =>
    exact (start.next_le_reserved _ reading).trans (ih (start.reserved reading positive))

/-- In any stretch of the tickets the permits are paid from those stored and from the time. -/
theorem level_le {tickets : List Ticket} (granted : Granted double limiter tickets final)
    (start : Bursty double limiter) (early : final.nextFreeTicketMicros < Java.longMaxValue) :
    Bursty.interval double limiter * permitsOf tickets + Bursty.level double final ≤
      Bursty.level double limiter +
        tickets.length * (Bursty.interval double limiter * (2 * (double.unit * limiter.maxPermits)) + 1) := by
  induction granted with
  | nil limiter =>
    simp [permitsOf]
  | @cons limiter final permits nowMicros rest positive reading later ih =>
    have next := start.reserved reading positive
    have paid := start.reserved_level reading positive ((later.next_le next).trans_lt early)
    have synced := start.resync_level reading
    have rest_paid := ih next early
    rw [Bursty.interval, Bursty.reserved_stable, ← Bursty.interval, Bursty.reserved_max] at rest_paid
    rw [permitsOf_cons, List.length_cons]
    have own : (limiter.ticket double permits nowMicros).permits = permits := rfl
    rw [own]
    push_cast
    linarith

theorem window {first last : Ticket} {middle after : List Ticket}
    (granted : Granted double limiter (first :: middle ++ last :: after) final) (start : Bursty double limiter)
    (early : last.momentAvailable < Java.longMaxValue) :
    Bursty.interval double limiter * permitsOf (first :: middle) ≤
      Bursty.interval double limiter * limiter.maxPermits * (1 + (middle.length + 1) * (2 * double.unit)) +
        (last.momentAvailable - first.momentAvailable + (middle.length + 1)) := by
  rw [List.cons_append] at granted
  cases granted with
  | @cons _ _ permits nowMicros _ positive reading later =>
    obtain ⟨waiting, between, later⟩ := later.append
    cases later with
    | @cons _ _ lastPermits lastMicros _ lastPositive lastReading later =>
      have ready := start.resync reading
      have next := start.reserved reading positive
      have before_last := between.bursty next
      have last_ready := before_last.resync lastReading
      have interval_pos := start.interval_pos
      have moved : waiting.nextFreeTicketMicros ≤ (waiting.resync double lastMicros).nextFreeTicketMicros := by
        rw [before_last.resync_next lastReading]
        exact le_max_left _ _
      have waiting_early : waiting.nextFreeTicketMicros < Java.longMaxValue := moved.trans_lt early
      have next_early := (between.next_le next).trans_lt waiting_early
      have paid := start.reserved_level reading positive next_early
      have between_paid := between.level_le next waiting_early
      have last_synced := before_last.resync_level lastReading
      rw [Bursty.interval, Bursty.reserved_stable, ← Bursty.interval, Bursty.reserved_max] at between_paid
      rw [Bursty.interval, between.stable_eq, between.max_eq, Bursty.reserved_stable, ← Bursty.interval,
        Bursty.reserved_max] at last_synced
      have first_level : Bursty.level double (limiter.resync double nowMicros) ≤
          Bursty.interval double limiter * limiter.maxPermits -
            (limiter.resync double nowMicros).nextFreeTicketMicros := by
        have most := ready.stored_le
        rw [Bursty.resync_max] at most
        have scaled := mul_le_mul_of_nonneg_left most interval_pos.le
        rw [Bursty.level, Bursty.interval, Bursty.resync_stable, ← Bursty.interval]
        linarith
      have last_level : -((waiting.resync double lastMicros).nextFreeTicketMicros : ℚ) ≤
          Bursty.level double (waiting.resync double lastMicros) := by
        have part := mul_nonneg last_ready.interval_pos.le last_ready.stored_nonneg
        rw [Bursty.level]
        linarith
      rw [permitsOf_cons]
      simp only [ticket]
      push_cast
      linarith

theorem moments_le {first last : Ticket} {middle after : List Ticket}
    (granted : Granted double limiter (first :: middle ++ last :: after) final) (start : Bursty double limiter) :
    first.momentAvailable ≤ last.momentAvailable := by
  rw [List.cons_append] at granted
  cases granted with
  | @cons _ _ permits nowMicros _ positive reading later =>
    obtain ⟨waiting, between, later⟩ := later.append
    have next := start.reserved reading positive
    cases later with
    | @cons _ _ lastPermits lastMicros _ lastPositive lastReading later =>
      have reserved := start.ready_le_reserved permits reading
      have waited := between.next_le next
      have synced := (between.bursty next).resync_next lastReading
      simp only [ticket]
      omega

end Granted

theorem create_fields {permitsPerSecond : ℚ} {nowMicros : ℤ} {limiter : SmoothRateLimiter}
    (created : create double permitsPerSecond nowMicros = .ok limiter) :
    0 < permitsPerSecond ∧ limiter.subclass = .bursty ⟨1⟩ ∧ limiter.storedPermits = 0 ∧
      limiter.maxPermits = double (1 * permitsPerSecond) ∧
      limiter.stableIntervalMicros = double (microsInSecond / permitsPerSecond) ∧
      limiter.nextFreeTicketMicros = max 0 nowMicros := by
  unfold create setRate at created
  split at created
  · rename_i positive
    cases created
    refine ⟨positive, ?_⟩
    unfold doSetRate doSetRateOfSubclass SmoothRateLimiter.resync fresh
    by_cases late : 0 < nowMicros
    · simp [late, late.le]
    · simp [late, not_lt.mp late]
  · cases created

theorem create_bursty {permitsPerSecond : ℚ} {nowMicros : ℤ} {limiter : SmoothRateLimiter}
    (reading : nowMicros ≤ Java.longMaxValue)
    (created : create double permitsPerSecond nowMicros = .ok limiter) : Bursty double limiter := by
  obtain ⟨positive, subclass, stored, most, stable, next⟩ := create_fields created
  refine ⟨⟨_, subclass⟩, stored.ge, ?_, ?_, ?_, ?_, ?_⟩
  · rw [stored, most, one_mul]
    exact double.round_nonneg positive.le
  · rw [most]
    exact double.round_round _
  · rw [stable]
    exact double.round_pos (div_pos (by norm_num [microsInSecond]) positive)
  · rw [next]
    exact le_max_left _ _
  · rw [next]
    exact max_le (by decide) reading

structure AtRate (permitsPerSecond : ℚ) (limiter : SmoothRateLimiter) : Prop where
  bursty : Bursty Java.doubles limiter
  positive : 0 < permitsPerSecond
  max_eq : limiter.maxPermits = permitsPerSecond
  stable_eq : limiter.stableIntervalMicros = Java.doubles (microsInSecond / permitsPerSecond)

namespace AtRate

variable {permitsPerSecond : ℚ} {createdMicros : ℤ}

theorem of_create (isDouble : Java.double permitsPerSecond = permitsPerSecond)
    (creation : createdMicros ≤ Java.longMaxValue)
    (created : create Java.doubles permitsPerSecond createdMicros = .ok limiter) : AtRate permitsPerSecond limiter := by
  obtain ⟨positive, -, -, most, stable, -⟩ := create_fields created
  refine ⟨create_bursty creation created, positive, ?_, stable⟩
  rw [most, one_mul]
  exact isDouble

theorem reserved {permits nowMicros : ℤ} (atRate : AtRate permitsPerSecond limiter)
    (reading : nowMicros ≤ Java.longMaxValue) (positive : 0 < permits) :
    AtRate permitsPerSecond (limiter.reserved Java.doubles permits nowMicros) :=
  ⟨atRate.bursty.reserved reading positive, atRate.positive, Bursty.reserved_max.trans atRate.max_eq,
    Bursty.reserved_stable.trans atRate.stable_eq⟩

theorem granted {tickets : List Ticket} (atRate : AtRate permitsPerSecond limiter)
    (granted : Granted Java.doubles limiter tickets final) : AtRate permitsPerSecond final := by
  induction granted with
  | nil limiter => exact atRate
  | cons positive reading later ih => exact ih (atRate.reserved reading positive)

theorem exact_nonneg (atRate : AtRate permitsPerSecond limiter) : 0 ≤ microsInSecond / permitsPerSecond :=
  div_nonneg (by norm_num [microsInSecond]) atRate.positive.le

theorem interval_ge (atRate : AtRate permitsPerSecond limiter) :
    (1 - 1 / 2 ^ 53) ^ 3 * 1000000 ≤ Bursty.interval Java.doubles limiter * permitsPerSecond := by
  have rounded := Java.doubles.le_round atRate.exact_nonneg
  have positive := atRate.positive
  have unit : Java.doubles.unit = 1 / 2 ^ 53 := rfl
  rw [Bursty.interval, atRate.stable_eq]
  rw [unit] at rounded ⊢
  calc (1 - 1 / 2 ^ 53) ^ 3 * 1000000
      = (1 - 1 / 2 ^ 53) ^ 2 * ((1 - 1 / 2 ^ 53) * (microsInSecond / permitsPerSecond)) * permitsPerSecond := by
        rw [microsInSecond]
        field_simp
    _ ≤ _ := by gcongr

theorem window {first last : Ticket} {middle after : List Ticket} (atRate : AtRate permitsPerSecond limiter)
    (granted : Granted Java.doubles limiter (first :: middle ++ last :: after) final)
    (early : last.momentAvailable < Java.longMaxValue) :
    (permitsOf (first :: middle) : ℚ) ≤ permitsPerSecond * (1 + (middle.length + 1) / 2 ^ 52) +
      permitsPerSecond / 1000000 * (1 + 1 / 2 ^ 51) *
        (last.momentAvailable - first.momentAvailable + (middle.length + 1)) := by
  have moments := granted.moments_le atRate.bursty
  have paid := granted.window atRate.bursty early
  have interval_pos := atRate.bursty.interval_pos
  have interval_ge := atRate.interval_ge
  rw [atRate.max_eq] at paid
  set interval := Bursty.interval Java.doubles limiter
  have time_nonneg : (0 : ℚ) ≤ last.momentAvailable - first.momentAvailable + (middle.length + 1) := by
    have moments : (first.momentAvailable : ℚ) ≤ last.momentAvailable := by exact_mod_cast moments
    have count : (0 : ℚ) ≤ middle.length := Nat.cast_nonneg _
    linarith
  set time : ℚ := last.momentAvailable - first.momentAvailable + (middle.length + 1)
  have second_part : time ≤ interval * (permitsPerSecond / 1000000 * (1 + 1 / 2 ^ 51) * time) :=
    calc time ≤ (1 - 1 / 2 ^ 53) ^ 3 * (1 + 1 / 2 ^ 51) * time :=
          le_mul_of_one_le_left time_nonneg (by norm_num)
      _ = (1 - 1 / 2 ^ 53) ^ 3 * 1000000 * ((1 + 1 / 2 ^ 51) / 1000000 * time) := by ring
      _ ≤ interval * permitsPerSecond * ((1 + 1 / 2 ^ 51) / 1000000 * time) :=
          mul_le_mul_of_nonneg_right interval_ge (mul_nonneg (by norm_num) time_nonneg)
      _ = interval * (permitsPerSecond / 1000000 * (1 + 1 / 2 ^ 51) * time) := by ring
  have first_part : interval * permitsPerSecond * (1 + (middle.length + 1) * (2 * Java.doubles.unit)) =
      interval * (permitsPerSecond * (1 + (middle.length + 1) / 2 ^ 52)) := by
    have unit : Java.doubles.unit = 1 / 2 ^ 53 := rfl
    rw [unit]
    ring
  apply le_of_mul_le_mul_left _ interval_pos
  rw [first_part] at paid
  linarith

end AtRate

/-- Whatever calls there are and when they come, what is granted from one moment up to another is what a second
    allows and what the time between them allows, but for the rounding and a microsecond for each call. -/
theorem granted_in_window {permitsPerSecond : ℚ} {createdMicros : ℤ} {limiter : SmoothRateLimiter}
    (isDouble : Java.double permitsPerSecond = permitsPerSecond) (creation : createdMicros ≤ Java.longMaxValue)
    (created : create Java.doubles permitsPerSecond createdMicros = .ok limiter) {calls : List RateLimiterCall}
    (readings : ∀ call ∈ calls, call.nowMicros ≤ Java.longMaxValue) {before middle after : List Ticket}
    {first last : Ticket}
    (served : limiter.serve Java.doubles calls = before ++ (first :: middle ++ last :: after))
    (early : last.momentAvailable < Java.longMaxValue) :
    (permitsOf (first :: middle) : ℚ) ≤ permitsPerSecond * (1 + (middle.length + 1) / 2 ^ 52) +
      permitsPerSecond / 1000000 * (1 + 1 / 2 ^ 51) *
        (last.momentAvailable - first.momentAvailable + (middle.length + 1)) := by
  obtain ⟨final, granted⟩ := serve_granted Java.doubles limiter readings
  rw [served] at granted
  obtain ⟨opening, earlier, granted⟩ := granted.append
  exact ((AtRate.of_create isDouble creation created).granted earlier).window granted early

theorem granted_in_window_acquired :
    (permitsOf [⟨1, 5, 5, 0⟩, ⟨3, 7, 1005, 0⟩] : ℚ) ≤
      1000 * (1 + (1 + 1) / 2 ^ 52) + 1000 / 1000000 * (1 + 1 / 2 ^ 51) * (5005 - 5 + (1 + 1)) := by
  have bound := @granted_in_window 1000 5 _ (by decide +kernel) (by decide) rfl
    [.acquire 1 5, .acquire 3 7, .acquire 1 5005] (by decide) [] [⟨3, 7, 1005, 0⟩] [] ⟨1, 5, 5, 0⟩ ⟨1, 5005, 5005, 1⟩
    (by decide +kernel) (by decide)
  simpa using bound

end PerfTestProof
