import Mathlib.Data.List.Forall2
import PerfTest.Limiter.Rates

open Java (RuntimeException)
open Systems (Rounding)

namespace PerfTestModel

open SmoothRateLimiter

/-- The moments at which the passes of one thread's loop get past `rateLimiterCallback.run()`, which is
    `acquire()` of the limiter: it waits for what it reserved, or longer. No pass reads the stopwatch before the one
    ahead of it has got past. -/
inductive Throttled (double : Rounding) : SmoothRateLimiter → ℤ → List ℤ → Prop
  | nil (limiter : SmoothRateLimiter) (clock : ℤ) : Throttled double limiter clock []
  | pass {limiter next : SmoothRateLimiter} {clock nowMicros microsToWait passed : ℤ} {rest : List ℤ}
      (reading : clock ≤ nowMicros) (isLong : nowMicros ≤ Java.longMaxValue)
      (reserved : limiter.reserve double 1 nowMicros = .ok (microsToWait, next))
      (slept : nowMicros + microsToWait ≤ passed) (later : Throttled double next passed rest) :
      Throttled double limiter clock (passed :: rest)

end PerfTestModel

open PerfTestModel PerfTestModel.SmoothRateLimiter

namespace PerfTestProof

variable {double : Rounding} {limiter next : SmoothRateLimiter} {clock nowMicros microsToWait : ℤ}

theorem reserve_ok {permits : ℤ} (reserved : limiter.reserve double permits nowMicros = .ok (microsToWait, next)) :
    0 < permits ∧ next = limiter.reserved double permits nowMicros ∧
      microsToWait = max (Java.long ((limiter.ticket double permits nowMicros).momentAvailable - nowMicros)) 0 := by
  unfold reserve checkPermits at reserved
  split at reserved
  · rename_i positive
    cases reserved
    exact ⟨positive, rfl, rfl⟩
  · cases reserved

/-- What a pass waits for ends no earlier than its ticket is available. -/
theorem moment_le_wait (bursty : Bursty double limiter) (permits : ℤ) (isLong : nowMicros ≤ Java.longMaxValue)
    (start : 0 ≤ nowMicros) :
    (limiter.ticket double permits nowMicros).momentAvailable ≤
      nowMicros + max (Java.long ((limiter.ticket double permits nowMicros).momentAvailable - nowMicros)) 0 := by
  have ready := bursty.resync isLong
  have first := ready.next_nonneg
  have last := ready.next_le
  unfold Java.longMaxValue at last isLong
  have exact : Java.long ((limiter.resync double nowMicros).nextFreeTicketMicros - nowMicros) =
      (limiter.resync double nowMicros).nextFreeTicketMicros - nowMicros := Java.long_eq_self.mpr (by omega)
  simp only [ticket, exact]
  omega

def PassedWith (ticket : Ticket) (passed : ℤ) : Prop := ticket.permits = 1 ∧ ticket.momentAvailable ≤ passed

theorem permitsOf_passed {tickets : List Ticket} {passed : List ℤ} (each : List.Forall₂ PassedWith tickets passed) :
    permitsOf tickets = passed.length := by
  induction each with
  | nil => rfl
  | cons one later ih =>
    rw [permitsOf_cons, one.1, ih, List.length_cons]
    push_cast
    ring

section AtRate

variable {permitsPerSecond : ℚ}

theorem throttled_granted {passed : List ℤ} (throttled : Throttled Java.doubles limiter clock passed)
    (atRate : AtRate permitsPerSecond limiter) (start : 0 ≤ clock) :
    ∃ tickets final, Granted Java.doubles limiter tickets final ∧ List.Forall₂ PassedWith tickets passed ∧
      ∀ ticket ∈ tickets.head?, clock ≤ ticket.momentAvailable := by
  induction throttled with
  | nil limiter clock => exact ⟨[], limiter, .nil limiter, .nil, by simp⟩
  | @pass limiter next clock nowMicros microsToWait passed rest reading isLong reserved slept later ih =>
    obtain ⟨positive, rfl, rfl⟩ := reserve_ok reserved
    have waited := moment_le_wait atRate.bursty 1 isLong (start.trans reading)
    obtain ⟨tickets, final, granted, each, -⟩ := ih (atRate.reserved isLong positive) (by omega)
    refine ⟨_, final, .cons positive isLong granted, .cons ⟨rfl, waited.trans slept⟩ each, ?_⟩
    intro ticket first
    cases first
    have synced := atRate.bursty.resync_next isLong
    simp only [SmoothRateLimiter.ticket]
    omega

theorem throttled_after {before rest : List ℤ} {passed : ℤ}
    (throttled : Throttled Java.doubles limiter clock (before ++ passed :: rest))
    (atRate : AtRate permitsPerSecond limiter) (start : 0 ≤ clock) :
    ∃ latest, Throttled Java.doubles latest passed rest ∧ AtRate permitsPerSecond latest ∧ 0 ≤ passed := by
  induction before generalizing limiter clock with
  | nil =>
    cases throttled with
    | pass reading isLong reserved slept later =>
      obtain ⟨positive, rfl, rfl⟩ := reserve_ok reserved
      exact ⟨_, later, atRate.reserved isLong positive, by omega⟩
  | cons moment before ih =>
    cases throttled with
    | pass reading isLong reserved slept later =>
      obtain ⟨positive, rfl, rfl⟩ := reserve_ok reserved
      exact ih later (atRate.reserved isLong positive) (by omega)

end AtRate

/-- Between any two of its passes a thread's loop makes no more than a second allows and the time between them
    allows, but for the rounding and a microsecond for each pass. -/
theorem throttled_in_window {permitsPerSecond : ℚ} {createdMicros first last : ℤ} {limiter : SmoothRateLimiter}
    {before middle after : List ℤ} (isDouble : Java.double permitsPerSecond = permitsPerSecond)
    (start : 0 ≤ createdMicros) (creation : createdMicros ≤ Java.longMaxValue)
    (created : create Java.doubles permitsPerSecond createdMicros = .ok limiter)
    (throttled : Throttled Java.doubles limiter createdMicros (before ++ first :: (middle ++ last :: after)))
    (early : last < Java.longMaxValue) :
    (middle.length : ℚ) ≤ permitsPerSecond * (1 + middle.length / 2 ^ 52) +
      permitsPerSecond / 1000000 * (1 + 1 / 2 ^ 51) * (last - first + middle.length) := by
  obtain ⟨latest, throttled, atRate, first_nonneg⟩ :=
    throttled_after throttled (AtRate.of_create isDouble creation created) start
  obtain ⟨tickets, final, granted, each, head⟩ := throttled_granted throttled atRate first_nonneg
  have rate_nonneg : 0 ≤ permitsPerSecond / 1000000 * (1 + 1 / 2 ^ 51) :=
    mul_nonneg (div_nonneg atRate.positive.le (by norm_num)) (by norm_num)
  cases middle with
  | nil =>
    obtain ⟨ticket, others, ⟨_, available⟩, _, rfl⟩ := List.forall₂_cons_right_iff.mp each
    have ordered : (first : ℚ) ≤ last := by exact_mod_cast (head ticket rfl).trans available
    have time := mul_nonneg rate_nonneg (sub_nonneg.mpr ordered)
    have positive := atRate.positive
    simp only [List.length_nil, Nat.cast_zero, zero_div, add_zero, mul_one]
    linarith
  | cons own middle =>
    obtain ⟨ticket, tickets, passed, others, rfl⟩ := List.forall₂_cons_right_iff.mp each
    have between := List.forall₂_take_append tickets middle (last :: after) others
    obtain ⟨lastTicket, rest, ⟨-, available⟩, -, split⟩ :=
      List.forall₂_cons_right_iff.mp (List.forall₂_drop_append tickets middle (last :: after) others)
    rw [← List.take_append_drop middle.length tickets, split] at granted
    have bound := atRate.window granted (available.trans_lt early)
    rw [permitsOf_passed (.cons passed between), between.length_eq] at bound
    have opens : (first : ℚ) ≤ ticket.momentAvailable := by exact_mod_cast head ticket rfl
    have closes : (lastTicket.momentAvailable : ℚ) ≤ last := by exact_mod_cast available
    have time := mul_le_mul_of_nonneg_left
      (show (lastTicket.momentAvailable : ℚ) - ticket.momentAvailable + (middle.length + 1) ≤
        last - first + (middle.length + 1) by linarith) rate_nonneg
    rw [List.length_cons] at bound ⊢
    push_cast at bound ⊢
    linarith

end PerfTestProof
