import PerfTest.Limiter.Rates

open PerfTestModel PerfTestModel.SmoothRateLimiter
open Systems (Rounding)

namespace PerfTestProof

inductive Idle (createdMicros : ℤ) : List Ticket → ℤ → ℚ → List Ticket → Prop
  | created (given : List Ticket) : Idle createdMicros given (max 0 createdMicros) 0 given
  | paid (earlier busy : List Ticket) (idle : Ticket) (atOnce : idle.momentAvailable = idle.nowMicros) :
      Idle createdMicros (earlier ++ idle :: busy) idle.nowMicros idle.storedPermits (idle :: busy)

theorem Idle.concat {createdMicros moment : ℤ} {stored : ℚ} {given busy : List Ticket}
    (idle : Idle createdMicros given moment stored busy) (ticket : Ticket) :
    Idle createdMicros (given ++ [ticket]) moment stored (busy ++ [ticket]) := by
  cases idle with
  | created given => exact .created _
  | paid earlier busy idle atOnce =>
    have extended : Idle createdMicros _ _ _ _ := .paid earlier (busy ++ [ticket]) idle atOnce
    rwa [← List.cons_append, ← List.append_assoc] at extended

variable {double : Rounding} {limiter final : SmoothRateLimiter} {moment permits nowMicros : ℤ} {stored : ℚ}
  {busy : List Ticket}

def shortfall (double : Rounding) (limiter : SmoothRateLimiter) (stored : ℚ) (busy : List Ticket) : ℚ :=
  permitsOf busy - stored + busy.length * (double.unit * limiter.maxPermits)

def dearest (double : Rounding) (limiter : SmoothRateLimiter) : ℚ :=
  (1 + double.unit) ^ 2 * limiter.stableIntervalMicros

structure DueSince (double : Rounding) (limiter : SmoothRateLimiter) (moment : ℤ) (stored : ℚ)
    (busy : List Ticket) : Prop where
  next_le : (limiter.nextFreeTicketMicros : ℚ) ≤
    moment + dearest double limiter * max 0 (shortfall double limiter stored busy)
  stored_ge : -shortfall double limiter stored busy ≤ limiter.storedPermits

theorem dearest_nonneg (bursty : Bursty double limiter) : 0 ≤ dearest double limiter :=
  mul_nonneg (sq_nonneg _) bursty.stable_pos.le

theorem dueSince_now (bursty : Bursty double limiter) :
    DueSince double limiter limiter.nextFreeTicketMicros limiter.storedPermits [] := by
  have nothing : shortfall double limiter limiter.storedPermits [] = -limiter.storedPermits := by
    simp [shortfall, permitsOf]
  refine ⟨?_, ?_⟩
  · have part := mul_nonneg (dearest_nonneg bursty) (le_max_left 0 (shortfall double limiter limiter.storedPermits []))
    linarith
  · rw [nothing, neg_neg]

theorem wait_le (ready : Bursty double limiter) (permits : ℤ) :
    (Bursty.wait double limiter permits : ℚ) ≤
      dearest double limiter * (permits - min (permits : ℚ) limiter.storedPermits) := by
  have unit_nonneg := double.unit_nonneg
  set rest : ℚ := permits - min (permits : ℚ) limiter.storedPermits
  have rest_nonneg : 0 ≤ rest := sub_nonneg.mpr (min_le_left _ _)
  have product_nonneg := mul_nonneg (double.round_nonneg rest_nonneg) ready.stable_pos.le
  calc (Bursty.wait double limiter permits : ℚ)
      ≤ double (double rest * limiter.stableIntervalMicros) := longOfDouble_le (ready.charged_nonneg permits)
    _ ≤ (1 + double.unit) * (double rest * limiter.stableIntervalMicros) := double.round_le product_nonneg
    _ ≤ (1 + double.unit) * ((1 + double.unit) * rest * limiter.stableIntervalMicros) := by
        apply mul_le_mul_of_nonneg_left _ (by linarith)
        exact mul_le_mul_of_nonneg_right (double.round_le rest_nonneg) ready.stable_pos.le
    _ = dearest double limiter * rest := by
        rw [dearest]
        ring

/-- A ticket given while the one before is not due makes the next one wait for its permits too. -/
theorem DueSince.reserved (due : DueSince double limiter moment stored busy) (bursty : Bursty double limiter)
    (reading : nowMicros ≤ Java.longMaxValue) (positive : 0 < permits)
    (waits : ¬ limiter.nextFreeTicketMicros < nowMicros) :
    DueSince double (limiter.reserved double permits nowMicros) moment stored
      (busy ++ [limiter.ticket double permits nowMicros]) := by
  have ready : limiter.resync double nowMicros = limiter := if_neg waits
  have slack : 0 ≤ double.unit * limiter.maxPermits := mul_nonneg double.unit_nonneg bursty.max_nonneg
  have dear := dearest_nonneg bursty
  have charged := wait_le bursty permits
  have before := bursty.stored_nonneg
  have most := bursty.stored_le
  obtain ⟨next_le, stored_ge⟩ := due
  have grows : shortfall double (limiter.reserved double permits nowMicros) stored
      (busy ++ [limiter.ticket double permits nowMicros]) =
        shortfall double limiter stored busy + permits + double.unit * limiter.maxPermits := by
    rw [shortfall, shortfall, Bursty.reserved_max, List.length_append, List.length_singleton, permitsOf,
      List.map_append, List.sum_append, permitsOf]
    simp only [ticket, List.map_cons, List.map_nil, List.sum_cons, List.sum_nil]
    push_cast
    ring
  have equal := bursty.reserved_eq permits reading
  rw [ready] at equal
  have spent_nonneg : 0 ≤ min (permits : ℚ) limiter.storedPermits := le_min (by exact_mod_cast positive.le) before
  have spent_le : min (permits : ℚ) limiter.storedPermits ≤ permits := min_le_left _ _
  have left_nonneg : 0 ≤ limiter.storedPermits - min (permits : ℚ) limiter.storedPermits :=
    sub_nonneg.mpr (min_le_right _ _)
  refine ⟨?_, ?_⟩
  · have moved : ((limiter.reserved double permits nowMicros).nextFreeTicketMicros : ℚ) ≤
        limiter.nextFreeTicketMicros + Bursty.wait double limiter permits := by
      rw [equal]
      exact_mod_cast min_le_right Java.longMaxValue (limiter.nextFreeTicketMicros + Bursty.wait double limiter permits)
    have cost : max 0 (shortfall double limiter stored busy) + (permits - min (permits : ℚ) limiter.storedPermits) ≤
        max 0 (shortfall double limiter stored busy + permits + double.unit * limiter.maxPermits) := by
      rcases le_total (permits : ℚ) limiter.storedPermits with enough | short
      · rw [min_eq_left enough, sub_self, add_zero]
        exact max_le_max_left 0 (by linarith)
      · rw [min_eq_right short]
        apply le_max_of_le_right
        rcases max_cases 0 (shortfall double limiter stored busy) with ⟨value, -⟩ | ⟨value, -⟩
        · linarith
        · linarith
    have scaled := mul_le_mul_of_nonneg_left cost dear
    rw [grows, dearest, Bursty.reserved_stable, ← dearest]
    linarith
  · rw [grows, equal]
    have most_left : limiter.storedPermits - min (permits : ℚ) limiter.storedPermits ≤ limiter.maxPermits := by linarith
    have rounded := double.sub_le_round left_nonneg most_left
    dsimp only
    linarith

theorem Granted.idle {createdMicros : ℤ} {given tickets : List Ticket}
    (granted : Granted double limiter tickets final) (start : Bursty double limiter)
    (idle : Idle createdMicros given moment stored busy) (due : DueSince double limiter moment stored busy) :
    ∃ moment stored busy, Idle createdMicros (given ++ tickets) moment stored busy ∧
      DueSince double final moment stored busy := by
  induction granted generalizing given moment stored busy with
  | nil limiter => exact ⟨moment, stored, busy, by rwa [List.append_nil], due⟩
  | @cons limiter final permits nowMicros rest positive reading later ih =>
    rw [List.append_cons]
    have next := start.reserved reading positive
    by_cases late : limiter.nextFreeTicketMicros < nowMicros
    · -- the ticket is available at once, and what it needs is counted from here
      have ready := start.resync reading
      have synced := start.resync_next reading
      rw [max_eq_right late.le] at synced
      have atOnce : (limiter.ticket double permits nowMicros).momentAvailable =
          (limiter.ticket double permits nowMicros).nowMicros := synced
      have again : (limiter.resync double nowMicros).resync double nowMicros = limiter.resync double nowMicros :=
        if_neg (by omega)
      have fromHere := (dueSince_now ready).reserved ready reading positive (by omega)
      rw [synced] at fromHere
      simp only [SmoothRateLimiter.reserved, reserveEarliestAvailable, ticket, again] at fromHere
      exact ih next (.paid given [] _ atOnce) fromHere
    · exact ih next (idle.concat _) (due.reserved start reading positive late)

theorem AtRate.dearest_le {permitsPerSecond : ℚ} (atRate : AtRate permitsPerSecond limiter) :
    dearest Java.doubles limiter ≤ 1000000 / permitsPerSecond * (1 + 1 / 2 ^ 51) := by
  have exact_nonneg := atRate.exact_nonneg
  have rounded := Java.doubles.round_le exact_nonneg
  have unit : Java.doubles.unit = 1 / 2 ^ 53 := rfl
  rw [dearest, atRate.stable_eq]
  rw [unit] at rounded ⊢
  calc (1 + 1 / 2 ^ 53) ^ 2 * Java.doubles (microsInSecond / permitsPerSecond)
      ≤ (1 + 1 / 2 ^ 53) ^ 2 * ((1 + 1 / 2 ^ 53) * (microsInSecond / permitsPerSecond)) := by gcongr
    _ = microsInSecond / permitsPerSecond * (1 + 1 / 2 ^ 53) ^ 3 := by ring
    _ ≤ microsInSecond / permitsPerSecond * (1 + 1 / 2 ^ 51) :=
        mul_le_mul_of_nonneg_left (by norm_num) exact_nonneg

/-- No call waits for longer than the permits granted since the limiter had nothing to wait for take, beyond those
    that were stored then. -/
theorem waits_for_granted {permitsPerSecond : ℚ} {createdMicros : ℤ} {limiter : SmoothRateLimiter}
    (isDouble : Java.double permitsPerSecond = permitsPerSecond) (creation : createdMicros ≤ Java.longMaxValue)
    (created : create Java.doubles permitsPerSecond createdMicros = .ok limiter) {calls : List RateLimiterCall}
    (readings : ∀ call ∈ calls, call.nowMicros ≤ Java.longMaxValue) {before after : List Ticket} {last : Ticket}
    (served : limiter.serve Java.doubles calls = before ++ last :: after) :
    ∃ moment stored busy, Idle createdMicros before moment stored busy ∧
      (last.momentAvailable : ℚ) ≤ max (last.nowMicros : ℚ) (moment + 1000000 / permitsPerSecond * (1 + 1 / 2 ^ 51) *
        max 0 (permitsOf busy - stored + busy.length * (permitsPerSecond / 2 ^ 53))) := by
  obtain ⟨final, granted⟩ := serve_granted Java.doubles limiter readings
  rw [served] at granted
  obtain ⟨waiting, earlier, granted⟩ := granted.append
  have new := AtRate.of_create isDouble creation created
  have now := new.granted earlier
  obtain ⟨-, -, empty, -, -, next⟩ := create_fields created
  have due := dueSince_now new.bursty
  rw [next, empty] at due
  obtain ⟨moment, stored, busy, idle, next_le, -⟩ := earlier.idle new.bursty (.created []) due
  rw [List.nil_append] at idle
  refine ⟨moment, stored, busy, idle, ?_⟩
  have slack : Java.doubles.unit * waiting.maxPermits = permitsPerSecond / 2 ^ 53 := by
    have unit : Java.doubles.unit = 1 / 2 ^ 53 := rfl
    rw [now.max_eq, unit]
    ring
  rw [shortfall, slack] at next_le
  cases granted with
  | @cons _ _ permits nowMicros _ positive reading later =>
    have synced := now.bursty.resync_next reading
    have needed := mul_le_mul_of_nonneg_right now.dearest_le
      (le_max_left 0 ((permitsOf busy : ℚ) - stored + busy.length * (permitsPerSecond / 2 ^ 53)))
    simp only [ticket]
    rw [synced]
    push_cast
    rw [max_comm]
    exact max_le_max_left _ (by linarith)

theorem waits_for_granted_acquired :
    ∃ (moment : ℤ) (stored : ℚ) (busy : List Ticket), Idle 5 [⟨1, 5, 5, 0⟩, ⟨3, 7, 1005, 0⟩] moment stored busy ∧
      ((4005 : ℤ) : ℚ) ≤ max ((8 : ℤ) : ℚ) (moment + 1000000 / 1000 * (1 + 1 / 2 ^ 51) *
        max 0 (permitsOf busy - stored + busy.length * (1000 / 2 ^ 53))) :=
  @waits_for_granted 1000 5 _ (by decide +kernel) (by decide) rfl [.acquire 1 5, .acquire 3 7, .acquire 1 8]
    (by decide) [⟨1, 5, 5, 0⟩, ⟨3, 7, 1005, 0⟩] [] ⟨1, 8, 4005, 0⟩ (by decide +kernel)

end PerfTestProof
