import Mathlib.Data.Nat.Count
import PerfTest.Producer.Waiting

namespace PerfTestModel

structure ProducerLimits where
  msgLimit : ℤ
  variableRate : Bool
  confirmTimeout : Option ℤ
  deriving DecidableEq, Repr

inductive ProducerStopReason where
  | messageLimit
  | threadInterrupted
  deriving DecidableEq, Repr

def ProducerStopReason.text : ProducerStopReason → String
  | .messageLimit => "Producer reached message limit"
  | .threadInterrupted => "Producer thread interrupted"

structure ProducerCounts where
  msgCount : ℕ
  published : ℕ
  confirmWaits : ℕ
  completed : Bool
  reasons : List ProducerStopReason
  deriving DecidableEq, Repr

namespace ProducerCounts

def initial : ProducerCounts := ⟨0, 0, 0, false, []⟩

def handlePublish (counts : ProducerCounts) : ProducerCounts :=
  { counts with msgCount := counts.msgCount + 1, published := counts.published + 1 }

def countDown (reason : ProducerStopReason) (counts : ProducerCounts) : ProducerCounts :=
  if counts.completed then counts
  else { counts with completed := true, reasons := counts.reasons ++ [reason] }

def keepGoing (limits : ProducerLimits) (interrupted : Bool) (counts : ProducerCounts) : Bool :=
  (limits.msgLimit == 0 || counts.msgCount < limits.msgLimit) && !interrupted

def waitForConfirms (limits : ProducerLimits) (found : ℕ → WaitPass) (counts : ProducerCounts) :
    ProducerCounts :=
  match limits.confirmTimeout with
  | some confirmTimeout =>
    { counts with confirmWaits := counts.confirmWaits + maybeWaitForPublishConfirms confirmTimeout found }
  | none => counts

def finish (limits : ProducerLimits) (found : ℕ → WaitPass) (counts : ProducerCounts) : ProducerCounts :=
  if limits.msgLimit ≤ counts.msgCount then
    if limits.msgLimit = 0 then counts.countDown .threadInterrupted
    else (counts.waitForConfirms limits found).countDown .messageLimit
  else counts

def messageLimitReached (limits : ProducerLimits) (counts : ProducerCounts) : Bool :=
  limits.msgLimit != 0 && limits.msgLimit ≤ counts.msgCount

def maybeHandlePublish (limits : ProducerLimits) (interrupted : Bool) (found : ℕ → WaitPass)
    (counts : ProducerCounts) : ProducerCounts :=
  if counts.keepGoing limits interrupted then counts.handlePublish
  else if counts.messageLimitReached limits then
    (counts.waitForConfirms limits found).countDown .messageLimit
  else counts.countDown .threadInterrupted

end ProducerCounts

structure LoopPass where
  interrupted : Bool
  rateIsZero : Bool
  now : ℤ
  found : ℕ → WaitPass

structure RunLoop where
  lastStatsTime : ℤ
  counts : ProducerCounts
  stopped : Bool
  deriving DecidableEq, Repr

namespace RunLoop

def started (startTime : ℤ) : RunLoop := ⟨startTime, .initial, false⟩

def publishOrWait (limits : ProducerLimits) (pass : LoopPass) (counts : ProducerCounts) : ProducerCounts :=
  if limits.variableRate && pass.rateIsZero then counts else counts.handlePublish

/-- The statistics are reset "every second", which is compared with nanoseconds. -/
def statsDue (limits : ProducerLimits) (pass : LoopPass) (loop : RunLoop) : Bool :=
  limits.variableRate && 1000 < Java.long (pass.now - loop.lastStatsTime)

def pass (limits : ProducerLimits) (loop : RunLoop) (pass : LoopPass) : RunLoop :=
  if loop.stopped then loop
  else if loop.counts.keepGoing limits pass.interrupted then
    let counts := publishOrWait limits pass loop.counts
    if loop.statsDue limits pass then
      { loop with lastStatsTime := pass.now, counts := { counts with msgCount := 0 } }
    else { loop with counts }
  else { loop with stopped := true, counts := loop.counts.finish limits pass.found }

def after (limits : ProducerLimits) (startTime : ℤ) (passes : ℕ → LoopPass) : ℕ → RunLoop
  | 0 => started startTime
  | count + 1 => (after limits startTime passes count).pass limits (passes count)

end RunLoop

structure Invocation where
  interrupted : Bool
  found : ℕ → WaitPass

def ProducerCounts.scheduled (limits : ProducerLimits) (invocations : ℕ → Invocation) : ℕ → ProducerCounts
  | 0 => .initial
  | count + 1 => (scheduled limits invocations count).maybeHandlePublish limits
      (invocations count).interrupted (invocations count).found

end PerfTestModel

namespace PerfTestProof

open PerfTestModel ProducerCounts RunLoop

structure StopsAtLimit (limits : ProducerLimits) (startTime : ℤ) (passes : ℕ → LoopPass) : Prop where
  never_more : ∀ count, ((after limits startTime passes count).counts.published : ℤ) ≤ limits.msgLimit
  ends : ∃ count, (after limits startTime passes count).stopped = true ∧
    ((after limits startTime passes count).counts.published : ℤ) = limits.msgLimit ∧
    (after limits startTime passes count).counts.reasons = [.messageLimit]

def publishes (limits : ProducerLimits) (pass : LoopPass) : Bool :=
  !(limits.variableRate && pass.rateIsZero)

def discards (limits : ProducerLimits) (loop : RunLoop) (pass : LoopPass) : Bool :=
  !loop.stopped && loop.counts.keepGoing limits pass.interrupted && loop.statsDue limits pass &&
    (publishOrWait limits pass loop.counts).msgCount != 0

def KeepsCount (limits : ProducerLimits) (startTime : ℤ) (passes : ℕ → LoopPass) : Prop :=
  (∀ count, discards limits (after limits startTime passes count) (passes count) = false) ∧
    ∃ count, limits.msgLimit ≤ Nat.count (fun index => publishes limits (passes index) = true) count

section

variable {limits : ProducerLimits} {startTime : ℤ} {passes : ℕ → LoopPass} {loop : RunLoop} {pass : LoopPass}
  {counts : ProducerCounts} {found : ℕ → WaitPass}

theorem publishOrWait_counts (limits : ProducerLimits) (pass : LoopPass) (counts : ProducerCounts) :
    (publishOrWait limits pass counts).msgCount = counts.msgCount + (publishes limits pass).toNat ∧
      (publishOrWait limits pass counts).published = counts.published + (publishes limits pass).toNat ∧
      (publishOrWait limits pass counts).completed = counts.completed ∧
      (publishOrWait limits pass counts).reasons = counts.reasons := by
  unfold publishOrWait publishes
  cases limits.variableRate && pass.rateIsZero <;> exact ⟨rfl, rfl, rfl, rfl⟩

theorem countDown_counts (counts : ProducerCounts) (reason : ProducerStopReason) :
    (counts.countDown reason).msgCount = counts.msgCount ∧
      (counts.countDown reason).published = counts.published := by
  unfold countDown
  split <;> exact ⟨rfl, rfl⟩

theorem waitForConfirms_counts (limits : ProducerLimits) (found : ℕ → WaitPass) (counts : ProducerCounts) :
    (counts.waitForConfirms limits found).msgCount = counts.msgCount ∧
    (counts.waitForConfirms limits found).published = counts.published ∧
    (counts.waitForConfirms limits found).completed = counts.completed ∧
    (counts.waitForConfirms limits found).reasons = counts.reasons := by
  unfold waitForConfirms
  split <;> exact ⟨rfl, rfl, rfl, rfl⟩

theorem finish_counts (limits : ProducerLimits) (found : ℕ → WaitPass) (counts : ProducerCounts) :
    (counts.finish limits found).msgCount = counts.msgCount ∧
    (counts.finish limits found).published = counts.published := by
  obtain ⟨sameCount, samePublished, _⟩ := waitForConfirms_counts limits found counts
  unfold finish
  split
  · split
    · exact countDown_counts counts _
    · obtain ⟨count, published⟩ := countDown_counts (counts.waitForConfirms limits found) .messageLimit
      exact ⟨count.trans sameCount, published.trans samePublished⟩
  · exact ⟨rfl, rfl⟩

/-- What one pass does: nothing once the loop has ended, else it ends the loop, or it publishes or waits
    and may reset the count. -/
theorem pass_cases (limits : ProducerLimits) (loop : RunLoop) (pass : LoopPass) :
    loop.stopped = true ∧ loop.pass limits pass = loop ∨
    loop.stopped = false ∧ loop.counts.keepGoing limits pass.interrupted = false ∧
      loop.pass limits pass =
        { loop with stopped := true, counts := loop.counts.finish limits pass.found } ∨
    loop.stopped = false ∧ loop.counts.keepGoing limits pass.interrupted = true ∧
      (loop.pass limits pass).stopped = false ∧
      (loop.pass limits pass).counts =
        if loop.statsDue limits pass then { publishOrWait limits pass loop.counts with msgCount := 0 }
        else publishOrWait limits pass loop.counts := by
  unfold RunLoop.pass
  cases stopped : loop.stopped with
  | true => exact .inl ⟨rfl, rfl⟩
  | false =>
    cases going : loop.counts.keepGoing limits pass.interrupted with
    | false => exact .inr (.inl ⟨rfl, rfl, rfl⟩)
    | true =>
      cases due : loop.statsDue limits pass with
      | false => exact .inr (.inr ⟨rfl, rfl, rfl, rfl⟩)
      | true => exact .inr (.inr ⟨rfl, rfl, rfl, rfl⟩)

theorem msgCount_le_published (limits : ProducerLimits) (startTime : ℤ) (passes : ℕ → LoopPass) (count : ℕ) :
    (after limits startTime passes count).counts.msgCount ≤
      (after limits startTime passes count).counts.published := by
  induction count with
  | zero => exact Nat.le_refl 0
  | succ count ih =>
    show ((after limits startTime passes count).pass limits (passes count)).counts.msgCount ≤
      ((after limits startTime passes count).pass limits (passes count)).counts.published
    rcases pass_cases limits (after limits startTime passes count) (passes count) with
      ⟨_, same⟩ | ⟨_, _, ended⟩ | ⟨_, _, _, went⟩
    · rw [same]
      exact ih
    · obtain ⟨sameCount, samePublished⟩ :=
        finish_counts limits (passes count).found (after limits startTime passes count).counts
      rw [ended, sameCount, samePublished]
      exact ih
    · obtain ⟨moreCount, morePublished, _⟩ := publishOrWait_counts limits (passes count)
        (after limits startTime passes count).counts
      rw [went]
      split
      · exact Nat.zero_le _
      · omega

/-- A message once left out of the count is never counted again. -/
theorem uncounted_pass (short : loop.counts.msgCount < loop.counts.published) :
    (loop.pass limits pass).counts.msgCount < (loop.pass limits pass).counts.published := by
  rcases pass_cases limits loop pass with ⟨_, same⟩ | ⟨_, _, ended⟩ | ⟨_, _, _, went⟩
  · rw [same]
    exact short
  · obtain ⟨sameCount, samePublished⟩ := finish_counts limits pass.found loop.counts
    rw [ended, sameCount, samePublished]
    exact short
  · obtain ⟨moreCount, morePublished, _⟩ := publishOrWait_counts limits pass loop.counts
    rw [went]
    split
    · show 0 < (publishOrWait limits pass loop.counts).published
      omega
    · omega

theorem uncounted_later {first last : ℕ} (order : first ≤ last)
    (short : (after limits startTime passes first).counts.msgCount <
      (after limits startTime passes first).counts.published) :
    (after limits startTime passes last).counts.msgCount <
      (after limits startTime passes last).counts.published := by
  induction last, order using Nat.le_induction with
  | base => exact short
  | succ last _ ih => exact uncounted_pass ih

theorem uncounted_of_discards (bound : loop.counts.msgCount ≤ loop.counts.published)
    (discarded : discards limits loop pass = true) :
    (loop.pass limits pass).counts.msgCount < (loop.pass limits pass).counts.published := by
  simp only [discards, Bool.and_eq_true, Bool.not_eq_true', bne_iff_ne, ne_eq] at discarded
  obtain ⟨⟨⟨running, going⟩, due⟩, some⟩ := discarded
  rcases pass_cases limits loop pass with ⟨stopped, _⟩ | ⟨_, stays, _⟩ | ⟨_, _, _, went⟩
  · rw [running] at stopped
    cases stopped
  · rw [going] at stays
    cases stays
  · obtain ⟨moreCount, morePublished, _⟩ := publishOrWait_counts limits pass loop.counts
    rw [went, if_pos due]
    show 0 < (publishOrWait limits pass loop.counts).published
    omega

theorem stopped_later {first last : ℕ} (order : first ≤ last)
    (stopped : (after limits startTime passes first).stopped = true) :
    after limits startTime passes last = after limits startTime passes first := by
  induction last, order using Nat.le_induction with
  | base => rfl
  | succ last _ ih =>
    show (after limits startTime passes last).pass limits (passes last) = _
    rw [ih, RunLoop.pass, if_pos stopped]

/-- Without interruptions the loop ends only when the count has reached the limit. -/
theorem stopped_at_limit (uninterrupted : ∀ index, (passes index).interrupted = false) (count : ℕ)
    (stopped : (after limits startTime passes count).stopped = true) :
    limits.msgLimit ≤ (after limits startTime passes count).counts.msgCount := by
  induction count with
  | zero => cases stopped
  | succ count ih =>
    change ((after limits startTime passes count).pass limits (passes count)).stopped = true at stopped
    show limits.msgLimit ≤ ((after limits startTime passes count).pass limits (passes count)).counts.msgCount
    rcases pass_cases limits (after limits startTime passes count) (passes count) with
      ⟨before, same⟩ | ⟨_, stays, ended⟩ | ⟨_, _, going, _⟩
    · rw [same]
      exact ih before
    · rw [ended, (finish_counts _ _ _).1]
      simp only [keepGoing, uninterrupted count, Bool.not_false, Bool.and_true, Bool.or_eq_false_iff,
        decide_eq_false_iff_not] at stays
      omega
    · rw [going] at stopped
      cases stopped

theorem published_le_count (limits : ProducerLimits) (startTime : ℤ) (passes : ℕ → LoopPass) (count : ℕ) :
    (after limits startTime passes count).counts.published ≤
      Nat.count (fun index => publishes limits (passes index) = true) count := by
  induction count with
  | zero => exact Nat.le_refl 0
  | succ count ih =>
    rw [Nat.count_succ]
    show ((after limits startTime passes count).pass limits (passes count)).counts.published ≤ _
    rcases pass_cases limits (after limits startTime passes count) (passes count) with
      ⟨_, same⟩ | ⟨_, _, ended⟩ | ⟨_, _, _, went⟩
    · rw [same]
      omega
    · rw [ended, (finish_counts _ _ _).2]
      omega
    · have more := (publishOrWait_counts limits (passes count) (after limits startTime passes count).counts).2.1
      have same : ((after limits startTime passes count).pass limits (passes count)).counts.published =
          (publishOrWait limits (passes count) (after limits startTime passes count).counts).published := by
        rw [went]
        split <;> rfl
      rw [same, more]
      cases publishes limits (passes count) with
      | true => exact Nat.add_le_add_right ih 1
      | false => exact ih

structure Counted (limits : ProducerLimits) (published : ℕ) (loop : RunLoop) : Prop where
  counted : loop.counts.msgCount = loop.counts.published
  bounded : (loop.counts.published : ℤ) ≤ limits.msgLimit
  running : loop.stopped = false →
    loop.counts.published = published ∧ loop.counts.completed = false ∧ loop.counts.reasons = []
  ended : loop.stopped = true →
    (loop.counts.published : ℤ) = limits.msgLimit ∧ loop.counts.reasons = [.messageLimit]

theorem finish_at_limit (some : 0 < limits.msgLimit) (reached : limits.msgLimit ≤ counts.msgCount)
    (pending : counts.completed = false) (none : counts.reasons = []) :
    (counts.finish limits found).reasons = [.messageLimit] := by
  obtain ⟨_, _, sameCompleted, sameReasons⟩ :=
    waitForConfirms_counts limits found counts
  have positive : limits.msgLimit ≠ 0 := by omega
  rw [finish, if_pos reached, if_neg positive, countDown, sameCompleted, pending]
  show (counts.waitForConfirms limits found).reasons ++ [.messageLimit] = [.messageLimit]
  rw [sameReasons, none, List.nil_append]

theorem Counted.next {published : ℕ} (some : 0 < limits.msgLimit)
    (counted : Counted limits published loop) (uninterrupted : pass.interrupted = false)
    (kept : discards limits loop pass = false) :
    Counted limits (published + (publishes limits pass).toNat) (loop.pass limits pass) := by
  rcases pass_cases limits loop pass with ⟨stopped, same⟩ | ⟨running, stays, ended⟩ | ⟨running, going, runs, went⟩
  · rw [same]
    refine ⟨counted.counted, counted.bounded, fun running => ?_, counted.ended⟩
    rw [stopped] at running
    cases running
  · obtain ⟨_, pending, none⟩ := counted.running running
    obtain ⟨sameCount, samePublished⟩ := finish_counts limits pass.found loop.counts
    have same := counted.counted
    have bound := counted.bounded
    simp only [keepGoing, uninterrupted, Bool.not_false, Bool.and_true, Bool.or_eq_false_iff,
      decide_eq_false_iff_not] at stays
    have reached : limits.msgLimit ≤ loop.counts.msgCount := by omega
    rw [ended]
    constructor
    · rw [sameCount, samePublished, same]
    · rw [samePublished]
      exact bound
    · intro impossible
      cases impossible
    · intro _
      refine ⟨?_, finish_at_limit some reached pending none⟩
      rw [samePublished]
      omega
  · obtain ⟨same, pending, none⟩ := counted.running running
    have equal := counted.counted
    have below : (loop.counts.msgCount : ℤ) < limits.msgLimit := by
      simp only [keepGoing, uninterrupted, Bool.not_false, Bool.and_true, Bool.or_eq_true,
        beq_iff_eq, decide_eq_true_eq] at going
      omega
    have reset : loop.statsDue limits pass = true → (publishOrWait limits pass loop.counts).msgCount = 0 := by
      intro due
      simpa [discards, running, going, due] using kept
    have counts : (loop.pass limits pass).counts = publishOrWait limits pass loop.counts := by
      rw [went]
      split
      · rename_i due
        rw [← reset due]
      · rfl
    obtain ⟨moreCount, morePublished, sameCompleted, sameReasons⟩ :=
      publishOrWait_counts limits pass loop.counts
    have one : (publishes limits pass).toNat ≤ 1 := Bool.toNat_le _
    constructor
    · rw [counts]
      omega
    · rw [counts]
      omega
    · intro _
      rw [counts, sameCompleted, sameReasons]
      exact ⟨by omega, pending, none⟩
    · intro stopped
      rw [runs] at stopped
      cases stopped

theorem counted_after (some : 0 < limits.msgLimit)
    (uninterrupted : ∀ index, (passes index).interrupted = false)
    (kept : ∀ count, discards limits (after limits startTime passes count) (passes count) = false)
    (count : ℕ) :
    Counted limits (Nat.count (fun index => publishes limits (passes index) = true) count)
      (after limits startTime passes count) := by
  induction count with
  | zero =>
    refine ⟨rfl, Int.le_of_lt some, fun _ => ⟨rfl, rfl, rfl⟩, ?_⟩
    intro impossible
    cases impossible
  | succ count ih =>
    have next := ih.next some (uninterrupted count) (kept count)
    have more : Nat.count (fun index => publishes limits (passes index) = true) (count + 1) =
        Nat.count (fun index => publishes limits (passes index) = true) count +
          (publishes limits (passes count)).toNat := by
      rw [Nat.count_succ]
      cases publishes limits (passes count) <;> rfl
    rw [more]
    exact next

/-- The loop stops at its limit exactly when it discards no count, and publishes often enough. -/
theorem stopsAtLimit_iff (some : 0 < limits.msgLimit)
    (uninterrupted : ∀ index, (passes index).interrupted = false) :
    StopsAtLimit limits startTime passes ↔ KeepsCount limits startTime passes := by
  constructor
  · rintro ⟨never_more, count, stopped, all, _⟩
    refine ⟨fun index => ?_, count, ?_⟩
    · by_contra discarded
      have short := uncounted_of_discards (msgCount_le_published limits startTime passes index)
        (Bool.not_eq_false _ ▸ discarded)
      have later := uncounted_later (Nat.le_max_left (index + 1) count) short
      have same := stopped_later (Nat.le_max_right (index + 1) count) stopped
      rw [same] at later
      have reached := stopped_at_limit uninterrupted count stopped
      omega
    · have enough := published_le_count limits startTime passes count
      omega
  · rintro ⟨kept, count, enough⟩
    have counted := counted_after some uninterrupted kept
    refine ⟨fun index => (counted index).bounded, count + 1, ?_⟩
    have stopped : (after limits startTime passes (count + 1)).stopped = true := by
      show ((after limits startTime passes count).pass limits (passes count)).stopped = true
      rcases pass_cases limits (after limits startTime passes count) (passes count) with
        ⟨before, same⟩ | ⟨_, _, ended⟩ | ⟨running, going, _, _⟩
      · rw [same]
        exact before
      · rw [ended]
      · have all := ((counted count).running running).1
        have equal := (counted count).counted
        simp only [keepGoing, uninterrupted count, Bool.not_false, Bool.and_true, Bool.or_eq_true,
          beq_iff_eq, decide_eq_true_eq] at going
        omega
    exact ⟨stopped, (counted (count + 1)).ended stopped⟩

structure ScheduledCounts (limits : ProducerLimits) (count : ℕ) (counts : ProducerCounts) : Prop where
  counted : counts.msgCount = counts.published
  published : (counts.published : ℤ) = min (count : ℤ) limits.msgLimit
  completed : counts.completed = decide (limits.msgLimit < count)
  reasons : counts.reasons = if limits.msgLimit < count then [.messageLimit] else []

theorem ScheduledCounts.next {count : ℕ} (some : 0 < limits.msgLimit)
    (scheduled : ScheduledCounts limits count counts) :
    ScheduledCounts limits (count + 1) (counts.maybeHandlePublish limits false found) := by
  obtain ⟨counted, published, completed, reasons⟩ := scheduled
  unfold maybeHandlePublish
  by_cases below : (count : ℤ) < limits.msgLimit
  · have going : counts.keepGoing limits false = true := by
      simp only [keepGoing, Bool.not_false, Bool.and_true, Bool.or_eq_true, decide_eq_true_eq]
      omega
    have before : ¬ limits.msgLimit < count := by omega
    have still : ¬ limits.msgLimit < (count + 1 : ℕ) := by omega
    rw [if_pos going]
    rw [if_neg before] at reasons
    rw [decide_eq_false before] at completed
    constructor
    · simp only [handlePublish]
      omega
    · simp only [handlePublish]
      omega
    · rw [decide_eq_false still]
      exact completed
    · rw [if_neg still]
      exact reasons
  · have stays : counts.keepGoing limits false = false := by
      simp only [keepGoing, Bool.not_false, Bool.and_true, Bool.or_eq_false_iff, beq_eq_false_iff_ne,
        decide_eq_false_iff_not]
      omega
    have reached : counts.messageLimitReached limits = true := by
      simp only [messageLimitReached, Bool.and_eq_true, bne_iff_ne, decide_eq_true_eq]
      omega
    have beyond : limits.msgLimit < (count + 1 : ℕ) := by omega
    obtain ⟨sameCount, samePublished, sameCompleted, sameReasons⟩ :=
      waitForConfirms_counts limits found counts
    obtain ⟨keptCount, keptPublished⟩ := countDown_counts (counts.waitForConfirms limits found) .messageLimit
    rw [if_neg (Bool.eq_false_iff.mp stays), if_pos reached]
    constructor
    · rw [keptCount, keptPublished, sameCount, samePublished, counted]
    · rw [keptPublished, samePublished]
      omega
    · rw [decide_eq_true beyond, countDown]
      split
      · assumption
      · rfl
    · rw [if_pos beyond, countDown, sameCompleted]
      by_cases again : limits.msgLimit < count
      · rw [decide_eq_true again] at completed
        rw [if_pos again] at reasons
        rw [if_pos completed, sameReasons, reasons]
      · rw [decide_eq_false again] at completed
        rw [if_neg again] at reasons
        rw [if_neg (Bool.eq_false_iff.mp completed)]
        show (counts.waitForConfirms limits found).reasons ++ [.messageLimit] = [.messageLimit]
        rw [sameReasons, reasons, List.nil_append]

theorem scheduled_counts (some : 0 < limits.msgLimit) {invocations : ℕ → Invocation}
    (uninterrupted : ∀ index, (invocations index).interrupted = false) (count : ℕ) :
    ScheduledCounts limits count (scheduled limits invocations count) := by
  induction count with
  | zero =>
    have below : ¬ limits.msgLimit < (0 : ℕ) := by omega
    constructor
    · rfl
    · show (0 : ℤ) = min ((0 : ℕ) : ℤ) limits.msgLimit
      omega
    · rw [decide_eq_false below]
      rfl
    · rw [if_neg below]
      rfl
  | succ count ih =>
    rw [scheduled, uninterrupted count]
    exact ih.next some

/-- The scheduled runnable always stops at the limit. The loop of `run` does so exactly when it never
    resets a count of messages, and is told to publish often enough. -/
theorem message_limit (limits : ProducerLimits) (some : 0 < limits.msgLimit)
    (invocations : ℕ → Invocation) (startTime : ℤ) (passes : ℕ → LoopPass)
    (scheduledOn : ∀ index, (invocations index).interrupted = false)
    (uninterrupted : ∀ index, (passes index).interrupted = false) :
    (∀ count, ScheduledCounts limits count (scheduled limits invocations count)) ∧
      (StopsAtLimit limits startTime passes ↔ KeepsCount limits startTime passes) :=
  ⟨scheduled_counts some scheduledOn, stopsAtLimit_iff some uninterrupted⟩

theorem keepsCount_of_fixed (fixed : limits.variableRate = false) : KeepsCount limits startTime passes := by
  refine ⟨fun count => ?_, limits.msgLimit.toNat, ?_⟩
  · simp [discards, statsDue, fixed]
  · have all : ∀ index, publishes limits (passes index) = true := by simp [publishes, fixed]
    simp only [all, Nat.count_true]
    exact Int.self_le_toNat _

end

def evenPasses (time : ℤ) (index : ℕ) : LoopPass := ⟨false, false, time * (index + 1), fun _ => ⟨true, false⟩⟩

def fixedLimits : ProducerLimits := ⟨2, false, .some 30⟩

theorem message_limit_fixed : StopsAtLimit fixedLimits 0 (evenPasses 5000) ∧
    (scheduled fixedLimits (fun _ => ⟨false, fun _ => ⟨true, false⟩⟩) 4).reasons = [.messageLimit] := by
  obtain ⟨counts, stops⟩ := message_limit fixedLimits (by decide) (fun _ => ⟨false, fun _ => ⟨true, false⟩⟩) 0
    (evenPasses 5000) (fun _ => rfl) fun _ => rfl
  exact ⟨stops.mpr (keepsCount_of_fixed rfl), (counts 4).reasons⟩

def variableLimits : ProducerLimits := ⟨2, true, none⟩

/-- At a variable rate, a pass that ends more than 1000 ns after the last reset forgets its message. -/
theorem message_limit_exceeded :
    ¬ ∀ (limits : ProducerLimits) (startTime : ℤ) (passes : ℕ → LoopPass), 0 < limits.msgLimit →
      (∀ index, (passes index).interrupted = false) → StopsAtLimit limits startTime passes := by
  intro always
  have never_more := (always variableLimits 0 (evenPasses 5000) (by decide) fun _ => rfl).never_more 3
  revert never_more
  decide

end PerfTestProof
