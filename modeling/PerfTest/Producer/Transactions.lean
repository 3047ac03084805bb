import PerfTest.Producer.StopAnnounced

namespace PerfTestModel

structure PublishCall.Succeeds (call : PublishCall) : Prop where
  connected : call.recovering = false
  permitted : call.permit = .acquired
  written : call.attempt = .published
  committed : call.commit = none

structure ProducerPass.Succeeds (pass : ProducerPass) : Prop where
  unlimited : pass.rateLimiter = none
  undisturbed : pass.waitInterrupted = none
  call : pass.call.Succeeds

namespace ProducerThread

def publishedOne (settings : ProducerSettings) (thread : ProducerThread) : ProducerThread :=
  { thread with
    msgCount := Java.int (thread.msgCount + 1)
    sent := thread.sent + 1
    uncommitted := if commitDue settings (Java.int (thread.msgCount + 1)) then 0 else thread.uncommitted + 1
    published := thread.published + 1 }

def afterPublish (settings : ProducerSettings) (pass : ProducerPass) (thread : ProducerThread) : ProducerThread :=
  if settings.variableRate && pass.rateIsZero then thread else thread.publishedOne settings

def resetDue (settings : ProducerSettings) (pass : ProducerPass) (thread : ProducerThread) : Bool :=
  settings.variableRate && decide (1000 < Java.long (pass.now - thread.lastStatsTime))

end ProducerThread

end PerfTestModel

namespace PerfTestProof

open PerfTestModel Systems Program ProducerThread

def limitReason : String := "Producer reached message limit"

/-- A message is not counted beyond the largest `int`, unless the commits go on in time from the
    smallest one. -/
def WrapsInTime (settings : ProducerSettings) (thread : ProducerThread) : Prop :=
  thread.msgCount = 2 ^ 31 - 1 → 2 * (2 ^ 31 % settings.txSize) ≤ settings.txSize

structure Committing (settings : ProducerSettings) (thread : ProducerThread) : Prop where
  range : -2 ^ 31 ≤ thread.msgCount ∧ thread.msgCount < 2 ^ 31
  bound : (thread.uncommitted : ℤ) ≤ thread.msgCount % settings.txSize
  limited : 0 < settings.msgLimit → 0 ≤ thread.msgCount ∧ thread.msgCount ≤ settings.msgLimit ∧
    (thread.uncommitted : ℤ) = thread.msgCount % settings.txSize
  idle : settings.msgLimit < 0 → thread.msgCount = 0
  announced : limitReason ∈ thread.countDowns → messageLimitReached settings thread = true

section

variable {settings : ProducerSettings} {thread after : ProducerThread} {call : PublishCall} {pass : ProducerPass}
  {returned : Unit → ProducerThread → Prop} {thrown : ProducerException → ProducerThread → Prop}

theorem handlePublish_succeeds (succeeds : call.Succeeds) :
    (handlePublish settings call).ends returned thrown thread ↔ returned () (thread.publishedOne settings) := by
  obtain ⟨recovering, sleepInterrupted, permit, attempt, commit⟩ := call
  obtain ⟨rfl, rfl, rfl, rfl⟩ := succeeds
  have permitted : maybeWaitIfTooManyOutstandingPublishConfirms settings .acquired = pure () := by
    unfold maybeWaitIfTooManyOutstandingPublishConfirms
    cases settings.confirmTimeout <;> rfl
  unfold handlePublish publishAndCount
  rw [if_neg Bool.false_ne_true, ends_tryCatch, permitted, pure_bind, ends_bind, dealWithWriteOperation_ends]
  simp only [publish, basicPublish, incrementMessageCount, ends_bind, ends_modify, ends_get, ends_pure]
  rw [commitTransactionIfNecessary_ends]
  unfold publishedOne
  split
  · rfl
  · rfl

theorem resetStatsIfDue_ends_iff {now : ℤ} :
    (resetStatsIfDue settings now).ends returned thrown thread ↔
      returned () (if settings.variableRate && decide (1000 < Java.long (now - thread.lastStatsTime)) then
        { thread with lastStatsTime := now, msgCount := 0 } else thread) := Iff.rfl

theorem loopBody_succeeds (succeeds : pass.Succeeds) :
    (loopBody settings pass).ends returned thrown thread ↔
      returned () (if resetDue settings pass (thread.afterPublish settings pass) then
        { thread.afterPublish settings pass with lastStatsTime := pass.now, msgCount := 0 }
      else thread.afterPublish settings pass) := by
  unfold loopBody afterPublish
  rw [succeeds.unlimited]
  simp only [orThrow, pure_bind, ends_bind, waitOrPublish, ends_ite, succeeds.undisturbed,
    waitForOneSecond, sleepOrThrow, ends_pure, handlePublish_succeeds succeeds.call]
  split
  · exact resetStatsIfDue_ends_iff
  · exact resetStatsIfDue_ends_iff

theorem emod_succ {value size : ℤ} (positive : 0 < size) (between : ¬ size ∣ value + 1) :
    (value + 1) % size = value % size + 1 := by
  have nonneg := Int.emod_nonneg value (ne_of_gt positive)
  have below := Int.emod_lt_of_pos value positive
  by_cases last : value % size + 1 = size
  · refine absurd (Int.dvd_of_emod_eq_zero ?_) between
    rw [← Int.emod_add_emod, last, Int.emod_self]
  · rw [← Int.emod_add_emod]
    exact Int.emod_eq_of_lt (by omega) (by omega)

theorem int_wraps : Java.int (2 ^ 31 - 1 + 1) = -2 ^ 31 := by decide

theorem uncommitted_succ {count size : ℤ} {uncommitted : ℕ} (positive : 0 < size)
    (range : -2 ^ 31 ≤ count ∧ count < 2 ^ 31) (bound : (uncommitted : ℤ) ≤ count % size)
    (wraps : count = 2 ^ 31 - 1 → 2 * (2 ^ 31 % size) ≤ size) (between : ¬ size ∣ Java.int (count + 1)) :
    ((uncommitted + 1 : ℕ) : ℤ) ≤ Java.int (count + 1) % size := by
  by_cases last : count = 2 ^ 31 - 1
  · have early := wraps last
    rw [last] at bound between ⊢
    rw [int_wraps, Int.dvd_neg] at between
    have before : (2 ^ 31 - 1 + 1 : ℤ) % size = (2 ^ 31 - 1) % size + 1 := emod_succ positive between
    rw [int_wraps, Int.neg_emod, if_neg between]
    have size_eq : (size.natAbs : ℤ) = size := Int.natAbs_of_nonneg (le_of_lt positive)
    have succ : (2 ^ 31 - 1 + 1 : ℤ) = 2 ^ 31 := by decide
    rw [succ] at before
    omega
  · rw [(Java.int_succ range.1 range.2).mpr last] at between ⊢
    rw [emod_succ positive between]
    omega

theorem commitDue_iff (positive : 0 < settings.txSize) {messageCount : ℤ} :
    commitDue settings messageCount = true ↔ settings.txSize ∣ messageCount := by
  rw [commitDue, decide_eq_true_eq, Int.dvd_iff_tmod_eq_zero]
  exact and_iff_right (ne_of_gt positive)

theorem limitReached_iff : messageLimitReached settings thread = true ↔
    settings.msgLimit ≠ 0 ∧ settings.msgLimit ≤ thread.msgCount := by
  unfold messageLimitReached
  split
  · rename_i unlimited
    exact iff_of_false Bool.false_ne_true fun limited => limited.1 unlimited
  · rename_i limited
    rw [decide_eq_true_eq]
    exact (and_iff_right limited).symm

/-- A message that is counted below the limit joins the open transaction, or its commit ends it. -/
theorem Committing.publishedOne (committing : Committing settings thread) (positive : 0 < settings.txSize)
    (fits : settings.msgLimit < 2 ^ 31) (below : settings.msgLimit = 0 ∨ thread.msgCount < settings.msgLimit)
    (wraps : WrapsInTime settings thread) : Committing settings (thread.publishedOne settings) := by
  have nonneg (value : ℤ) := Int.emod_nonneg value (ne_of_gt positive)
  have counted (limited : 0 < settings.msgLimit) :
      Java.int (thread.msgCount + 1) = thread.msgCount + 1 :=
    (Java.int_succ committing.range.1 committing.range.2).mpr (by omega)
  refine ⟨Java.int_range _, ?_, fun limited => ⟨?_, ?_, ?_⟩, fun negative => ?_, fun announced => ?_⟩
  · show ((if commitDue settings _ then 0 else thread.uncommitted + 1 : ℕ) : ℤ) ≤ _
    split
    · exact nonneg _
    · rename_i between
      rw [commitDue_iff positive] at between
      exact uncommitted_succ positive committing.range committing.bound wraps between
  · have before := (committing.limited limited).1
    show 0 ≤ Java.int (thread.msgCount + 1)
    rw [counted limited]
    omega
  · show Java.int (thread.msgCount + 1) ≤ settings.msgLimit
    rw [counted limited]
    omega
  · have before := (committing.limited limited).2.2
    show ((if commitDue settings (Java.int (thread.msgCount + 1)) then 0 else thread.uncommitted + 1 : ℕ) : ℤ) =
      Java.int (thread.msgCount + 1) % settings.txSize
    rw [counted limited]
    split
    · rename_i due
      exact (Int.emod_eq_zero_of_dvd ((commitDue_iff positive).mp due)).symm
    · rename_i between
      rw [emod_succ positive fun due => between ((commitDue_iff positive).mpr due)]
      omega
  · have still := committing.idle negative
    omega
  · have reached := limitReached_iff.mp (committing.announced announced)
    omega

/-- The statistics keep the open transaction in step only where the count is a multiple of its size. -/
theorem Committing.reset (committing : Committing settings thread) (lastStatsTime : ℤ)
    (unannounced : limitReason ∉ thread.countDowns) (multiple : settings.txSize ∣ thread.msgCount) :
    Committing settings { thread with lastStatsTime, msgCount := 0 } := by
  have closed := committing.bound
  rw [Int.emod_eq_zero_of_dvd multiple] at closed
  refine ⟨by simp, ?_, fun limited => ⟨le_rfl, le_of_lt limited, ?_⟩, fun _ => rfl, fun announced => ?_⟩
  · simpa using closed
  · simp only [Int.zero_emod]
    omega
  · exact absurd announced unannounced

theorem goesOn_below (goes : goesOn settings thread = true) :
    settings.msgLimit = 0 ∨ thread.msgCount < settings.msgLimit := by
  rw [goesOn, Bool.and_eq_true, decide_eq_true_eq] at goes
  exact goes.1

theorem Committing.flagged (committing : Committing settings thread) (interrupted : Bool) :
    Committing settings (thread.flagged interrupted) :=
  ⟨committing.range, committing.bound, committing.limited, committing.idle, committing.announced⟩

theorem Committing.unannounced (committing : Committing settings thread)
    (below : settings.msgLimit = 0 ∨ thread.msgCount < settings.msgLimit) : limitReason ∉ thread.countDowns := by
  intro announced
  have reached := limitReached_iff.mp (committing.announced announced)
  omega

theorem countDown_committing (committing : Committing settings thread) {reason : String}
    (reached : reason = limitReason → messageLimitReached settings thread = true) :
    (countDown reason).ends (fun _ => Committing settings) thrown thread := by
  show Committing settings (if thread.completed then thread else _)
  split
  · exact committing
  · refine ⟨committing.range, committing.bound, committing.limited, committing.idle, fun announced => ?_⟩
    rcases List.mem_append.mp announced with before | now
    · exact committing.announced before
    · exact reached (List.mem_singleton.mp now).symm

theorem finish_committing (committing : Committing settings thread) (found : ℕ → WaitPass) :
    (finish settings found).ends (fun _ => Committing settings) thrown thread := by
  unfold finish
  rw [ends_bind, ends_get, ends_ite]
  split
  · rename_i reached
    rw [ends_ite]
    split
    · exact countDown_committing committing fun same => absurd same (by decide)
    · rename_i limited
      rw [ends_bind, ProducerThread.maybeWaitForPublishConfirms, ends_modify]
      exact countDown_committing (committing.flagged _) fun _ => limitReached_iff.mpr ⟨limited, reached⟩
  · exact committing

structure InStep (settings : ProducerSettings) (pass : ProducerPass) (thread : ProducerThread) : Prop where
  wraps : (settings.variableRate && pass.rateIsZero) = false → WrapsInTime settings thread
  resets : resetDue settings pass (thread.afterPublish settings pass) = true →
    settings.txSize ∣ (thread.afterPublish settings pass).msgCount

theorem InStep.flagged (inStep : InStep settings pass thread) (interrupted : Bool) :
    InStep settings pass (thread.flagged interrupted) := by
  obtain ⟨wraps, resets⟩ := inStep
  refine ⟨wraps, ?_⟩
  unfold resetDue ProducerThread.afterPublish at resets ⊢
  generalize (settings.variableRate && pass.rateIsZero) = waits at resets ⊢
  cases waits with
  | true => exact resets
  | false => exact resets

theorem Committing.afterPublish (committing : Committing settings thread) (positive : 0 < settings.txSize)
    (fits : settings.msgLimit < 2 ^ 31) (below : settings.msgLimit = 0 ∨ thread.msgCount < settings.msgLimit)
    (inStep : InStep settings pass thread) :
    Committing settings (thread.afterPublish settings pass) ∧
      (thread.afterPublish settings pass).countDowns = thread.countDowns := by
  have wraps := inStep.wraps
  unfold ProducerThread.afterPublish
  split
  · exact ⟨committing, rfl⟩
  · rename_i publishes
    exact ⟨committing.publishedOne positive fits below (wraps (Bool.eq_false_of_not_eq_true publishes)), rfl⟩

def PassInStep (settings : ProducerSettings) (pass : ProducerPass) (run : ProducerRun) : Prop :=
  run.status = .running → goesOn settings (run.thread.atPass pass) = true → InStep settings pass run.thread

theorem loopPass_committing (committing : Committing settings thread) (positive : 0 < settings.txSize)
    (fits : settings.msgLimit < 2 ^ 31) (succeeds : pass.Succeeds)
    (inStep : goesOn settings (thread.atPass pass) = true → InStep settings pass thread) :
    (loopPass settings pass).ends (fun _ => Committing settings) (fun _ => Committing settings) thread := by
  unfold loopPass
  rw [ends_bind, ends_modify, ends_bind]
  change (keepGoing settings).ends _ _ (thread.atPass pass)
  refine ends_mono keepGoing_ends ?_ fun _ _ => False.elim
  rintro going _ ⟨rfl, interrupted, rfl, _⟩
  have checked : Committing settings ((thread.atPass pass).flagged interrupted) := committing.flagged interrupted
  rw [ends_ite]
  split
  · rename_i goes
    have below := goesOn_below goes
    have step : InStep settings pass ((thread.atPass pass).flagged interrupted) := (inStep goes).flagged interrupted
    obtain ⟨published, same⟩ := checked.afterPublish positive fits below step
    rw [ends_bind, ends_tryCatch, loopBody_succeeds succeeds, ends_pure]
    split
    · rename_i due
      refine published.reset pass.now ?_ (step.resets due)
      rw [same]
      exact checked.unannounced below
    · exact published
  · rw [ends_bind]
    exact ends_mono (finish_committing checked pass.found) (fun _ _ => id) fun _ _ => id

def Fresh (thread : ProducerThread) : Prop := thread.uncommitted = 0 ∧ thread.countDowns = []

theorem Fresh.atStart (fresh : Fresh thread) (startup : Startup) : Committing settings (thread.atStart startup) := by
  obtain ⟨closed, unannounced⟩ := fresh
  refine ⟨?_, ?_, fun limited => ⟨le_rfl, le_of_lt limited, ?_⟩, fun _ => rfl, fun announced => ?_⟩
  · simp [ProducerThread.atStart]
  · simp [ProducerThread.atStart, closed]
  · simp [ProducerThread.atStart, closed]
  · rw [ProducerThread.atStart, unannounced] at announced
    cases announced

theorem announceStart_committing (fresh : Fresh thread) (startup : Startup) :
    (announceStart startup).ends (fun _ after => after = thread.atStart startup) (fun _ => Committing settings)
      thread := by
  unfold announceStart
  rw [ends_bind, ends_modify]
  cases startup.listener with
  | none => rfl
  | some exception => exact fresh.atStart startup

theorem start_committing (committing : Committing settings thread) (fresh : Fresh thread) (startup : Startup) :
    (start settings startup).ends (fun _ => Committing settings) (fun _ => Committing settings) thread := by
  have announces : (announceStart startup >>= fun _ => pure true).ends (fun _ => Committing settings)
      (fun _ => Committing settings) thread := by
    rw [ends_bind]
    refine ends_mono (announceStart_committing fresh startup) ?_ fun _ _ => id
    rintro _ _ rfl
    exact fresh.atStart startup
  unfold start delayStart
  rw [ends_bind, ends_ite]
  split
  · rw [ends_ite]
    split
    · exact committing
    · cases startup.delayInterrupted with
      | none => exact announces
      | some description => exact committing.flagged true
  · exact announces

theorem maybeHandlePublish_committing {invocation : ScheduledInvocation} (committing : Committing settings thread)
    (positive : 0 < settings.txSize) (fits : settings.msgLimit < 2 ^ 31) (succeeds : invocation.call.Succeeds)
    (inTime : goesOn settings thread = true → WrapsInTime settings thread) :
    (maybeHandlePublish settings invocation).ends (fun _ => Committing settings) (fun _ _ => False) thread := by
  unfold maybeHandlePublish
  rw [ends_bind]
  refine ends_mono keepGoing_ends ?_ fun _ _ => False.elim
  rintro going _ ⟨rfl, interrupted, rfl, _⟩
  have checked : Committing settings (thread.flagged interrupted) := committing.flagged interrupted
  rw [ends_ite]
  split
  · rename_i goes
    rw [handlePublish_succeeds succeeds]
    have below := goesOn_below goes
    exact checked.publishedOne positive fits below (inTime goes)
  · rw [ends_bind, ends_get, ends_ite]
    split
    · rename_i reached
      rw [ends_bind, ProducerThread.maybeWaitForPublishConfirms, ends_modify]
      exact countDown_committing (checked.flagged _) fun _ => reached
    · exact countDown_committing checked fun same => absurd same (by decide)

theorem runnable_committing {startup : Startup} {initialized : Bool} {invocation : ScheduledInvocation}
    (committing : Committing settings thread) (fresh : initialized = false → Fresh thread)
    (positive : 0 < settings.txSize) (fits : settings.msgLimit < 2 ^ 31) (succeeds : invocation.call.Succeeds)
    (inTime : goesOn settings (thread.atInvocation startup initialized invocation) = true →
      WrapsInTime settings (thread.atInvocation startup initialized invocation)) :
    (runnable settings startup initialized invocation).ends (fun _ => Committing settings)
      (fun _ => Committing settings) thread := by
  have handles (began : ProducerThread) (committing : Committing settings began)
      (inTime : goesOn settings began = true → WrapsInTime settings began) :
      (maybeHandlePublish settings invocation).ends (fun _ => Committing settings) (fun _ _ => False) began :=
    maybeHandlePublish_committing committing positive fits succeeds inTime
  unfold runnable
  rw [ends_bind, ends_modify, ends_bind]
  cases initialized with
  | true =>
    rw [announceFirst, if_pos rfl, ends_pure, ends_bind, ends_tryCatch]
    exact ends_mono (handles _ (committing.flagged _) inTime) (fun _ _ => id) fun _ _ => False.elim
  | false =>
    have fresh : Fresh (thread.flagged invocation.interrupted) := fresh rfl
    refine ends_mono (announceStart_committing fresh startup) ?_ fun _ _ => id
    rintro _ _ rfl
    rw [ends_bind, ends_tryCatch]
    exact ends_mono (handles _ (fresh.atStart startup) inTime) (fun _ _ => id) fun _ _ => False.elim

end

section

open ProducerRun

variable {settings : ProducerSettings} {startup : Startup} {passes : ℕ → ProducerPass}
  {invocations : ℕ → ScheduledInvocation} {thread : ProducerThread}

theorem execute_committing {run : ProducerRun} {call : ProducerCall Bool}
    (committing : Committing settings run.thread)
    (called : run.status = .running →
      call.ends (fun _ => Committing settings) (fun _ => Committing settings) run.thread) :
    Committing settings (run.execute call).thread := by
  by_cases running : run.status = .running
  · rcases execute_ends run running (called running) with
      ⟨_, after, committing, executed⟩ | ⟨exception, after, committing, executed⟩
    · rw [executed]
      exact committing
    · rw [executed]
      exact committing
  · rw [execute, if_neg running]
    exact committing

theorem fresh_committing : Committing settings fresh.thread := by
  have isFresh : Fresh ProducerThread.initial := ⟨rfl, rfl⟩
  exact isFresh.atStart ⟨none, 0, none⟩

theorem looped_committing (positive : 0 < settings.txSize) (fits : settings.msgLimit < 2 ^ 31)
    (succeed : ∀ index, (passes index).Succeeds)
    (inStep : ∀ index, PassInStep settings (passes index) (looped settings startup passes index)) (count : ℕ) :
    Committing settings (looped settings startup passes count).thread := by
  induction count with
  | zero => exact execute_committing fresh_committing fun _ => start_committing fresh_committing ⟨rfl, rfl⟩ startup
  | succ count ih =>
    refine execute_committing ih fun running => ?_
    exact loopPass_committing ih positive fits (succeed count) (inStep count running)

def InvocationInStep (settings : ProducerSettings) (startup : Startup) (initialized : Bool)
    (invocation : ScheduledInvocation) (run : ProducerRun) : Prop :=
  run.status = .running → goesOn settings (run.thread.atInvocation startup initialized invocation) = true →
    WrapsInTime settings (run.thread.atInvocation startup initialized invocation)

theorem invoked_committing (positive : 0 < settings.txSize) (fits : settings.msgLimit < 2 ^ 31)
    (succeed : ∀ index, (invocations index).call.Succeeds)
    (inStep : ∀ index, InvocationInStep settings startup (index != 0) (invocations index)
      (invoked settings startup invocations index)) (count : ℕ) :
    Committing settings (invoked settings startup invocations count).thread := by
  induction count with
  | zero => exact fresh_committing
  | succ count ih =>
    have first : (count != 0) = false → Fresh (invoked settings startup invocations count).thread := by
      intro first
      rw [bne_eq_false_iff_eq.mp first]
      exact ⟨rfl, rfl⟩
    exact execute_committing ih fun running =>
      runnable_committing ih first positive fits (succeed count) (inStep count running)

structure Transacted (settings : ProducerSettings) (thread : ProducerThread) : Prop where
  below : (thread.uncommitted : ℤ) ≤ settings.txSize - 1
  limit : limitReason ∈ thread.countDowns →
    (thread.uncommitted = 0 ↔ settings.msgLimit < 0 ∨ settings.txSize ∣ settings.msgLimit)

theorem Committing.transacted (committing : Committing settings thread) (positive : 0 < settings.txSize) :
    Transacted settings thread := by
  have bound := committing.bound
  have below := Int.emod_lt_of_pos thread.msgCount positive
  refine ⟨by omega, fun announced => ?_⟩
  obtain ⟨limited, reached⟩ := limitReached_iff.mp (committing.announced announced)
  by_cases negative : settings.msgLimit < 0
  · rw [committing.idle negative, Int.zero_emod] at bound
    exact iff_of_true (by omega) (.inl negative)
  · obtain ⟨_, within, exactly⟩ := committing.limited (by omega)
    have same : thread.msgCount = settings.msgLimit := le_antisymm within reached
    rw [same] at exactly
    rw [or_iff_right negative, Int.dvd_iff_emod_eq_zero, ← exactly]
    exact Int.natCast_eq_zero.symm

/-- A producer without failures commits in time as long as its statistics keep the count in step with its
    transactions. -/
theorem transactions_committed (settings : ProducerSettings) (startup : Startup) (passes : ℕ → ProducerPass)
    (invocations : ℕ → ScheduledInvocation) (positive : 0 < settings.txSize) (fits : settings.msgLimit < 2 ^ 31)
    (loopSucceeds : ∀ index, (passes index).Succeeds) (scheduledSucceeds : ∀ index, (invocations index).call.Succeeds)
    (loopInStep : ∀ index, PassInStep settings (passes index) (looped settings startup passes index))
    (scheduledInStep : ∀ index, InvocationInStep settings startup (index != 0) (invocations index)
      (invoked settings startup invocations index)) :
    (∀ count, Transacted settings (looped settings startup passes count).thread) ∧
      ∀ count, Transacted settings (invoked settings startup invocations count).thread := by
  refine ⟨fun count => ?_, fun count => ?_⟩
  · exact (looped_committing positive fits loopSucceeds loopInStep count).transacted positive
  · exact (invoked_committing positive fits scheduledSucceeds scheduledInStep count).transacted positive

def pairsOf (msgLimit : ℤ) (variableRate : Bool) : ProducerSettings := ⟨⟨msgLimit, variableRate, none⟩, 2, false, 0⟩

def successfulCall : PublishCall := ⟨false, false, .acquired, .published, none⟩

def successfulPasses (nanoseconds : ℤ) (index : ℕ) : ProducerPass :=
  ⟨⟨false, false, nanoseconds * (index + 1), fun _ => ⟨true, false⟩⟩, none, none, successfulCall, false⟩

def successfulInvocation : ScheduledInvocation := ⟨⟨false, fun _ => ⟨true, false⟩⟩, successfulCall⟩

theorem transactions_committed_pairs :
    Transacted (pairsOf 4 false) (looped (pairsOf 4 false) promptStartup (successfulPasses 5000) 1).thread ∧
    (looped (pairsOf 4 false) promptStartup (successfulPasses 5000) 5).thread.uncommitted = 0 := by
  have inTime (thread : ProducerThread) : WrapsInTime (pairsOf 4 false) thread := fun _ => by decide
  obtain ⟨looping, _⟩ := transactions_committed (pairsOf 4 false) promptStartup (successfulPasses 5000)
    (fun _ => successfulInvocation) (by decide) (by decide) (fun _ => ⟨rfl, rfl, rfl, rfl, rfl, rfl⟩)
    (fun _ => ⟨rfl, rfl, rfl, rfl⟩) (fun _ _ _ => ⟨fun _ => inTime _, nofun⟩) fun _ _ _ => inTime _
  exact ⟨looping 1, ((looping 5).limit (by decide)).mpr (.inr (by decide))⟩

/-- At a variable rate a pass of 5000 ns forgets its message, so no commit is ever due. At a limit of 3 the
    last message is not committed. -/
theorem transactions_left_open :
    ¬ ((looped (pairsOf 0 true) promptStartup (successfulPasses 5000) 2).thread.uncommitted : ℤ) ≤
      (pairsOf 0 true).txSize - 1 ∧
    limitReason ∈ (looped (pairsOf 3 false) promptStartup (successfulPasses 5000) 4).thread.countDowns ∧
    (looped (pairsOf 3 false) promptStartup (successfulPasses 5000) 4).thread.uncommitted ≠ 0 := by
  decide

end

end PerfTestProof
