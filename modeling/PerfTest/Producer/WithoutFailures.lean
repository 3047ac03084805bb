import PerfTest.Producer.Transactions

namespace PerfTestProof

open PerfTestModel Systems Program ProducerThread ProducerRun

structure Follows (thread : ProducerThread) (counts : ProducerCounts) : Prop where
  msgCount : thread.msgCount = counts.msgCount
  published : thread.published = counts.published
  completed : thread.completed = counts.completed
  countDowns : thread.countDowns = counts.reasons.map ProducerStopReason.text

structure FollowsLoop (run : ProducerRun) (loop : RunLoop) : Prop where
  status : run.status = if loop.stopped then .returned else .running
  lastStatsTime : loop.stopped = false → run.thread.lastStatsTime = loop.lastStatsTime
  counts : Follows run.thread loop.counts
  cleared : loop.stopped = false → run.thread.interrupted = false

section

variable {settings : ProducerSettings} {thread : ProducerThread} {counts : ProducerCounts} {loop : RunLoop}
  {pass : ProducerPass} {thrown : ProducerException → ProducerThread → Prop}

theorem Follows.flagged (follows : Follows thread counts) (interrupted : Bool) :
    Follows (thread.flagged interrupted) counts :=
  ⟨follows.msgCount, follows.published, follows.completed, follows.countDowns⟩

theorem Follows.countDown (follows : Follows thread counts) (reason : ProducerStopReason) :
    (ProducerThread.countDown reason.text).ends (fun _ after => Follows after (counts.countDown reason)) thrown
      thread := by
  show Follows (if thread.completed then thread else _) _
  unfold ProducerCounts.countDown
  rw [follows.completed]
  split
  · exact follows
  · refine ⟨follows.msgCount, follows.published, rfl, ?_⟩
    rw [List.map_append, follows.countDowns]
    rfl

theorem Follows.waits (follows : Follows thread counts) (limits : ProducerLimits) (found : ℕ → WaitPass) :
    Follows thread (counts.waitForConfirms limits found) := by
  unfold ProducerCounts.waitForConfirms
  split
  · exact ⟨follows.msgCount, follows.published, follows.completed, follows.countDowns⟩
  · exact follows

theorem Follows.finish (follows : Follows thread counts) (found : ℕ → WaitPass) :
    (ProducerThread.finish settings found).ends
      (fun _ after => Follows after (counts.finish settings.toProducerLimits found)) thrown thread := by
  unfold ProducerThread.finish ProducerCounts.finish
  rw [ends_bind, ends_get, ends_ite, follows.msgCount]
  split
  · rw [ends_ite]
    split
    · exact follows.countDown .threadInterrupted
    · rw [ends_bind, ProducerThread.maybeWaitForPublishConfirms, ends_modify]
      exact ((follows.flagged _).waits _ found).countDown .messageLimit
  · exact follows

theorem Follows.goesOn (follows : Follows thread counts) :
    goesOn settings thread = counts.keepGoing settings.toProducerLimits thread.interrupted := by
  unfold ProducerThread.goesOn ProducerCounts.keepGoing
  rw [follows.msgCount, Bool.decide_or, beq_eq_decide]

theorem Follows.publishedOne (follows : Follows thread counts) (fits : (counts.msgCount : ℤ) + 1 < 2 ^ 31) :
    Follows (thread.publishedOne settings) counts.handlePublish := by
  have counted : Java.int (counts.msgCount + 1) = counts.msgCount + 1 :=
    (Java.int_succ (by omega) (by omega)).mpr (by omega)
  refine ⟨?_, congrArg (· + 1) follows.published, follows.completed, follows.countDowns⟩
  show Java.int (thread.msgCount + 1) = ((counts.msgCount + 1 : ℕ) : ℤ)
  rw [follows.msgCount, counted, Nat.cast_add, Nat.cast_one]

theorem Follows.afterPublish (follows : Follows thread counts) (fits : (counts.msgCount : ℤ) + 1 < 2 ^ 31) :
    Follows (thread.afterPublish settings pass)
      (RunLoop.publishOrWait settings.toProducerLimits pass.toLoopPass counts) := by
  unfold ProducerThread.afterPublish RunLoop.publishOrWait
  split
  · exact follows
  · exact follows.publishedOne fits

theorem afterPublish_unchanged (thread : ProducerThread) (settings : ProducerSettings) (pass : ProducerPass) :
    (thread.afterPublish settings pass).lastStatsTime = thread.lastStatsTime ∧
      (thread.afterPublish settings pass).interrupted = thread.interrupted := by
  unfold ProducerThread.afterPublish
  split <;> exact ⟨rfl, rfl⟩

/-- A pass without failures does to the thread what the pass of the loop does to the counts. -/
theorem FollowsLoop.loopPass (follows : FollowsLoop ⟨.running, thread⟩ loop) (going : loop.stopped = false)
    (succeeds : pass.Succeeds) (fits : (loop.counts.msgCount : ℤ) + 1 < 2 ^ 31) :
    (ProducerThread.loopPass settings pass).ends
      (fun going after => FollowsLoop ⟨if going then .running else .returned, after⟩
        (loop.pass settings.toProducerLimits pass.toLoopPass))
      (fun _ _ => False) thread := by
  have cleared : thread.interrupted = false := follows.cleared going
  have atPass : Follows (thread.atPass pass) loop.counts := follows.counts.flagged _
  have goes : ProducerThread.goesOn settings (thread.atPass pass) =
      loop.counts.keepGoing settings.toProducerLimits pass.interrupted := by
    rw [atPass.goesOn, ProducerThread.atPass, cleared, Bool.false_or]
    rfl
  unfold ProducerThread.loopPass RunLoop.pass
  rw [ends_bind, ends_modify, ends_bind, if_neg (ne_true_of_eq_false going)]
  change (ProducerThread.keepGoing settings).ends _ _ (thread.atPass pass)
  refine ends_mono keepGoing_ends ?_ fun _ _ => False.elim
  rintro _ _ ⟨rfl, interrupted, rfl, clears⟩
  have checked : Follows ((thread.atPass pass).flagged interrupted) loop.counts := atPass.flagged interrupted
  rw [ends_ite, goes]
  split
  · rename_i goesOn
    rw [ends_bind, ends_tryCatch, loopBody_succeeds succeeds, ends_pure]
    have published : Follows (((thread.atPass pass).flagged interrupted).afterPublish settings pass)
        (RunLoop.publishOrWait settings.toProducerLimits pass.toLoopPass loop.counts) := checked.afterPublish fits
    obtain ⟨sameTime, sameFlag⟩ := afterPublish_unchanged (thread.atPass pass |>.flagged interrupted) settings pass
    have atTime : (((thread.atPass pass).flagged interrupted).afterPublish settings pass).lastStatsTime =
        loop.lastStatsTime := sameTime.trans (follows.lastStatsTime going)
    have unflagged : (((thread.atPass pass).flagged interrupted).afterPublish settings pass).interrupted = false := by
      rw [sameFlag, ProducerThread.flagged]
      exact clears (goes.trans goesOn)
    have due : resetDue settings pass (((thread.atPass pass).flagged interrupted).afterPublish settings pass) =
        loop.statsDue settings.toProducerLimits pass.toLoopPass := by
      rw [resetDue, RunLoop.statsDue, atTime]
    have status : ProducerStatus.running = if loop.stopped then .returned else .running := by
      rw [if_neg (ne_true_of_eq_false going)]
    rw [due]
    dsimp only
    by_cases resets : loop.statsDue settings.toProducerLimits pass.toLoopPass = true
    · rw [if_pos resets, if_pos resets]
      exact ⟨status, fun _ => rfl, ⟨rfl, published.published, published.completed, published.countDowns⟩,
        fun _ => unflagged⟩
    · rw [if_neg resets, if_neg resets]
      exact ⟨status, fun _ => atTime, published, fun _ => unflagged⟩
  · rw [ends_bind]
    refine ends_mono (checked.finish pass.found) ?_ fun _ _ => id
    intro _ after finished
    exact ⟨rfl, fun ended => Bool.noConfusion ended, finished, fun ended => Bool.noConfusion ended⟩

end

section

variable {settings : ProducerSettings} {startup : Startup} {passes : ℕ → ProducerPass}

theorem execute_returns {run : ProducerRun} {call : ProducerCall Bool} {holds : Bool → ProducerThread → Prop}
    (running : run.status = .running) (ends : call.ends holds (fun _ _ => False) run.thread) :
    ∃ going after, holds going after ∧ run.execute call = ⟨if going then .running else .returned, after⟩ := by
  rcases execute_ends run running ends with returns | ⟨_, _, never, _⟩
  · exact returns
  · exact never.elim

theorem start_succeeds {thread : ProducerThread} (starts : Starts settings startup) :
    (ProducerThread.start settings startup).ends (fun going after => going = true ∧ after = thread.atStart startup)
      (fun _ _ => False) thread := by
  have announces : (announceStart startup >>= fun _ => pure true).ends
      (fun going after => going = true ∧ after = thread.atStart startup) (fun _ _ => False) thread := by
    rw [announceStart, starts.heard]
    exact ⟨rfl, rfl⟩
  unfold ProducerThread.start delayStart
  rw [ends_bind, ends_ite]
  split
  · rename_i delayed
    rw [if_neg (not_le.mpr (starts.drawn delayed)), starts.undisturbed delayed]
    exact announces
  · exact announces

/-- A run without failures follows its loop, as long as the number of its messages is an int. -/
theorem looped_follows (starts : Starts settings startup) (succeed : ∀ index, (passes index).Succeeds)
    (fits : ∀ index, ((RunLoop.after settings.toProducerLimits startup.startTime
      (fun index => (passes index).toLoopPass) index).counts.msgCount : ℤ) + 1 < 2 ^ 31) (count : ℕ) :
    FollowsLoop (looped settings startup passes count)
      (RunLoop.after settings.toProducerLimits startup.startTime (fun index => (passes index).toLoopPass) count) := by
  induction count with
  | zero =>
    have began : looped settings startup passes 0 = ⟨.running, ProducerThread.initial.atStart startup⟩ := by
      obtain ⟨going, after, ⟨rfl, rfl⟩, executed⟩ :=
        execute_returns (rfl : fresh.status = .running) (start_succeeds starts)
      exact executed
    rw [began]
    exact ⟨rfl, fun _ => rfl, ⟨rfl, rfl, rfl, rfl⟩, fun _ => rfl⟩
  | succ count ih =>
    rw [looped, RunLoop.after]
    cases stopped : (RunLoop.after settings.toProducerLimits startup.startTime
        (fun index => (passes index).toLoopPass) count).stopped with
    | true =>
      have status := ih.status
      rw [stopped, if_pos rfl] at status
      rw [ProducerRun.execute, status, if_neg (by decide), RunLoop.pass, if_pos stopped]
      exact ih
    | false =>
      have status := ih.status
      rw [stopped, if_neg Bool.false_ne_true] at status
      have running := eq_of_running status ▸ ih
      obtain ⟨going, after, follows, executed⟩ :=
        execute_returns status (running.loopPass stopped (succeed count) (fits count))
      rw [executed]
      exact follows

theorem Follows.maybeHandlePublish {thread : ProducerThread} {counts : ProducerCounts}
    {invocation : ScheduledInvocation} (follows : Follows thread counts) (succeeds : invocation.call.Succeeds)
    (fits : (counts.msgCount : ℤ) + 1 < 2 ^ 31) :
    (ProducerThread.maybeHandlePublish settings invocation).ends
      (fun _ after => Follows after
        (counts.maybeHandlePublish settings.toProducerLimits thread.interrupted invocation.found))
      (fun _ _ => False) thread := by
  unfold ProducerThread.maybeHandlePublish ProducerCounts.maybeHandlePublish
  rw [ends_bind]
  refine ends_mono keepGoing_ends ?_ fun _ _ => False.elim
  rintro _ _ ⟨rfl, interrupted, rfl, _⟩
  have checked : Follows (thread.flagged interrupted) counts := follows.flagged interrupted
  rw [ends_ite, follows.goesOn]
  split
  · rw [handlePublish_succeeds succeeds]
    exact checked.publishedOne fits
  · have reached : messageLimitReached settings (thread.flagged interrupted) =
        counts.messageLimitReached settings.toProducerLimits := by
      rw [messageLimitReached, checked.msgCount, ProducerCounts.messageLimitReached]
      by_cases unlimited : settings.msgLimit = 0
      · rw [if_pos unlimited, unlimited]
        rfl
      · rw [if_neg unlimited, bne_iff_ne.mpr unlimited, Bool.true_and]
    rw [ends_bind, ends_get, reached, ends_ite]
    split
    · rw [ends_bind, ProducerThread.maybeWaitForPublishConfirms, ends_modify]
      exact ((checked.flagged _).waits _ invocation.found).countDown .messageLimit
    · exact checked.countDown .threadInterrupted

theorem Follows.runnable {thread : ProducerThread} {counts : ProducerCounts} {initialized : Bool}
    {invocation : ScheduledInvocation} (heard : startup.listener = none)
    (began : Follows (thread.atInvocation startup initialized invocation) counts)
    (succeeds : invocation.call.Succeeds) (fits : (counts.msgCount : ℤ) + 1 < 2 ^ 31) :
    (ProducerThread.runnable settings startup initialized invocation).ends
      (fun going after => going = true ∧ Follows after
        (counts.maybeHandlePublish settings.toProducerLimits invocation.interrupted invocation.found))
      (fun _ _ => False) thread := by
  have flag : (thread.atInvocation startup initialized invocation).interrupted = invocation.interrupted := by
    cases initialized <;> rfl
  unfold ProducerThread.runnable
  rw [ends_bind, ends_modify, ends_bind]
  refine ends_mono announceFirst_ends ?_ ?_
  · rintro _ middle ⟨_, reached⟩
    have here : middle = thread.atInvocation startup initialized invocation := reached
    rw [here, ends_bind, ends_tryCatch]
    refine ends_mono (began.maybeHandlePublish succeeds fits) ?_ fun _ _ => False.elim
    intro _ after follows
    rw [flag] at follows
    exact ⟨rfl, follows⟩
  · rintro _ _ ⟨_, unheard, _⟩
    exact unheard heard

theorem invoked_follows {invocations : ℕ → ScheduledInvocation} (heard : startup.listener = none)
    (succeed : ∀ index, (invocations index).call.Succeeds)
    (fits : ∀ index, ((ProducerCounts.scheduled settings.toProducerLimits
      (fun index => (invocations index).toInvocation) index).msgCount : ℤ) + 1 < 2 ^ 31) (count : ℕ) :
    (invoked settings startup invocations count).status = .running ∧
      Follows (invoked settings startup invocations count).thread
        (ProducerCounts.scheduled settings.toProducerLimits (fun index => (invocations index).toInvocation) count) := by
  induction count with
  | zero => exact ⟨rfl, rfl, rfl, rfl, rfl⟩
  | succ count ih =>
    obtain ⟨running, follows⟩ := ih
    have began : Follows ((invoked settings startup invocations count).thread.atInvocation startup (count != 0)
        (invocations count)) (ProducerCounts.scheduled settings.toProducerLimits
          (fun index => (invocations index).toInvocation) count) := by
      cases count with
      | zero => exact ⟨rfl, rfl, rfl, rfl⟩
      | succ count => exact follows.flagged _
    obtain ⟨_, after, ⟨rfl, followed⟩, executed⟩ :=
      execute_returns running (began.runnable heard (succeed count) (fits count))
    rw [invoked, executed]
    exact ⟨rfl, followed⟩

end

end PerfTestProof
