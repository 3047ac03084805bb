import PerfTest.Producer.ThreadSteps

namespace PerfTestModel

namespace ProducerThread

def goesOn (settings : ProducerSettings) (thread : ProducerThread) : Bool :=
  (settings.msgLimit = 0 ∨ thread.msgCount < settings.msgLimit) && !thread.interrupted

def atPass (thread : ProducerThread) (pass : ProducerPass) : ProducerThread :=
  thread.flagged (thread.interrupted || pass.interrupted)

def atInvocation (thread : ProducerThread) (startup : Startup) (initialized : Bool)
    (invocation : ScheduledInvocation) : ProducerThread :=
  if initialized then thread.flagged invocation.interrupted
  else (thread.flagged invocation.interrupted).atStart startup

end ProducerThread

end PerfTestModel

namespace PerfTestProof

open PerfTestModel Systems Program ProducerThread

def Unannounced (thread : ProducerThread) : Prop := thread.completed = false ∧ thread.countDowns = []

def AnnouncedOnce (thread : ProducerThread) : Prop := thread.completed = true ∧ thread.countDowns.length = 1

def LeftBelowLimit (settings : ProducerSettings) (pass : ProducerPass) (thread : ProducerThread) : Prop :=
  goesOn settings (thread.atPass pass) = false ∧ thread.msgCount < settings.msgLimit

section

variable {settings : ProducerSettings} {thread after : ProducerThread} {pass : ProducerPass}
  {returned : Unit → ProducerThread → Prop} {thrown : ProducerException → ProducerThread → Prop}

theorem keepGoing_ends :
    (keepGoing settings).ends
      (fun going after => going = goesOn settings thread ∧
        ∃ interrupted, after = thread.flagged interrupted ∧ (goesOn settings thread = true → interrupted = false))
      (fun _ _ => False) thread := by
  unfold keepGoing goesOn testInterrupted
  simp only [ends_bind, ends_get, ends_ite, ends_set, ends_pure]
  split
  · rename_i below
    exact ⟨by rw [decide_eq_true below, Bool.true_and], false, rfl, fun _ => rfl⟩
  · rename_i reached
    refine ⟨by rw [decide_eq_false reached, Bool.false_and], thread.interrupted, rfl, ?_⟩
    rw [decide_eq_false reached, Bool.false_and]
    intro never
    cases never

theorem Unannounced.flagged (unannounced : Unannounced thread) (interrupted : Bool) :
    Unannounced (thread.flagged interrupted) := unannounced

theorem countDown_ends (unannounced : Unannounced thread) {reason : String} :
    (countDown reason).ends (fun _ => AnnouncedOnce) thrown thread := by
  obtain ⟨open_, none⟩ := unannounced
  show AnnouncedOnce (if thread.completed then thread else _)
  rw [if_neg (ne_true_of_eq_false open_)]
  exact ⟨rfl, by rw [none]; rfl⟩

theorem Handled.unannounced {call : PublishCall} (handled : Handled settings call thread after)
    (unannounced : Unannounced thread) : Unannounced after :=
  ⟨handled.completed.trans unannounced.1, handled.countDowns.trans unannounced.2⟩

theorem sleepOrThrow_ends (unannounced : Unannounced thread) (interruption : Option String) :
    (sleepOrThrow interruption).ends (fun _ => Unannounced) (fun _ => Unannounced) thread := by
  cases interruption with
  | none => exact unannounced
  | some description => exact unannounced

theorem orThrow_ends (unannounced : Unannounced thread) (exception : Option ProducerException) :
    (orThrow exception).ends (fun _ => Unannounced) (fun _ => Unannounced) thread := by
  cases exception with
  | none => exact unannounced
  | some exception => exact unannounced

theorem resetStatsIfDue_ends (unannounced : Unannounced thread) (now : ℤ) :
    (resetStatsIfDue settings now).ends (fun _ => Unannounced) thrown thread := by
  show Unannounced (if _ then _ else _)
  split
  · exact unannounced
  · exact unannounced

theorem waitOrPublish_ends (unannounced : Unannounced thread) (pass : ProducerPass) :
    (waitOrPublish settings pass).ends (fun _ => Unannounced) (fun _ => Unannounced) thread := by
  unfold waitOrPublish
  rw [ends_ite]
  split
  · exact sleepOrThrow_ends unannounced _
  · exact ends_mono handlePublish_ends (fun _ _ handled => handled.unannounced unannounced)
      fun _ _ handled => handled.unannounced unannounced

theorem loopBody_ends (unannounced : Unannounced thread) (pass : ProducerPass) :
    (loopBody settings pass).ends (fun _ => Unannounced) (fun _ => Unannounced) thread := by
  unfold loopBody
  rw [ends_bind]
  refine ends_mono (orThrow_ends unannounced pass.rateLimiter) ?_ fun _ _ => id
  intro _ _ unannounced
  rw [ends_bind]
  refine ends_mono (waitOrPublish_ends unannounced pass) ?_ fun _ _ => id
  exact fun _ _ unannounced => resetStatsIfDue_ends unannounced pass.now

theorem finish_ends (unannounced : Unannounced thread) (found : ℕ → WaitPass) :
    (finish settings found).ends
      (fun _ after => if settings.msgLimit ≤ thread.msgCount then AnnouncedOnce after else Unannounced after)
      thrown thread := by
  unfold finish
  rw [ends_bind, ends_get, ends_ite]
  split
  · rw [ends_ite]
    split
    · exact countDown_ends unannounced
    · rw [ends_bind, ProducerThread.maybeWaitForPublishConfirms, ends_modify]
      exact countDown_ends (unannounced.flagged _)
  · exact unannounced

/-- A pass that goes on ends with an announcement exactly if it throws. The last one ends with one
    exactly if the limit is reached. -/
theorem loopPass_ends (unannounced : Unannounced thread) (pass : ProducerPass) :
    (loopPass settings pass).ends
      (fun going after => going = goesOn settings (thread.atPass pass) ∧
        if going = false ∧ settings.msgLimit ≤ thread.msgCount then AnnouncedOnce after else Unannounced after)
      (fun _ after => goesOn settings (thread.atPass pass) = true ∧ AnnouncedOnce after) thread := by
  unfold loopPass
  rw [ends_bind, ends_modify, ends_bind]
  change (keepGoing settings).ends _ _ (thread.atPass pass)
  refine ends_mono keepGoing_ends ?_ fun _ _ => False.elim
  rintro going _ ⟨going_eq, interrupted, rfl, _⟩
  have checked : Unannounced ((thread.atPass pass).flagged interrupted) := unannounced
  rw [ends_ite]
  split
  · rename_i goes
    rw [ends_bind, ends_tryCatch]
    refine ends_mono (loopBody_ends checked pass) ?_ ?_
    · intro _ after unannounced
      refine ⟨going_eq ▸ goes.symm, ?_⟩
      rw [if_neg (fun ended => Bool.noConfusion ended.1)]
      exact unannounced
    · intro exception after unannounced
      rw [ends_bind]
      refine ends_mono (countDown_ends unannounced) ?_ fun _ _ => id
      exact fun _ _ announced => ⟨going_eq ▸ goes, announced⟩
  · rename_i stops
    have ends : going = false := Bool.eq_false_of_not_eq_true stops
    rw [ends_bind]
    refine ends_mono (finish_ends checked pass.found) ?_ fun _ _ => id
    intro _ after finished
    refine ⟨going_eq ▸ ends.symm, ?_⟩
    have reached : (false = false ∧ settings.msgLimit ≤ thread.msgCount) ↔ settings.msgLimit ≤ thread.msgCount :=
      and_iff_right rfl
    rw [if_congr reached rfl rfl]
    exact finished

theorem eq_of_running {run : ProducerRun} (running : run.status = .running) : run = ⟨.running, run.thread⟩ := by
  rw [← running]

theorem execute_ends (run : ProducerRun) {call : ProducerCall Bool} {returned : Bool → ProducerThread → Prop}
    (running : run.status = .running) (ends : call.ends returned thrown run.thread) :
    (∃ going after, returned going after ∧
      run.execute call = ⟨if going then .running else .returned, after⟩) ∨
      ∃ exception after, thrown exception after ∧ run.execute call = ⟨.threw exception, after⟩ := by
  rw [ProducerRun.execute, if_pos running]
  rcases ends_cases ends with ⟨going, after, called, holds⟩ | ⟨exception, after, called, holds⟩
  · refine .inl ⟨going, after, holds, ?_⟩
    rw [called]
    cases going <;> rfl
  · refine .inr ⟨exception, after, holds, ?_⟩
    rw [called]

structure Starts (settings : ProducerSettings) (startup : Startup) : Prop where
  drawn : 0 < settings.randomStartDelay → 0 < Java.int (settings.randomStartDelay * 1000)
  undisturbed : 0 < settings.randomStartDelay → startup.delayInterrupted = none
  heard : startup.listener = none

theorem delayStart_ends (unannounced : Unannounced thread) (startup : Startup) :
    (delayStart settings startup).ends
      (fun _ after => (startup.listener = none → Starts settings startup) ∧ Unannounced after)
      (fun _ after => ¬ Starts settings startup ∧ Unannounced after) thread := by
  unfold delayStart
  rw [ends_ite]
  split
  · rename_i delayed
    rw [ends_ite]
    split
    · rename_i wrapped
      exact ⟨fun starts => absurd (starts.drawn delayed) (not_lt.mpr wrapped), unannounced⟩
    · rename_i positive
      cases interruption : startup.delayInterrupted with
      | none => exact ⟨fun heard => ⟨fun _ => not_le.mp positive, fun _ => interruption, heard⟩, unannounced⟩
      | some description =>
        refine ⟨fun starts => ?_, unannounced⟩
        rw [starts.undisturbed delayed] at interruption
        cases interruption
  · rename_i prompt
    exact ⟨fun heard => ⟨fun delayed => absurd delayed prompt, fun delayed => absurd delayed prompt, heard⟩,
      unannounced⟩

theorem announceStart_ends (unannounced : Unannounced thread) (startup : Startup) :
    (announceStart startup).ends (fun _ after => startup.listener = none ∧ Unannounced after)
      (fun _ after => startup.listener ≠ none ∧ Unannounced after) thread := by
  unfold announceStart
  rw [ends_bind, ends_modify]
  cases listener : startup.listener with
  | none => exact ⟨rfl, unannounced⟩
  | some exception => exact ⟨Option.some_ne_none exception, unannounced⟩

theorem start_ends (unannounced : Unannounced thread) (startup : Startup) :
    (start settings startup).ends (fun going after => going = true ∧ Starts settings startup ∧ Unannounced after)
      (fun _ after => ¬ Starts settings startup ∧ Unannounced after) thread := by
  unfold start
  rw [ends_bind]
  refine ends_mono (delayStart_ends unannounced startup) ?_ fun _ _ => id
  rintro _ middle ⟨starts, unannounced⟩
  rw [ends_bind]
  refine ends_mono (announceStart_ends unannounced startup) ?_ ?_
  · rintro _ after ⟨heard, unannounced⟩
    exact ⟨rfl, starts heard, unannounced⟩
  · rintro _ after ⟨unheard, unannounced⟩
    exact ⟨fun starts => unheard starts.heard, unannounced⟩

end

section

variable {settings : ProducerSettings} {startup : Startup} {passes : ℕ → ProducerPass} {thread : ProducerThread}
  {count : ℕ}

open ProducerRun

theorem looped_zero :
    Starts settings startup ∧
      (∃ thread, looped settings startup passes 0 = ⟨.running, thread⟩ ∧ Unannounced thread) ∨
    ¬ Starts settings startup ∧
      ∃ exception thread, looped settings startup passes 0 = ⟨.threw exception, thread⟩ ∧ Unannounced thread := by
  have unannounced : Unannounced fresh.thread := ⟨rfl, rfl⟩
  rcases execute_ends fresh rfl (start_ends unannounced startup) with
    ⟨_, after, ⟨rfl, starts, unannounced⟩, began⟩ | ⟨exception, after, ⟨fails, unannounced⟩, began⟩
  · exact .inl ⟨starts, after, began, unannounced⟩
  · exact .inr ⟨fails, exception, after, began, unannounced⟩

/-- One more pass announces the stop if it is one, except where the loop is left below the limit. -/
theorem looped_succ (running : looped settings startup passes count = ⟨.running, thread⟩)
    (unannounced : Unannounced thread) :
    LeftBelowLimit settings (passes count) thread ∧
      (∃ after, looped settings startup passes (count + 1) = ⟨.returned, after⟩ ∧ Unannounced after) ∨
    ¬ LeftBelowLimit settings (passes count) thread ∧
      ((∃ after, looped settings startup passes (count + 1) = ⟨.running, after⟩ ∧ Unannounced after) ∨
        ∃ status after, status ≠ .running ∧
          looped settings startup passes (count + 1) = ⟨status, after⟩ ∧ AnnouncedOnce after) := by
  rw [looped, running]
  rcases execute_ends ⟨.running, thread⟩ rfl (loopPass_ends unannounced (passes count)) with
    ⟨going, after, ⟨same, said⟩, executed⟩ | ⟨exception, after, ⟨goes, announced⟩, executed⟩
  · rw [executed]
    cases going with
    | true =>
      rw [if_neg (fun ended => Bool.noConfusion ended.1)] at said
      refine .inr ⟨fun left => ?_, .inl ⟨after, rfl, said⟩⟩
      rw [left.1] at same
      cases same
    | false =>
      by_cases reached : settings.msgLimit ≤ thread.msgCount
      · rw [if_pos ⟨rfl, reached⟩] at said
        refine .inr ⟨fun left => ?_, .inr ⟨.returned, after, nofun, rfl, said⟩⟩
        exact absurd left.2 (not_lt.mpr reached)
      · rw [if_neg (fun ended => reached ended.2)] at said
        exact .inl ⟨⟨same.symm, not_le.mp reached⟩, after, rfl, said⟩
  · rw [executed]
    refine .inr ⟨fun left => ?_, .inr ⟨.threw exception, after, nofun, rfl, announced⟩⟩
    rw [left.1] at goes
    cases goes

theorem looped_stays (ended : (looped settings startup passes count).status ≠ .running) :
    looped settings startup passes (count + 1) = looped settings startup passes count := by
  rw [looped, execute, if_neg ended]

theorem looped_unannounced {run : ProducerRun} (reached : looped settings startup passes count = run)
    (running : run.status = .running) : Unannounced run.thread := by
  induction count generalizing run with
  | zero =>
    rcases looped_zero with ⟨_, thread, began, unannounced⟩ | ⟨_, exception, thread, began, _⟩
    · rw [began] at reached
      rw [← reached]
      exact unannounced
    · rw [began] at reached
      rw [← reached] at running
      cases running
  | succ count ih =>
    by_cases before : (looped settings startup passes count).status = .running
    · have unannounced := ih rfl before
      rcases looped_succ (eq_of_running before) unannounced with
        ⟨_, after, next, _⟩ | ⟨_, ⟨after, next, unannounced⟩ | ⟨status, after, ended, next, _⟩⟩
      · rw [← reached, next] at running
        cases running
      · rw [← reached, next]
        exact unannounced
      · rw [← reached, next] at running
        exact absurd running ended
    · rw [looped_stays before] at reached
      exact ih reached running

def RunAnnounces (settings : ProducerSettings) (startup : Startup) (passes : ℕ → ProducerPass) : Prop :=
  ∀ count, (looped settings startup passes count).status ≠ .running →
    (looped settings startup passes count).thread.countDowns.length = 1

theorem runAnnounces_iff : RunAnnounces settings startup passes ↔
    Starts settings startup ∧ ∀ count, (looped settings startup passes count).status = .running →
      ¬ LeftBelowLimit settings (passes count) (looped settings startup passes count).thread := by
  constructor
  · intro announces
    refine ⟨?_, fun count running left => ?_⟩
    · rcases looped_zero with ⟨starts, _⟩ | ⟨_, exception, thread, began, unannounced⟩
      · exact starts
      · have once := announces 0 (by rw [began]; nofun)
        rw [began, unannounced.2] at once
        cases once
    · rcases looped_succ (eq_of_running running) (looped_unannounced rfl running) with
        ⟨_, after, next, unannounced⟩ | ⟨keeps, _⟩
      · have once := announces (count + 1) (by rw [next]; nofun)
        rw [next, unannounced.2] at once
        cases once
      · exact keeps left
  · rintro ⟨starts, keeps⟩ count ended
    induction count with
    | zero =>
      rcases looped_zero with ⟨_, thread, began, _⟩ | ⟨fails, _⟩
      · rw [began] at ended
        exact absurd rfl ended
      · exact absurd starts fails
    | succ count ih =>
      by_cases running : (looped settings startup passes count).status = .running
      · rcases looped_succ (eq_of_running running) (looped_unannounced rfl running) with
          ⟨left, _⟩ | ⟨_, ⟨after, next, _⟩ | ⟨status, after, _, next, announced⟩⟩
        · exact absurd left (keeps count running)
        · rw [next] at ended
          exact absurd rfl ended
        · rw [next]
          exact announced.2
      · rw [looped_stays running]
        exact ih running

end

section

variable {settings : ProducerSettings} {startup : Startup} {invocations : ℕ → ScheduledInvocation}
  {invocation : ScheduledInvocation} {thread after : ProducerThread} {initialized : Bool} {count : ℕ}

open ProducerRun

def AtMostOnce (thread : ProducerThread) : Prop := Unannounced thread ∨ AnnouncedOnce thread

theorem AtMostOnce.flagged (once : AtMostOnce thread) (interrupted : Bool) :
    AtMostOnce (thread.flagged interrupted) := once

theorem countDown_again {thrown : ProducerException → ProducerThread → Prop} (once : AtMostOnce thread)
    {reason : String} : (countDown reason).ends (fun _ => AnnouncedOnce) thrown thread := by
  rcases once with unannounced | announced
  · exact countDown_ends unannounced
  · show AnnouncedOnce (if thread.completed then thread else _)
    rw [if_pos announced.1]
    exact announced

def SameAnnouncements (thread after : ProducerThread) : Prop :=
  after.completed = thread.completed ∧ after.countDowns = thread.countDowns

theorem AtMostOnce.same (once : AtMostOnce thread) (same : SameAnnouncements thread after) :
    AtMostOnce after := by
  unfold AtMostOnce Unannounced AnnouncedOnce
  rw [same.1, same.2]
  exact once

theorem maybeHandlePublish_ends (once : AtMostOnce thread) :
    (maybeHandlePublish settings invocation).ends
      (fun _ after => if goesOn settings thread then SameAnnouncements thread after else AnnouncedOnce after)
      (fun _ after => goesOn settings thread = true ∧ SameAnnouncements thread after) thread := by
  unfold maybeHandlePublish
  rw [ends_bind]
  refine ends_mono keepGoing_ends ?_ fun _ _ => False.elim
  rintro going _ ⟨rfl, interrupted, rfl, _⟩
  rw [ends_ite]
  split
  · rename_i goes
    refine ends_mono handlePublish_ends ?_ ?_
    · intro _ after handled
      exact ⟨handled.completed, handled.countDowns⟩
    · intro _ after handled
      exact ⟨goes, handled.completed, handled.countDowns⟩
  · rw [ends_bind, ends_get, ends_ite]
    split
    · rw [ends_bind, ProducerThread.maybeWaitForPublishConfirms, ends_modify]
      exact countDown_again ((once.flagged interrupted).flagged _)
    · exact countDown_again (once.flagged interrupted)

theorem announceFirst_ends :
    (announceFirst startup initialized).ends
      (fun _ after => (initialized = false → startup.listener = none) ∧
        after = if initialized then thread else thread.atStart startup)
      (fun _ after => initialized = false ∧ startup.listener ≠ none ∧ SameAnnouncements thread after) thread := by
  cases initialized with
  | true => exact ⟨nofun, rfl⟩
  | false =>
    show (announceStart startup).ends _ _ thread
    unfold announceStart
    rw [ends_bind, ends_modify]
    cases startup.listener with
    | none => exact ⟨fun _ => rfl, rfl⟩
    | some exception => exact ⟨rfl, Option.some_ne_none exception, rfl, rfl⟩

/-- Past its start, the runnable announces a stop whenever it does not go on, or throws. -/
theorem runnable_ends (once : AtMostOnce thread) :
    (runnable settings startup initialized invocation).ends
      (fun going after => going = true ∧ (initialized = false → startup.listener = none) ∧
        if goesOn settings (thread.atInvocation startup initialized invocation) then SameAnnouncements thread after
        else AnnouncedOnce after)
      (fun _ after => initialized = false ∧ startup.listener ≠ none ∧ SameAnnouncements thread after ∨
        (initialized = false → startup.listener = none) ∧
          goesOn settings (thread.atInvocation startup initialized invocation) = true ∧ AnnouncedOnce after)
      thread := by
  unfold runnable
  rw [ends_bind, ends_modify, ends_bind]
  refine ends_mono announceFirst_ends ?_ ?_
  · rintro _ middle ⟨heard, reached⟩
    have same : SameAnnouncements thread middle := by
      rw [reached]
      cases initialized <;> exact ⟨rfl, rfl⟩
    have here : middle = thread.atInvocation startup initialized invocation := reached
    rw [ends_bind, ends_tryCatch]
    refine ends_mono (maybeHandlePublish_ends (once.same same)) ?_ ?_
    · intro _ after handled
      refine ⟨rfl, heard, ?_⟩
      rw [← here]
      split
      · rename_i goes
        rw [if_pos goes] at handled
        exact ⟨handled.1.trans same.1, handled.2.trans same.2⟩
      · rename_i stops
        rwa [if_neg stops] at handled
    · rintro exception after ⟨goes, handled⟩
      rw [ends_bind]
      refine ends_mono (countDown_again ((once.same same).same handled)) ?_ fun _ _ => id
      intro _ last announced
      exact .inr ⟨heard, here ▸ goes, announced⟩
  · rintro _ after ⟨first, unheard, same⟩
    exact .inl ⟨first, unheard, same⟩

def InvocationsAnnounce (settings : ProducerSettings) (startup : Startup)
    (invocations : ℕ → ScheduledInvocation) : Prop :=
  ∀ count, (invoked settings startup invocations count).status = .running →
    ((invoked settings startup invocations (count + 1)).status ≠ .running ∨
      goesOn settings ((invoked settings startup invocations count).thread.atInvocation startup (count != 0)
        (invocations count)) = false) →
    (invoked settings startup invocations (count + 1)).thread.countDowns.length = 1

theorem invoked_succ (listener : startup.listener = none)
    (running : (invoked settings startup invocations count).status = .running)
    (once : AtMostOnce (invoked settings startup invocations count).thread) :
    AtMostOnce (invoked settings startup invocations (count + 1)).thread ∧
      ((invoked settings startup invocations (count + 1)).status ≠ .running ∨
        goesOn settings ((invoked settings startup invocations count).thread.atInvocation startup (count != 0)
          (invocations count)) = false →
        AnnouncedOnce (invoked settings startup invocations (count + 1)).thread) := by
  rw [invoked]
  rcases execute_ends (invoked settings startup invocations count) running (runnable_ends once) with
    ⟨_, after, ⟨rfl, _, said⟩, executed⟩ | ⟨exception, after, ⟨_, unheard, _⟩ | ⟨_, _, announced⟩, executed⟩
  · rw [executed]
    split at said
    · rename_i goes
      refine ⟨once.same said, fun stops => ?_⟩
      rcases stops with stopped | stops
      · exact absurd rfl stopped
      · rw [goes] at stops
        cases stops
    · exact ⟨.inr said, fun _ => said⟩
  · exact absurd listener unheard
  · rw [executed]
    exact ⟨.inr announced, fun _ => announced⟩

theorem invoked_once (listener : startup.listener = none) (count : ℕ) :
    AtMostOnce (invoked settings startup invocations count).thread := by
  induction count with
  | zero => exact .inl ⟨rfl, rfl⟩
  | succ count ih =>
    by_cases running : (invoked settings startup invocations count).status = .running
    · exact (invoked_succ listener running ih).1
    · rw [invoked, execute, if_neg running]
      exact ih

theorem invocationsAnnounce_iff :
    InvocationsAnnounce settings startup invocations ↔ startup.listener = none := by
  constructor
  · intro announces
    cases listener : startup.listener with
    | none => rfl
    | some exception =>
      have failed : invoked settings startup invocations 1 =
          ⟨.threw exception, (ProducerThread.initial.flagged (invocations 0).interrupted).atStart startup⟩ := by
        obtain ⟨delayInterrupted, startTime, _⟩ := startup
        cases listener
        rfl
      have once := announces 0 rfl (.inl (by rw [failed]; nofun))
      rw [failed] at once
      cases once
  · intro listener count running stops
    exact ((invoked_succ listener running (invoked_once listener count)).2 stops).2

/-- Called in the same situation, the two drivers see the same interruptions, and what they do when they go
    on throws in both or in none. -/
structure SameSituation (settings : ProducerSettings) (pass : ProducerPass) (invocation : ScheduledInvocation)
    (thread : ProducerThread) : Prop where
  interrupted : invocation.interrupted = (thread.interrupted || pass.interrupted)
  returns : goesOn settings (thread.atPass pass) = true →
    (returns (loopBody settings pass) ((thread.atPass pass).flagged false) ↔
      returns (handlePublish settings invocation.call) ((thread.atPass pass).flagged false))

def Announces (attempt : ProducerCall Unit) (thread after : ProducerThread) : Prop :=
  after.completed = true ↔ ¬ returns attempt (thread.flagged false)

theorem loopPass_going {pass : ProducerPass} (unannounced : Unannounced thread)
    (goes : goesOn settings (thread.atPass pass) = true) :
    (loopPass settings pass).ends (fun _ after => Announces (loopBody settings pass) (thread.atPass pass) after)
      (fun _ after => Announces (loopBody settings pass) (thread.atPass pass) after) thread := by
  unfold loopPass
  rw [ends_bind, ends_modify, ends_bind]
  change (keepGoing settings).ends _ _ (thread.atPass pass)
  refine ends_mono keepGoing_ends ?_ fun _ _ => False.elim
  rintro going _ ⟨rfl, interrupted, rfl, cleared⟩
  rw [cleared goes, goes, if_pos rfl, ends_bind, ends_tryCatch]
  have checked : Unannounced ((thread.atPass pass).flagged false) := unannounced
  refine ends_mono (ends_returns (loopBody_ends checked pass)) ?_ ?_
  · intro _ after ⟨unannounced, returns⟩
    exact iff_of_false (ne_true_of_eq_false unannounced.1) (not_not_intro returns)
  · intro exception after ⟨unannounced, throws⟩
    rw [ends_bind]
    refine ends_mono (countDown_ends unannounced) ?_ fun _ _ => False.elim
    intro _ _ announced
    exact iff_of_true announced.1 throws

theorem runnable_going (startup : Startup) (unannounced : Unannounced thread)
    (goes : goesOn settings (thread.flagged invocation.interrupted) = true) :
    (runnable settings startup true invocation).ends
      (fun _ after => Announces (handlePublish settings invocation.call) (thread.flagged invocation.interrupted) after)
      (fun _ after => Announces (handlePublish settings invocation.call) (thread.flagged invocation.interrupted) after)
      thread := by
  unfold runnable maybeHandlePublish announceFirst
  rw [ends_bind, ends_modify, if_pos rfl, ends_bind, ends_pure, ends_bind, ends_tryCatch, ends_bind]
  refine ends_mono keepGoing_ends ?_ fun _ _ => False.elim
  rintro going _ ⟨rfl, interrupted, rfl, cleared⟩
  rw [cleared goes, goes, if_pos rfl]
  change (handlePublish settings invocation.call).ends _ _ (thread.flagged false)
  have checked : Unannounced (thread.flagged false) := unannounced
  refine ends_mono (ends_returns handlePublish_ends) ?_ ?_
  · intro _ after ⟨handled, returns⟩
    exact iff_of_false (ne_true_of_eq_false (handled.unannounced checked).1) (not_not_intro returns)
  · intro exception after ⟨handled, throws⟩
    rw [ends_bind]
    refine ends_mono (countDown_ends (handled.unannounced checked)) ?_ fun _ _ => False.elim
    intro _ _ announced
    exact iff_of_true announced.1 throws

theorem loopPass_stopping {pass : ProducerPass} (unannounced : Unannounced thread)
    (stops : goesOn settings (thread.atPass pass) = false) :
    (loopPass settings pass).ends (fun _ after => after.completed = true ↔ settings.msgLimit ≤ thread.msgCount)
      (fun _ after => after.completed = true ↔ settings.msgLimit ≤ thread.msgCount) thread := by
  refine ends_mono (loopPass_ends unannounced pass) ?_ ?_
  · rintro _ after ⟨rfl, said⟩
    by_cases reached : settings.msgLimit ≤ thread.msgCount
    · rw [if_pos ⟨stops, reached⟩] at said
      exact iff_of_true said.1 reached
    · rw [if_neg fun ended => reached ended.2] at said
      exact iff_of_false (ne_true_of_eq_false said.1) reached
  · rintro _ after ⟨goes, _⟩
    rw [goes] at stops
    cases stops

theorem runnable_stopping (startup : Startup) (unannounced : Unannounced thread)
    (stops : goesOn settings (thread.flagged invocation.interrupted) = false) :
    (runnable settings startup true invocation).ends (fun _ after => after.completed = true)
      (fun _ after => after.completed = true) thread := by
  refine ends_mono (runnable_ends (.inl unannounced)) ?_ ?_
  · rintro _ after ⟨_, _, said⟩
    rw [atInvocation, if_pos rfl, stops] at said
    exact said.1
  · rintro _ after (⟨first, _⟩ | ⟨_, goes, _⟩)
    · cases first
    · rw [atInvocation, if_pos rfl, stops] at goes
      cases goes

theorem announce_alike_iff {pass : ProducerPass} (unannounced : Unannounced thread)
    (situation : SameSituation settings pass invocation thread) :
    (loopPass settings pass thread).2.completed = (runnable settings startup true invocation thread).2.completed ↔
      ¬ LeftBelowLimit settings pass thread := by
  have same : thread.flagged invocation.interrupted = thread.atPass pass := by
    rw [situation.interrupted, atPass]
  rw [Bool.eq_iff_iff]
  cases going : goesOn settings (thread.atPass pass) with
  | true =>
    have looping := after_of_ends (loopPass_going unannounced going)
    have scheduled := after_of_ends (runnable_going startup unannounced (same ▸ going))
    rw [Announces, situation.returns going] at looping
    rw [Announces, same] at scheduled
    refine iff_of_true (looping.trans scheduled.symm) fun left => ?_
    rw [left.1] at going
    cases going
  | false =>
    have looping := after_of_ends (loopPass_stopping unannounced going)
    have scheduled := after_of_ends (runnable_stopping startup unannounced (same ▸ going))
    rw [looping, scheduled, LeftBelowLimit, going]
    simp

/-- A run of either driver says once that it stops exactly if it starts and its loop is never left below
    the limit, which is also where the two drivers differ. -/
theorem stop_announced_iff (settings : ProducerSettings) (startup : Startup) (passes : ℕ → ProducerPass)
    (invocations : ℕ → ScheduledInvocation) :
    (RunAnnounces settings startup passes ↔ Starts settings startup ∧
      ∀ count, (looped settings startup passes count).status = .running →
        ¬ LeftBelowLimit settings (passes count) (looped settings startup passes count).thread) ∧
    (InvocationsAnnounce settings startup invocations ↔ startup.listener = none) ∧
    ∀ (pass : ProducerPass) (invocation : ScheduledInvocation) (thread : ProducerThread), Unannounced thread →
      SameSituation settings pass invocation thread →
      ((loopPass settings pass thread).2.completed = (runnable settings startup true invocation thread).2.completed ↔
        ¬ LeftBelowLimit settings pass thread) := by
  refine ⟨runAnnounces_iff, invocationsAnnounce_iff, ?_⟩
  exact fun pass invocation thread unannounced situation => announce_alike_iff unannounced situation

end

section

open ProducerRun

def pairSettings : ProducerSettings := ⟨⟨2, false, none⟩, 0, false, 0⟩

def promptStartup : Startup := ⟨none, 0, none⟩

def refusedCall : PublishCall := ⟨false, false, .acquired, .failed false (.ioException "refused"), none⟩

def refusedPass (interrupted : Bool) : ProducerPass :=
  ⟨⟨interrupted, false, 0, fun _ => ⟨true, false⟩⟩, none, none, refusedCall, false⟩

def refusedInvocation : ScheduledInvocation := ⟨⟨false, fun _ => ⟨true, false⟩⟩, refusedCall⟩

theorem looped_refused (count : ℕ) :
    (looped pairSettings promptStartup (fun _ => refusedPass false) (count + 1)).status ≠ .running := by
  induction count with
  | zero => decide
  | succ count ih =>
    rw [looped_stays ih]
    exact ih

theorem stop_announced_refused :
    RunAnnounces pairSettings promptStartup (fun _ => refusedPass false) ∧
    InvocationsAnnounce pairSettings promptStartup (fun _ => refusedInvocation) ∧
    (loopPass pairSettings (refusedPass false) .initial).2.completed =
      (runnable pairSettings promptStartup true refusedInvocation .initial).2.completed := by
  obtain ⟨looping, scheduled, alike⟩ := stop_announced_iff pairSettings promptStartup
    (fun _ => refusedPass false) fun _ => refusedInvocation
  have throws : SameSituation pairSettings (refusedPass false) refusedInvocation .initial :=
    ⟨rfl, fun _ => iff_of_false id id⟩
  refine ⟨looping.mpr ⟨⟨nofun, nofun, rfl⟩, ?_⟩, scheduled.mpr rfl, (alike _ _ _ ⟨rfl, rfl⟩ throws).mpr ?_⟩
  · intro count running left
    match count with
    | 0 => exact absurd left.1 (by decide)
    | count + 1 => exact looped_refused count running
  · intro left
    exact absurd left.1 (by decide)

/-- Interrupted before its limit, the loop ends without a word, where the runnable counts down. -/
theorem stop_unannounced :
    ¬ RunAnnounces pairSettings promptStartup (fun _ => refusedPass true) ∧
    (runnable pairSettings promptStartup true { refusedInvocation with interrupted := true } .initial).2.countDowns =
      ["Producer thread interrupted"] := by
  refine ⟨fun announces => ?_, rfl⟩
  have once := announces 1 (by decide)
  revert once
  decide

end

end PerfTestProof
