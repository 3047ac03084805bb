import PerfTest.Messages.LocalFiles
import PerfTest.Producer.ThreadSteps

namespace PerfTestProof

open PerfTestModel Systems Program ProducerThread ProducerRun

section

variable {Value Other : Type} {source : LocalFilesMessageBodySource} {variableRate : Bool} {before between after : ℤ}
  {settings : ProducerSettings} {thread : ProducerThread} {call : PublishCall}

def Advances (source : LocalFilesMessageBodySource) (variableRate : Bool) (before after : ℤ) : Prop :=
  ∃ labels, ∀ created, ∃ extended,
    run (FileProducer.step source variableRate) ⟨before, created⟩ labels = some ⟨after, extended⟩

def CreatesFirst (source : LocalFilesMessageBodySource) (count : ℤ) (call : PublishCall) : Prop :=
  ∀ exception, source.create count = .error exception → call.attempt = .failed false exception

def SameCount (program : ProducerCall Value) : Prop :=
  ∀ thread, program.ends (fun _ after => after.msgCount = thread.msgCount)
    (fun _ after => after.msgCount = thread.msgCount) thread

def EndsAdvanced (source : LocalFilesMessageBodySource) (variableRate : Bool) (before : ℤ)
    (program : ProducerCall Value) (thread : ProducerThread) : Prop :=
  program.ends (fun _ after => Advances source variableRate before after.msgCount)
    (fun _ after => Advances source variableRate before after.msgCount) thread

theorem Advances.refl : Advances source variableRate before before := ⟨[], fun created => ⟨created, rfl⟩⟩

theorem Advances.trans (first : Advances source variableRate before between)
    (second : Advances source variableRate between after) : Advances source variableRate before after := by
  obtain ⟨earlier, firstRun⟩ := first
  obtain ⟨later, secondRun⟩ := second
  refine ⟨earlier ++ later, fun created => ?_⟩
  obtain ⟨middle, reached⟩ := firstRun created
  obtain ⟨extended, ended⟩ := secondRun middle
  exact ⟨extended, run_append_some.mpr ⟨_, reached, ended⟩⟩

theorem advances_publish {envelope : MessageEnvelope} (created : source.create before = .ok envelope) :
    Advances source variableRate before (Java.int (before + 1)) := by
  refine ⟨[.publish], fun earlier => ⟨earlier ++ [envelope], ?_⟩⟩
  rw [run, FileProducer.step]
  dsimp only
  rw [created]
  rfl

theorem advances_reset : Advances source true before 0 := ⟨[.resetStats], fun created => ⟨created, rfl⟩⟩

theorem SameCount.bind {program : ProducerCall Value} {next : Value → ProducerCall Other}
    (first : SameCount program) (second : ∀ value, SameCount (next value)) : SameCount (program >>= next) := by
  intro thread
  rw [ends_bind]
  refine ends_mono (first thread) ?_ fun _ _ => id
  intro value after same
  exact ends_mono (second value after) (fun _ _ later => later.trans same) fun _ _ later => later.trans same

theorem sameCount_get : SameCount (get : ProducerCall ProducerThread) := fun _ => rfl

theorem sameCount_pure (value : Value) : SameCount (pure value : ProducerCall Value) := fun _ => rfl

theorem sameCount_flagged (flag : ProducerThread → Bool) :
    SameCount (modify fun thread => thread.flagged (flag thread)) := fun _ => rfl

theorem sameCount_countDown (reason : String) : SameCount (countDown reason) := by
  intro thread
  show (if thread.completed then thread else _).msgCount = thread.msgCount
  split <;> rfl

theorem sameCount_orThrow (exception : Option ProducerException) : SameCount (orThrow exception) := by
  cases exception <;> exact fun _ => rfl

theorem sameCount_sleepOrThrow (interruption : Option String) : SameCount (sleepOrThrow interruption) := by
  cases interruption <;> exact fun _ => rfl

theorem sameCount_keepGoing : SameCount (keepGoing settings) := by
  intro thread
  unfold keepGoing testInterrupted
  simp only [ends_bind, ends_get, ends_ite, ends_set, ends_pure]
  split
  · rfl
  · trivial

theorem sameCount_confirms (found : ℕ → WaitPass) :
    SameCount (ProducerThread.maybeWaitForPublishConfirms settings found) :=
  fun _ => rfl

theorem sameCount_finish (found : ℕ → WaitPass) : SameCount (finish settings found) := by
  refine sameCount_get.bind fun thread => ?_
  split
  · split
    · exact sameCount_countDown _
    · exact (sameCount_confirms found).bind fun _ => sameCount_countDown _
  · exact sameCount_pure ()

theorem SameCount.advances {program : ProducerCall Value} (same : SameCount program)
    (advanced : Advances source variableRate before thread.msgCount) :
    EndsAdvanced source variableRate before program thread :=
  ends_mono (same thread) (fun _ _ same => same ▸ advanced) fun _ _ same => same ▸ advanced

theorem advances_bind {program : ProducerCall Value} {next : Value → ProducerCall Other}
    (same : program.ends (fun _ after => after.msgCount = thread.msgCount)
      (fun _ after => after.msgCount = thread.msgCount) thread)
    (rest : ∀ value after, after.msgCount = thread.msgCount →
      EndsAdvanced source variableRate after.msgCount (next value) after) :
    EndsAdvanced source variableRate thread.msgCount (program >>= next) thread := by
  unfold EndsAdvanced
  rw [ends_bind]
  refine ends_mono same ?_ fun _ _ same => same ▸ .refl
  intro value after same
  rw [← same]
  exact rest value after same

theorem EndsAdvanced.bind {program : ProducerCall Value} {next : Value → ProducerCall Other}
    (first : EndsAdvanced source variableRate before program thread)
    (rest : ∀ value after, EndsAdvanced source variableRate after.msgCount (next value) after) :
    EndsAdvanced source variableRate before (program >>= next) thread := by
  unfold EndsAdvanced
  rw [ends_bind]
  refine ends_mono first ?_ fun _ _ => id
  intro value after advanced
  exact ends_mono (rest value after) (fun _ _ more => advanced.trans more) fun _ _ more => advanced.trans more

theorem EndsAdvanced.announced {program : ProducerCall Value} {reason : ProducerException → String}
    (first : EndsAdvanced source variableRate before program thread) :
    EndsAdvanced source variableRate before (tryCatch program fun exception => do
      countDown (reason exception)
      throw exception) thread := by
  unfold EndsAdvanced
  rw [ends_tryCatch]
  refine ends_mono first (fun _ _ => id) ?_
  intro exception after advanced
  rw [ends_bind]
  exact ends_mono ((sameCount_countDown _).advances advanced) (fun _ _ => id) fun _ _ => id

theorem create_error {exception : ProducerException} (fails : source.create before = .error exception)
    (recoveryEnabled : Bool) : swallowed recoveryEnabled exception = false := by
  unfold LocalFilesMessageBodySource.create at fails
  split at fails
  · cases fails
    rfl
  · dsimp only at fails
    split at fails
    · cases fails
      rfl
    · cases fails

theorem handlePublish_advances (first : CreatesFirst source thread.msgCount call) :
    EndsAdvanced source variableRate thread.msgCount (handlePublish settings call) thread := by
  have advances (after : ProducerThread) (handled : Handled settings call thread after) :
      Advances source variableRate thread.msgCount after.msgCount := by
    rw [handled.msgCount]
    split
    · rename_i counts
      cases created : source.create thread.msgCount with
      | ok envelope => exact advances_publish created
      | error exception =>
        rw [countsMessage, first exception created] at counts
        dsimp only at counts
        rw [create_error created, Bool.and_false] at counts
        cases counts
    · exact .refl
  exact ends_mono handlePublish_ends (fun _ => advances) fun _ => advances

theorem waitOrPublish_advances {pass : ProducerPass} (first : CreatesFirst source thread.msgCount pass.call) :
    EndsAdvanced source variableRate thread.msgCount (waitOrPublish settings pass) thread := by
  unfold waitOrPublish
  split
  · exact (sameCount_sleepOrThrow _).advances .refl
  · exact handlePublish_advances first

theorem resetStatsIfDue_advances (now : ℤ) :
    EndsAdvanced source settings.variableRate thread.msgCount (resetStatsIfDue settings now) thread := by
  show Advances source settings.variableRate thread.msgCount (if _ then _ else _ : ProducerThread).msgCount
  split
  · rename_i due
    rw [(Bool.and_eq_true_iff.mp due).1]
    exact advances_reset
  · exact .refl

theorem loopPass_advances {pass : ProducerPass} (first : CreatesFirst source thread.msgCount pass.call) :
    EndsAdvanced source settings.variableRate thread.msgCount (loopPass settings pass) thread := by
  refine advances_bind (sameCount_flagged _ _) fun _ flagged here => ?_
  refine advances_bind (sameCount_keepGoing _) fun going checked same => ?_
  split
  · have body : EndsAdvanced source settings.variableRate checked.msgCount (loopBody settings pass) checked := by
      refine advances_bind (sameCount_orThrow _ _) fun _ limited still => ?_
      refine EndsAdvanced.bind (waitOrPublish_advances ?_) fun _ after => resetStatsIfDue_advances pass.now
      rwa [still, same, here]
    exact body.announced.bind fun _ after => (sameCount_pure true).advances .refl
  · exact ((sameCount_finish pass.found).bind fun _ => sameCount_pure false).advances .refl

theorem maybeHandlePublish_advances {invocation : ScheduledInvocation}
    (first : CreatesFirst source thread.msgCount invocation.call) :
    EndsAdvanced source variableRate thread.msgCount (maybeHandlePublish settings invocation) thread := by
  refine advances_bind (sameCount_keepGoing _) fun going checked same => ?_
  split
  · exact handlePublish_advances (same ▸ first)
  · refine advances_bind (sameCount_get _) fun _ _ _ => ?_
    split
    · exact ((sameCount_confirms invocation.found).bind fun _ => sameCount_countDown _).advances .refl
    · exact (sameCount_countDown _).advances .refl

theorem announceStart_same {startup : Startup} (fresh : thread.msgCount = 0) :
    (announceStart startup).ends (fun _ after => after.msgCount = thread.msgCount)
      (fun _ after => after.msgCount = thread.msgCount) thread := by
  unfold announceStart
  rw [ends_bind, ends_modify, fresh]
  exact sameCount_orThrow startup.listener (thread.atStart startup)

theorem start_advances {startup : Startup} (fresh : thread.msgCount = 0) :
    EndsAdvanced source variableRate thread.msgCount (start settings startup) thread := by
  have delayed : SameCount (delayStart settings startup) := by
    unfold delayStart
    split
    · split
      · exact fun _ => rfl
      · exact sameCount_sleepOrThrow _
    · exact sameCount_pure ()
  refine advances_bind (delayed _) fun _ after same => ?_
  refine EndsAdvanced.bind ?_ fun _ _ => (sameCount_pure true).advances .refl
  exact ends_mono (announceStart_same (same.trans fresh)) (fun _ _ same => same ▸ .refl) fun _ _ same => same ▸ .refl

theorem runnable_advances {startup : Startup} {initialized : Bool} {invocation : ScheduledInvocation}
    (fresh : initialized = false → thread.msgCount = 0) (first : CreatesFirst source thread.msgCount invocation.call) :
    EndsAdvanced source variableRate thread.msgCount (runnable settings startup initialized invocation) thread := by
  refine advances_bind (sameCount_flagged (fun _ => invocation.interrupted) _) fun _ flagged here => ?_
  have announced : (announceFirst startup initialized).ends (fun _ after => after.msgCount = flagged.msgCount)
      (fun _ after => after.msgCount = flagged.msgCount) flagged := by
    unfold announceFirst
    split
    · rfl
    · rename_i initial
      exact announceStart_same (here.trans (fresh (Bool.eq_false_of_not_eq_true initial)))
  refine advances_bind announced fun _ checked same => ?_
  have handled :
      EndsAdvanced source variableRate checked.msgCount (maybeHandlePublish settings invocation) checked := by
    refine maybeHandlePublish_advances ?_
    rwa [same, here]
  exact handled.announced.bind fun _ _ => (sameCount_pure true).advances .refl

theorem execute_left (left : ProducerThread → Prop) {run : ProducerRun} {call : ProducerCall Bool}
    (stays : left run.thread) (ends : call.ends (fun _ => left) (fun _ => left) run.thread) :
    left (run.execute call).thread := by
  unfold execute
  split
  · rcases ends_cases ends with ⟨going, after, ran, reached⟩ | ⟨exception, after, ran, reached⟩
    · rw [ran]
      cases going <;> exact reached
    · rw [ran]
      exact reached
  · exact stays

theorem looped_advances {startup : Startup} {passes : ℕ → ProducerPass}
    (first : ∀ count, CreatesFirst source (looped settings startup passes count).thread.msgCount (passes count).call)
    (count : ℕ) :
    Advances source settings.variableRate 0 (looped settings startup passes count).thread.msgCount := by
  induction count with
  | zero =>
    refine execute_left (Advances source settings.variableRate 0 ·.msgCount) .refl ?_
    exact start_advances rfl
  | succ count ih =>
    refine execute_left (Advances source settings.variableRate 0 ·.msgCount) ih ?_
    exact ends_mono (loopPass_advances (first count)) (fun _ _ more => ih.trans more) fun _ _ more => ih.trans more

theorem invoked_advances {startup : Startup} {invocations : ℕ → ScheduledInvocation}
    (first : ∀ count,
      CreatesFirst source (invoked settings startup invocations count).thread.msgCount (invocations count).call)
    (count : ℕ) : Advances source false 0 (invoked settings startup invocations count).thread.msgCount := by
  induction count with
  | zero => exact .refl
  | succ count ih =>
    refine execute_left (Advances source false 0 ·.msgCount) ih ?_
    have fresh (initialized : (count != 0) = false) :
        (invoked settings startup invocations count).thread.msgCount = 0 := by
      rw [bne_eq_false_iff_eq.mp initialized]
      rfl
    exact ends_mono (runnable_advances fresh (first count)) (fun _ _ more => ih.trans more)
      fun _ _ more => ih.trans more

end

end PerfTestProof
