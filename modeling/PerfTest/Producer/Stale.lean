import PerfTest.Producer.Tracking
import PerfTest.Producer.Waiting

namespace PerfTestProof

open Systems PerfTestModel

def AllConfirmed (state : ProducerState) : Prop :=
  recordedNo state.publishStage = none ∧ sweepEnd state.callbackStage = none ∧ state.unresolved = ∅

theorem Tracked.unconfirmed_empty {state : ProducerState} (holds : Tracked state)
    (confirmed : AllConfirmed state) : state.unconfirmed.isEmpty = true := by
  obtain ⟨free, still, none⟩ := confirmed
  rw [SortedMap.isEmpty_iff]
  refine Finset.eq_empty_of_forall_notMem fun key member => ?_
  rcases holds.justified key member with unresolved | held | ⟨bound, sweep, _⟩
  · rw [none] at unresolved
    exact absurd unresolved (Finset.notMem_empty _)
  · rw [free] at held; cases held
  · rw [still] at sweep; cases sweep

/-- No stale entry, in the runs in which no write fails and a channel is only replaced when every
    entry is confirmed: once all is confirmed the map is empty and the producer stops waiting after
    one pass. -/
theorem no_stale_entry (maxOutstandingConfirms : ℕ) {events : List ProducerEvent}
    {final : ProducerState}
    (executed : run (restrict keepsTrack ProducerState.step)
      (ProducerState.initial maxOutstandingConfirms) events = some final)
    (confirmed : AllConfirmed final) :
    final.unconfirmed.isEmpty = true ∧
      ∀ (confirmTimeout : ℤ) (found : ℕ → WaitPass),
        (found 0).unconfirmedIsEmpty = final.unconfirmed.isEmpty →
          maybeWaitForPublishConfirms confirmTimeout found ≤ 1 := by
  have holds := tracked_run (tracked_initial maxOutstandingConfirms) executed
  have empty := holds.unconfirmed_empty confirmed
  refine ⟨empty, fun confirmTimeout found sees => ?_⟩
  exact wait_ends_when_empty confirmTimeout (sees.trans empty)

def confirmedBeforeRecovery : List ProducerEvent :=
  [.handlePublish, .acquire, .getNextPublishSeqNo, .put 10, .basicPublish .accepted,
    .handlePublish, .acquire, .getNextPublishSeqNo, .put 20, .basicPublish .accepted,
    .confirm ⟨2, true, false, 30⟩, .latencies, .clear, .clear, .clear, .release, .shutdown, .reconnect,
    .handleRecovery, .recover, .releaseUsedPermits, .recoveryDone, .handlePublish, .acquire,
    .getNextPublishSeqNo, .put 40, .basicPublish .accepted, .confirm ⟨1, false, true, 50⟩, .release]

theorem no_stale_entry_confirmed :
    ∃ final, run (restrict keepsTrack ProducerState.step) (ProducerState.initial 2)
      confirmedBeforeRecovery = some final ∧ final.unconfirmed.isEmpty = true ∧
      maybeWaitForPublishConfirms 30 (fun _ => ⟨final.unconfirmed.isEmpty, false⟩) ≤ 1 := by
  have view : (run (restrict keepsTrack ProducerState.step) (ProducerState.initial 2)
      confirmedBeforeRecovery).map (fun final => (recordedNo final.publishStage,
        sweepEnd final.callbackStage, final.unresolved)) = some (none, none, ∅) := by decide
  obtain ⟨final, executed, stages⟩ := Option.map_eq_some_iff.mp view
  simp only [Prod.mk.injEq] at stages
  obtain ⟨empty, short⟩ := no_stale_entry 2 executed stages
  exact ⟨final, executed, empty, short 30 _ rfl⟩

def confirmLostWithConnection : List ProducerEvent :=
  [.handlePublish, .acquire, .getNextPublishSeqNo, .put 10, .basicPublish .accepted, .shutdown,
    .recoveryStarted, .reconnect, .handleRecovery, .recover, .releaseUsedPermits, .recoveryDone]

theorem stale_entry_reached :
    ¬ ∀ (maxOutstandingConfirms : ℕ) (events : List ProducerEvent) (final : ProducerState),
      run ProducerState.step (ProducerState.initial maxOutstandingConfirms) events = some final →
      AllConfirmed final → final.unconfirmed.isEmpty = true := by
  intro never
  have view : (run ProducerState.step (ProducerState.initial 1) confirmLostWithConnection).map
      (fun final => ((recordedNo final.publishStage, sweepEnd final.callbackStage, final.unresolved),
        final.unconfirmed.isEmpty)) = some ((none, none, ∅), false) := by decide
  obtain ⟨final, executed, stages⟩ := Option.map_eq_some_iff.mp view
  simp only [Prod.mk.injEq] at stages
  have empty := never 1 confirmLostWithConnection final executed stages.1
  rw [stages.2] at empty
  cases empty

/-- A channel replaced under an unconfirmed entry leaves that entry behind at once. -/
theorem reconnect_strands {state next : ProducerState} (free : recordedNo state.publishStage = none)
    (left : state.unconfirmed.isEmpty = false) (stepped : state.reconnect = some next) :
    AllConfirmed next ∧ next.unconfirmed.isEmpty = false := by
  obtain ⟨_, idle, rfl⟩ := ProducerState.reconnect_cases stepped
  exact ⟨⟨free, by rw [idle]; rfl, rfl⟩, left⟩

/-- A write that fails after its put leaves its entry behind, at once if nothing else is waiting. -/
theorem failed_publish_strands {state next : ProducerState} {numberTaken : Bool} (holds : Tracked state)
    (still : sweepEnd state.callbackStage = none) (quiet : state.unresolved = ∅)
    (stepped : state.basicPublish (.failed numberTaken) = some next) :
    AllConfirmed next ∧ next.unconfirmed.isEmpty = false := by
  obtain ⟨era, publishindId, stage, cases⟩ := ProducerState.basicPublish_cases stepped
  have recorded := (holds.recorded publishindId (by rw [stage]; rfl)).2
  rcases cases with ⟨impossible, _⟩ | ⟨_, _, rfl⟩
  · cases impossible
  · refine ⟨⟨rfl, still, quiet⟩, ?_⟩
    by_contra full
    rw [Bool.not_eq_false, SortedMap.isEmpty_iff] at full
    rw [full] at recorded
    exact absurd recorded (Finset.notMem_empty _)

end PerfTestProof
