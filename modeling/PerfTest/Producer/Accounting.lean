import PerfTest.Producer.Tracking
import PerfTest.Systems.Ledger

namespace PerfTestProof

open Systems PerfTestModel

inductive PermitPlace where
  | available
  | acquired
  | tracked
  | removed
  deriving DecidableEq

instance : Fintype PermitPlace where
  elems := {.available, .acquired, .tracked, .removed}
  complete place := by cases place <;> decide

def acquiredNotPut : PublishStage → ℕ
  | .acquired _ => 1
  | .numbered _ _ => 1
  | _ => 0

def permitLedger (state : ProducerState) : PermitPlace → ℕ
  | .available => state.confirmPool.availablePermits
  | .acquired => acquiredNotPut state.publishStage
  | .tracked => state.unconfirmed.size
  | .removed => removedNotReleased state.callbackStage

def lossFree (_ : ProducerState) : ProducerEvent → Bool
  | .handlePublish => true
  | .acquire => true
  | .getNextPublishSeqNo => true
  | .put _ => true
  | .basicPublish .accepted => true
  | .confirm _ => true
  | .latencies => true
  | .clear => true
  | .release => true
  | _ => false

variable {state next : ProducerState}

theorem lossFree_keepsTrack {event : ProducerEvent} (calm : lossFree state event = true) :
    keepsTrack state event = true := by
  cases event with
  | basicPublish outcome => cases outcome <;> simp_all [lossFree, keepsTrack]
  | reconnect => cases calm
  | _ => rfl

/-- The number the channel is going to use is not in the map before the thread puts it there. -/
theorem Tracked.fresh (holds : Tracked state) (free : recordedNo state.publishStage = none) :
    state.nextPublishSeqNo ∉ state.unconfirmed.keys := by
  intro present
  rcases holds.justified _ present with unresolved | held | ⟨bound, sweep, within⟩
  · have := holds.below _ (Finset.mem_union_left _ unresolved)
    omega
  · rw [free] at held; cases held
  · have := (holds.swept bound sweep).1
    omega

theorem permits_unmoved (pool : next.confirmPool = state.confirmPool)
    (acquired : acquiredNotPut next.publishStage = acquiredNotPut state.publishStage)
    (tracked : next.unconfirmed = state.unconfirmed)
    (removed : removedNotReleased next.callbackStage = removedNotReleased state.callbackStage) :
    ∃ entries, run Ledger.transfer (permitLedger state) entries = some (permitLedger next) := by
  have same : permitLedger next = permitLedger state := by
    funext place
    cases place with
    | available => exact congrArg Java.Semaphore.availablePermits pool
    | acquired => exact acquired
    | tracked => exact congrArg SortedMap.size tracked
    | removed => exact removed
  exact ⟨[], congrArg some same.symm⟩

/-- A confirm takes a message off the map. -/
theorem permit_removed {seqNo : ℕ} (outstanding : seqNo ∈ state.unconfirmed.keys)
    (pool : next.confirmPool = state.confirmPool)
    (acquired : acquiredNotPut next.publishStage = acquiredNotPut state.publishStage)
    (tracked : next.unconfirmed = state.unconfirmed.remove seqNo)
    (removed : removedNotReleased next.callbackStage = removedNotReleased state.callbackStage + 1) :
    ∃ entries, run Ledger.transfer (permitLedger state) entries = some (permitLedger next) := by
  refine ⟨_, Ledger.run_single (Ledger.transfer_of .tracked .removed 1 (by decide) ?_ ?_ ?_)⟩
  · simp only [permitLedger, tracked, SortedMap.size_eq_card, SortedMap.keys_remove]
    exact Finset.card_erase_add_one outstanding
  · exact removed
  · intro place notSource notTarget
    cases place with
    | available => exact congrArg Java.Semaphore.availablePermits pool
    | acquired => exact acquired
    | tracked => exact absurd rfl notSource
    | removed => exact absurd rfl notTarget

/-- Permits move along the steps, none is made and none is lost. -/
theorem permits_matched {event : ProducerEvent} (holds : Tracked state)
    (calm : lossFree state event = true) (stepped : state.step event = some next) :
    ∃ entries, run Ledger.transfer (permitLedger state) entries = some (permitLedger next) := by
  cases event with
  | handlePublish =>
    obtain ⟨stage, rfl | ⟨_, rfl⟩⟩ := ProducerState.handlePublish_cases stepped
    · exact permits_unmoved rfl rfl rfl rfl
    · exact permits_unmoved rfl (by rw [stage]; rfl) rfl rfl
  | acquire =>
    obtain ⟨stage, pool, paid, rfl⟩ := ProducerState.acquire_cases stepped
    refine ⟨_, Ledger.run_single (Ledger.transfer_of .available .acquired 1 (by decide) ?_ ?_ ?_)⟩
    · simpa only [permitLedger] using paid
    · simp [permitLedger, acquiredNotPut, stage]
    · intro place notSource notTarget
      cases place <;> simp_all [permitLedger]
  | getNextPublishSeqNo =>
    obtain ⟨era, stage, rfl⟩ := ProducerState.getNextPublishSeqNo_cases stepped
    exact permits_unmoved rfl (by rw [stage]; rfl) rfl rfl
  | put timestamp =>
    obtain ⟨era, publishindId, stage, rfl⟩ := ProducerState.putUnconfirmed_cases stepped
    have number := holds.numbered era publishindId stage
    have fresh := holds.fresh (by rw [stage]; rfl)
    subst number
    refine ⟨_, Ledger.run_single (Ledger.transfer_of .acquired .tracked 1 (by decide) ?_ ?_ ?_)⟩
    · simp [permitLedger, acquiredNotPut, stage]
    · simp only [permitLedger, SortedMap.size_eq_card, SortedMap.keys_put]
      exact Finset.card_insert_of_notMem fresh
    · intro place notSource notTarget
      cases place <;> simp_all [permitLedger]
  | basicPublish outcome =>
    obtain ⟨era, publishindId, stage, ⟨_, _, rfl⟩ | ⟨taken, failed, _⟩⟩ :=
      ProducerState.basicPublish_cases stepped
    · exact permits_unmoved rfl (by rw [stage]; rfl) rfl rfl
    · subst failed; cases calm
  | confirm frame =>
    obtain ⟨idle, _, ⟨_, _, rfl⟩ | ⟨_, outstanding, _, rfl⟩ | ⟨_, outstanding, _, absent, _⟩⟩ :=
      ProducerState.handleAckNack_cases stepped
    · exact permits_unmoved rfl rfl rfl (by rw [idle]; rfl)
    · exact permit_removed (holds.tracked _ outstanding) rfl rfl rfl (by rw [idle]; rfl)
    · exact absurd (holds.tracked _ outstanding) absent
  | latencies =>
    obtain ⟨frame, covered, numConfirms, stage, ⟨latencies, rfl⟩ | ⟨_, rfl⟩⟩ :=
      ProducerState.processLatencies_cases stepped
    · exact permits_unmoved rfl rfl rfl (by rw [stage]; rfl)
    · exact permits_unmoved rfl rfl rfl (by rw [stage]; rfl)
  | clear =>
    obtain ⟨frame, covered, numConfirms, latencies, removed, stage, cases⟩ :=
      ProducerState.clearConfirmed_cases stepped
    rcases cases with ⟨key, first, rfl⟩ | ⟨emptied, _, rfl⟩
    · simp only [SortedMap.keys_headMap, Finset.mem_filter] at first
      exact permit_removed first.1 rfl rfl rfl (by rw [stage]; rfl)
    · have count := (holds.swept frame.seqNo (by rw [stage]; rfl)).2.2.2
      rw [SortedMap.size_eq_card, emptied, stage] at count
      simp only [removedNotReleased, toRelease, Finset.card_empty, Nat.zero_add] at count
      refine permits_unmoved rfl rfl rfl ?_
      simp [removedNotReleased, stage, count]
  | release =>
    obtain ⟨numConfirms, pool, stage, received, rfl⟩ := ProducerState.releaseConfirms_cases stepped
    refine ⟨_, Ledger.run_single (Ledger.transfer_of .removed .available numConfirms (by decide) ?_ ?_ ?_)⟩
    · simp [permitLedger, removedNotReleased, stage]
    · simpa only [permitLedger] using received
    · intro place notSource notTarget
      cases place <;> simp_all [permitLedger]
  | _ => cases calm

theorem permitLedger_total (state : ProducerState) :
    Ledger.total (permitLedger state) =
      state.confirmPool.availablePermits + state.unconfirmed.size +
        acquiredNotPut state.publishStage + removedNotReleased state.callbackStage := by
  have places : (Finset.univ : Finset PermitPlace) = {.available, .acquired, .tracked, .removed} := rfl
  simp only [Ledger.total, places, Finset.sum_insert, Finset.sum_singleton, Finset.mem_insert,
    Finset.mem_singleton, reduceCtorEq, or_self, not_false_eq_true, permitLedger]
  omega

/-- Publisher confirms without connection loss: permits are conserved, and the map holds the
    published messages that wait for their confirm and no confirmed one. -/
theorem confirm_accounting (maxOutstandingConfirms : ℕ) {events : List ProducerEvent}
    {final : ProducerState}
    (executed : run (restrict lossFree ProducerState.step) (ProducerState.initial maxOutstandingConfirms)
      events = some final) :
    final.confirmPool.availablePermits + final.unconfirmed.size + acquiredNotPut final.publishStage +
        removedNotReleased final.callbackStage = maxOutstandingConfirms ∧
      (∀ seqNo ∈ final.processed, seqNo ∉ final.unconfirmed.keys) ∧
      (∀ seqNo ∈ final.unresolved, seqNo ∈ final.unconfirmed.keys) ∧
      ∀ seqNo, 0 < seqNo → seqNo < final.nextPublishSeqNo → seqNo ∈ final.unresolved ∨
        seqNo ∈ final.processed ∨ seqNo ∈ coveredNos final.callbackStage := by
  have preserved : ∀ current event after, Tracked current →
      restrict lossFree ProducerState.step current event = some after → Tracked after := by
    intro current event after holds stepped
    obtain ⟨calm, stepped⟩ := restrict_some.mp stepped
    exact holds.step (lossFree_keepsTrack calm) stepped
  have holds := run_invariant Tracked preserved (tracked_initial maxOutstandingConfirms) executed
  obtain ⟨entries, moved⟩ := run_simulated Ledger.transfer permitLedger Tracked preserved
    (fun current event after holds stepped =>
      permits_matched holds (restrict_some.mp stepped).1 (restrict_some.mp stepped).2)
    (tracked_initial maxOutstandingConfirms) executed
  have conserved := Ledger.run_total moved
  rw [permitLedger_total, permitLedger_total] at conserved
  exact ⟨conserved, holds.gone, holds.tracked, holds.complete⟩

def confirmDuringPublish : List ProducerEvent :=
  [.handlePublish, .acquire, .getNextPublishSeqNo, .put 10, .basicPublish .accepted,
    .handlePublish, .acquire, .getNextPublishSeqNo, .put 20, .basicPublish .accepted,
    .handlePublish, .acquire, .confirm ⟨2, true, false, 30⟩, .getNextPublishSeqNo, .latencies, .clear,
    .put 40, .clear, .clear, .release]

theorem confirm_accounting_during_publish :
    ∃ final, run (restrict lossFree ProducerState.step) (ProducerState.initial 3)
      confirmDuringPublish = some final ∧
      final.confirmPool.availablePermits + final.unconfirmed.size +
        acquiredNotPut final.publishStage + removedNotReleased final.callbackStage = 3 := by
  obtain ⟨final, executed⟩ : ∃ final, run (restrict lossFree ProducerState.step)
      (ProducerState.initial 3) confirmDuringPublish = some final :=
    Option.isSome_iff_exists.mp (by decide)
  exact ⟨final, executed, (confirm_accounting 3 executed).1⟩

end PerfTestProof
