import PerfTest.Producer.ConfirmSteps

namespace PerfTestProof

open Systems PerfTestModel

def recordedNo : PublishStage → Option ℕ
  | .recorded _ publishindId => some publishindId
  | _ => none

def sweepEnd : CallbackStage → Option ℕ
  | .counted frame _ _ => some frame.seqNo
  | .clearing frame _ _ _ _ => some frame.seqNo
  | _ => none

def coveredNos : CallbackStage → Finset ℕ
  | .counted _ covered _ => covered
  | .clearing _ covered _ _ _ => covered
  | _ => ∅

def removedNotReleased : CallbackStage → ℕ
  | .clearing _ _ _ _ removed => removed
  | .processed numConfirms => numConfirms
  | _ => 0

def toRelease : CallbackStage → ℕ
  | .counted _ _ numConfirms => numConfirms
  | .clearing _ _ numConfirms _ _ => numConfirms
  | .processed numConfirms => numConfirms
  | .idle => 0

structure Tracked (state : ProducerState) : Prop where
  positive : 0 < state.nextPublishSeqNo
  numbered : ∀ era publishindId, state.publishStage = .numbered era publishindId →
    publishindId = state.nextPublishSeqNo
  recorded : ∀ publishindId, recordedNo state.publishStage = some publishindId →
    publishindId = state.nextPublishSeqNo ∧ publishindId ∈ state.unconfirmed.keys
  below : ∀ key ∈ state.unresolved ∪ state.processed, key < state.nextPublishSeqNo
  swept : ∀ bound, sweepEnd state.callbackStage = some bound →
    bound < state.nextPublishSeqNo ∧ (∀ key ∈ state.unresolved, bound < key) ∧
      (∀ key ∈ coveredNos state.callbackStage, key ≤ bound) ∧
      (state.unconfirmed.headMap bound).size + removedNotReleased state.callbackStage =
        toRelease state.callbackStage
  tracked : ∀ key ∈ state.unresolved, key ∈ state.unconfirmed.keys
  justified : ∀ key ∈ state.unconfirmed.keys, key ∈ state.unresolved ∨
    recordedNo state.publishStage = some key ∨
    ∃ bound, sweepEnd state.callbackStage = some bound ∧ key ≤ bound
  gone : ∀ key ∈ state.processed, key ∉ state.unconfirmed.keys
  complete : ∀ key, 0 < key → key < state.nextPublishSeqNo →
    key ∈ state.unresolved ∨ key ∈ state.processed ∨ key ∈ coveredNos state.callbackStage

theorem tracked_initial (maxOutstandingConfirms : ℕ) :
    Tracked (ProducerState.initial maxOutstandingConfirms) := by
  constructor <;> simp [ProducerState.initial, recordedNo, sweepEnd, coveredNos, Nat.pos_iff_ne_zero]

/-- The invariant only reads the publishing side of the state. -/
theorem Tracked.frame {state next : ProducerState} (holds : Tracked state)
    (number : next.nextPublishSeqNo = state.nextPublishSeqNo)
    (stage : next.publishStage = state.publishStage) (callback : next.callbackStage = state.callbackStage)
    (map : next.unconfirmed = state.unconfirmed) (unresolved : next.unresolved = state.unresolved)
    (processed : next.processed = state.processed) : Tracked next := by
  constructor
  · rw [number]
    exact holds.positive
  · rw [number, stage]
    exact holds.numbered
  · rw [number, stage, map]
    exact holds.recorded
  · rw [number, unresolved, processed]
    exact holds.below
  · rw [number, callback, unresolved, map]
    exact holds.swept
  · rw [unresolved, map]
    exact holds.tracked
  · rw [map, unresolved, stage, callback]
    exact holds.justified
  · rw [processed, map]
    exact holds.gone
  · rw [number, unresolved, processed, callback]
    exact holds.complete

def staleOnReconnect : PublishStage → Bool
  | .numbered _ publishindId => publishindId != 1
  | _ => false

/-- The steps after which the map still follows the channel: no write fails, and a channel is only
    replaced when every entry is confirmed and no number of the old channel is about to enter. -/
def keepsTrack (state : ProducerState) : ProducerEvent → Bool
  | .basicPublish outcome => outcome = .accepted
  | .reconnect => state.unconfirmed.isEmpty && !staleOnReconnect state.publishStage
  | _ => true

variable {state next : ProducerState}

theorem Tracked.putUnconfirmed {timestamp : ℤ} (holds : Tracked state)
    (stepped : state.putUnconfirmed timestamp = some next) : Tracked next := by
  obtain ⟨era, publishindId, stage, rfl⟩ := ProducerState.putUnconfirmed_cases stepped
  have number := holds.numbered era publishindId stage
  have idle : recordedNo state.publishStage = none := by rw [stage]; rfl
  subst number
  constructor
  · exact holds.positive
  · intro _ _ same; cases same
  · intro key same
    cases same
    exact ⟨rfl, by simp⟩
  · exact holds.below
  · intro bound sweep
    obtain ⟨bounded, later, covered, count⟩ := holds.swept bound sweep
    refine ⟨bounded, later, covered, ?_⟩
    have head : ((state.unconfirmed.put state.nextPublishSeqNo timestamp).headMap bound).keys =
        (state.unconfirmed.headMap bound).keys := by
      simp only [SortedMap.keys_headMap, SortedMap.keys_put, Finset.filter_insert]
      rw [if_neg (by omega)]
    rw [SortedMap.size_eq_card, head, ← SortedMap.size_eq_card]
    exact count
  · intro key member
    simp [holds.tracked key member]
  · intro key member
    simp only [SortedMap.keys_put, Finset.mem_insert] at member
    rcases member with rfl | member
    · exact Or.inr (Or.inl rfl)
    · rcases holds.justified key member with unresolved | inHand | swept
      · exact Or.inl unresolved
      · rw [idle] at inHand; cases inHand
      · exact Or.inr (Or.inr swept)
  · intro key member
    have bounded := holds.below key (Finset.mem_union_right _ member)
    simp only [SortedMap.keys_put, Finset.mem_insert, not_or]
    exact ⟨by omega, holds.gone key member⟩
  · exact holds.complete

/-- Moves of the publishing thread that leave the map and the channel alone. -/
theorem Tracked.restage (holds : Tracked state) (pool : Java.Semaphore) (stage : PublishStage)
    (before : recordedNo state.publishStage = none) (after : recordedNo stage = none)
    (numbered : ∀ era publishindId, stage = .numbered era publishindId →
      publishindId = state.nextPublishSeqNo) :
    Tracked { state with confirmPool := pool, publishStage := stage } := by
  refine ⟨holds.positive, numbered, ?_, holds.below, holds.swept, holds.tracked, ?_, holds.gone,
    holds.complete⟩
  · intro publishindId same
    rw [after] at same; cases same
  · intro key member
    rcases holds.justified key member with unresolved | inHand | swept
    · exact Or.inl unresolved
    · rw [before] at inHand; cases inHand
    · exact Or.inr (Or.inr swept)

theorem Tracked.published (holds : Tracked state)
    (stepped : state.basicPublish .accepted = some next) : Tracked next := by
  obtain ⟨era, publishindId, stage, cases⟩ := ProducerState.basicPublish_cases stepped
  rcases cases with ⟨_, _, rfl⟩ | ⟨_, impossible, _⟩
  · have inHand : recordedNo state.publishStage = some publishindId := by rw [stage]; rfl
    obtain ⟨rfl, recorded⟩ := holds.recorded publishindId inHand
    constructor
    · exact Nat.succ_pos _
    · intro _ _ same; cases same
    · intro _ same; cases same
    · intro key member
      simp only [Finset.insert_union, Finset.mem_insert] at member
      rcases member with rfl | member
      · exact Nat.lt_succ_self _
      · exact Nat.lt_succ_of_lt (holds.below key member)
    · intro bound sweep
      obtain ⟨bounded, later, covered, count⟩ := holds.swept bound sweep
      refine ⟨Nat.lt_succ_of_lt bounded, ?_, covered, count⟩
      intro key member
      rcases Finset.mem_insert.mp member with rfl | member
      · exact bounded
      · exact later key member
    · intro key member
      rcases Finset.mem_insert.mp member with rfl | member
      · exact recorded
      · exact holds.tracked key member
    · intro key member
      rcases holds.justified key member with unresolved | held | swept
      · exact Or.inl (Finset.mem_insert_of_mem unresolved)
      · rw [inHand] at held
        cases held
        exact Or.inl (Finset.mem_insert_self _ _)
      · exact Or.inr (Or.inr swept)
    · exact holds.gone
    · intro key positive bounded
      rcases Nat.lt_succ_iff_lt_or_eq.mp bounded with before | rfl
      · rcases holds.complete key positive before with unresolved | rest
        · exact Or.inl (Finset.mem_insert_of_mem unresolved)
        · exact Or.inr rest
      · exact Or.inl (Finset.mem_insert_self _ _)
  · cases impossible

/-- An entry of an older number can go without the one that is being published. -/
theorem Tracked.recorded_remove (holds : Tracked state) {key : ℕ} (before : key < state.nextPublishSeqNo) :
    ∀ publishindId, recordedNo state.publishStage = some publishindId →
      publishindId = state.nextPublishSeqNo ∧ publishindId ∈ (state.unconfirmed.remove key).keys := by
  intro publishindId held
  obtain ⟨rfl, member⟩ := holds.recorded publishindId held
  refine ⟨rfl, ?_⟩
  simp only [SortedMap.keys_remove, Finset.mem_erase]
  exact ⟨by omega, member⟩

theorem Tracked.multipleConfirmed {frame : ConfirmFrame} (holds : Tracked state) (idle : state.callbackStage = .idle)
    (bounded : frame.seqNo < state.nextPublishSeqNo) :
    Tracked { state with
      unresolved := state.unresolved.filter (frame.seqNo < ·)
      callbackStage := .counted frame (state.unresolved.filter (· ≤ frame.seqNo))
        (state.unconfirmed.headMap frame.seqNo).size } := by
  have noSweep : sweepEnd state.callbackStage = none := by rw [idle]; rfl
  have noneCovered : coveredNos state.callbackStage = ∅ := by rw [idle]; rfl
  constructor
  · exact holds.positive
  · exact holds.numbered
  · exact holds.recorded
  · intro key member
    refine holds.below key ?_
    simp only [Finset.mem_union, Finset.mem_filter] at member ⊢
    tauto
  · intro bound sweep
    cases sweep
    refine ⟨bounded, ?_, ?_, by simp [removedNotReleased, toRelease]⟩
    · intro key member
      exact (Finset.mem_filter.mp member).2
    · intro key member
      exact (Finset.mem_filter.mp member).2
  · intro key member
    exact holds.tracked key (Finset.mem_filter.mp member).1
  · intro key member
    rcases holds.justified key member with unresolved | held | ⟨_, sweep, _⟩
    · rcases Nat.lt_or_ge frame.seqNo key with above | within
      · exact Or.inl (Finset.mem_filter.mpr ⟨unresolved, above⟩)
      · exact Or.inr (Or.inr ⟨frame.seqNo, rfl, within⟩)
    · exact Or.inr (Or.inl held)
    · rw [noSweep] at sweep; cases sweep
  · exact holds.gone
  · intro key positive before
    rcases holds.complete key positive before with unresolved | done | covered
    · rcases Nat.lt_or_ge frame.seqNo key with above | within
      · exact Or.inl (Finset.mem_filter.mpr ⟨unresolved, above⟩)
      · exact Or.inr (Or.inr (Finset.mem_filter.mpr ⟨unresolved, within⟩))
    · exact Or.inr (Or.inl done)
    · rw [noneCovered] at covered
      exact absurd covered (Finset.notMem_empty _)

theorem Tracked.singleConfirmed {frame : ConfirmFrame} (holds : Tracked state) (idle : state.callbackStage = .idle)
    (outstanding : frame.seqNo ∈ state.unresolved) (metrics : List MetricsCall) :
    Tracked { state with
      unresolved := state.unresolved.erase frame.seqNo
      processed := insert frame.seqNo state.processed
      unconfirmed := state.unconfirmed.remove frame.seqNo
      metrics := metrics
      callbackStage := .processed 1 } := by
  have noSweep : sweepEnd state.callbackStage = none := by rw [idle]; rfl
  have noneCovered : coveredNos state.callbackStage = ∅ := by rw [idle]; rfl
  have before := holds.below frame.seqNo (Finset.mem_union_left _ outstanding)
  constructor
  · exact holds.positive
  · exact holds.numbered
  · exact holds.recorded_remove before
  · intro key member
    simp only [Finset.mem_union, Finset.mem_erase, Finset.mem_insert] at member
    rcases member with ⟨_, unresolved⟩ | rfl | done
    · exact holds.below key (Finset.mem_union_left _ unresolved)
    · exact before
    · exact holds.below key (Finset.mem_union_right _ done)
  · intro bound sweep; cases sweep
  · intro key member
    obtain ⟨other, unresolved⟩ := Finset.mem_erase.mp member
    simp only [SortedMap.keys_remove, Finset.mem_erase]
    exact ⟨other, holds.tracked key unresolved⟩
  · intro key member
    simp only [SortedMap.keys_remove, Finset.mem_erase] at member
    rcases holds.justified key member.2 with unresolved | held | ⟨_, sweep, _⟩
    · exact Or.inl (Finset.mem_erase.mpr ⟨member.1, unresolved⟩)
    · exact Or.inr (Or.inl held)
    · rw [noSweep] at sweep; cases sweep
  · intro key member
    simp only [SortedMap.keys_remove, Finset.mem_erase, not_and]
    intro other
    rcases Finset.mem_insert.mp member with rfl | done
    · exact absurd rfl other
    · exact holds.gone key done
  · intro key positive bounded
    by_cases same : key = frame.seqNo
    · exact Or.inr (Or.inl (Finset.mem_insert.mpr (Or.inl same)))
    · rcases holds.complete key positive bounded with unresolved | done | covered
      · exact Or.inl (Finset.mem_erase.mpr ⟨same, unresolved⟩)
      · exact Or.inr (Or.inl (Finset.mem_insert_of_mem done))
      · rw [noneCovered] at covered
        exact absurd covered (Finset.notMem_empty _)

theorem Tracked.handleAckNack {frame : ConfirmFrame} (holds : Tracked state)
    (stepped : state.handleAckNack frame = some next) : Tracked next := by
  obtain ⟨idle, _, ⟨_, bounded, rfl⟩ | ⟨_, outstanding, _, rfl⟩ | ⟨_, outstanding, _, absent, _⟩⟩ :=
    ProducerState.handleAckNack_cases stepped
  · exact holds.multipleConfirmed idle bounded
  · exact holds.singleConfirmed idle outstanding _
  · exact absurd (holds.tracked _ outstanding) absent

/-- The head map does not change under the sweep, so the array of latencies never overflows. -/
theorem Tracked.processLatencies (holds : Tracked state)
    (stepped : state.processLatencies = some next) : Tracked next := by
  obtain ⟨frame, covered, numConfirms, stage, cases⟩ := ProducerState.processLatencies_cases stepped
  have sweep : sweepEnd state.callbackStage = some frame.seqNo := by rw [stage]; rfl
  have atSweep := holds.swept frame.seqNo sweep
  have allCovered : coveredNos state.callbackStage = covered := by rw [stage]; rfl
  rw [stage] at atSweep
  rcases cases with ⟨latencies, rfl⟩ | ⟨overflow, _⟩
  · refine ⟨holds.positive, holds.numbered, holds.recorded, holds.below, ?_, holds.tracked, ?_,
      holds.gone, ?_⟩
    · intro bound same
      cases same
      exact atSweep
    · intro key member
      have justified := holds.justified key member
      rw [sweep] at justified
      exact justified
    · intro key positive bounded
      have complete := holds.complete key positive bounded
      rw [allCovered] at complete
      exact complete
  · have count := atSweep.2.2.2
    simp only [removedNotReleased, toRelease] at count
    omega

theorem Tracked.confirmedRemoved {frame : ConfirmFrame} {covered : Finset ℕ} {numConfirms removed key : ℕ}
    {latencies : List ℤ} (holds : Tracked state)
    (stage : state.callbackStage = .clearing frame covered numConfirms latencies removed)
    (first : key ∈ (state.unconfirmed.headMap frame.seqNo).keys) :
    Tracked { state with
      unconfirmed := state.unconfirmed.remove key
      callbackStage := .clearing frame covered numConfirms latencies (removed + 1) } := by
  have sweep : sweepEnd state.callbackStage = some frame.seqNo := by rw [stage]; rfl
  have allCovered : coveredNos state.callbackStage = covered := by rw [stage]; rfl
  obtain ⟨bounded, later, within, count⟩ := holds.swept frame.seqNo sweep
  rw [allCovered] at within
  rw [stage] at count
  simp only [SortedMap.keys_headMap, Finset.mem_filter] at first
  have notOutstanding : key ∉ state.unresolved := fun member => by
    have := later key member
    omega
  constructor
  · exact holds.positive
  · exact holds.numbered
  · exact holds.recorded_remove (by omega)
  · exact holds.below
  · intro bound same
    cases same
    refine ⟨bounded, later, within, ?_⟩
    simp only [SortedMap.size_eq_card, SortedMap.keys_headMap, SortedMap.keys_remove,
      Finset.filter_erase, removedNotReleased, toRelease] at count ⊢
    have member : key ∈ state.unconfirmed.keys.filter (· ≤ frame.seqNo) :=
      Finset.mem_filter.mpr first
    have removedOne := Finset.card_erase_add_one member
    omega
  · intro other member
    simp only [SortedMap.keys_remove, Finset.mem_erase]
    refine ⟨?_, holds.tracked other member⟩
    rintro rfl
    exact notOutstanding member
  · intro other member
    simp only [SortedMap.keys_remove, Finset.mem_erase] at member
    have justified := holds.justified other member.2
    rw [sweep] at justified
    exact justified
  · intro other member
    simp only [SortedMap.keys_remove, Finset.mem_erase, not_and]
    intro _
    exact holds.gone other member
  · intro other positive before
    have complete := holds.complete other positive before
    rw [allCovered] at complete
    exact complete

theorem Tracked.confirmedCleared {frame : ConfirmFrame} {covered : Finset ℕ} {numConfirms removed : ℕ}
    {latencies : List ℤ} (holds : Tracked state)
    (stage : state.callbackStage = .clearing frame covered numConfirms latencies removed)
    (emptied : (state.unconfirmed.headMap frame.seqNo).keys = ∅) (metrics : List MetricsCall) :
    Tracked { state with
      processed := state.processed ∪ covered
      metrics := metrics
      callbackStage := .processed numConfirms } := by
  have sweep : sweepEnd state.callbackStage = some frame.seqNo := by rw [stage]; rfl
  have allCovered : coveredNos state.callbackStage = covered := by rw [stage]; rfl
  obtain ⟨bounded, _, within, _⟩ := holds.swept frame.seqNo sweep
  rw [allCovered] at within
  rw [SortedMap.keys_headMap, Finset.filter_eq_empty_iff] at emptied
  constructor
  · exact holds.positive
  · exact holds.numbered
  · exact holds.recorded
  · intro key member
    simp only [Finset.mem_union] at member
    rcases member with unresolved | done | inFrame
    · exact holds.below key (Finset.mem_union_left _ unresolved)
    · exact holds.below key (Finset.mem_union_right _ done)
    · exact lt_of_le_of_lt (within key inFrame) bounded
  · intro bound same; cases same
  · exact holds.tracked
  · intro key member
    rcases holds.justified key member with unresolved | held | ⟨bound, same, reached⟩
    · exact Or.inl unresolved
    · exact Or.inr (Or.inl held)
    · rw [sweep] at same
      cases same
      exact absurd reached (emptied member)
  · intro key member
    rcases Finset.mem_union.mp member with done | inFrame
    · exact holds.gone key done
    · exact fun present => emptied present (within key inFrame)
  · intro key positive before
    rcases holds.complete key positive before with unresolved | done | inFrame
    · exact Or.inl unresolved
    · exact Or.inr (Or.inl (Finset.mem_union_left _ done))
    · rw [allCovered] at inFrame
      exact Or.inr (Or.inl (Finset.mem_union_right _ inFrame))

theorem Tracked.clearConfirmed (holds : Tracked state)
    (stepped : state.clearConfirmed = some next) : Tracked next := by
  obtain ⟨frame, covered, numConfirms, latencies, removed, stage, cases⟩ :=
    ProducerState.clearConfirmed_cases stepped
  rcases cases with ⟨key, first, rfl⟩ | ⟨emptied, _, rfl⟩
  · exact holds.confirmedRemoved stage first
  · exact holds.confirmedCleared stage emptied _

theorem Tracked.releaseConfirms (holds : Tracked state)
    (stepped : state.releaseConfirms = some next) : Tracked next := by
  obtain ⟨numConfirms, pool, stage, _, rfl⟩ := ProducerState.releaseConfirms_cases stepped
  have noSweep : sweepEnd state.callbackStage = none := by rw [stage]; rfl
  have noneCovered : coveredNos state.callbackStage = ∅ := by rw [stage]; rfl
  refine ⟨holds.positive, holds.numbered, holds.recorded, holds.below, ?_, holds.tracked, ?_,
    holds.gone, ?_⟩
  · intro bound same; cases same
  · intro key member
    have justified := holds.justified key member
    rw [noSweep] at justified
    exact justified
  · intro key positive before
    have complete := holds.complete key positive before
    rw [noneCovered] at complete
    exact complete

/-- A new channel starts with nothing published: the map has to start empty as well, and no number
    of the old channel may be about to enter it. -/
theorem Tracked.reconnect (holds : Tracked state) (keeps : keepsTrack state .reconnect = true)
    (stepped : state.reconnect = some next) : Tracked next := by
  obtain ⟨_, idle, rfl⟩ := ProducerState.reconnect_cases stepped
  simp only [keepsTrack, Bool.and_eq_true, Bool.not_eq_true'] at keeps
  have empty := (SortedMap.isEmpty_iff _).mp keeps.1
  constructor
  · exact Nat.one_pos
  · intro era publishindId same
    have current := keeps.2
    dsimp only at same
    simpa only [same, staleOnReconnect, bne_eq_false_iff_eq] using current
  · intro publishindId held
    have member := (holds.recorded publishindId held).2
    rw [empty] at member
    exact absurd member (Finset.notMem_empty _)
  · simp
  · intro bound sweep
    simp only [idle, sweepEnd] at sweep
    cases sweep
  · simp
  · intro key member
    simp only [empty] at member
    exact absurd member (Finset.notMem_empty _)
  · simp
  · intro key positive before
    dsimp only at before
    omega

theorem Tracked.step {event : ProducerEvent} (holds : Tracked state) (keeps : keepsTrack state event = true)
    (stepped : state.step event = some next) : Tracked next := by
  cases event with
  | handlePublish =>
    obtain ⟨stage, rfl | ⟨_, rfl⟩⟩ := ProducerState.handlePublish_cases stepped
    · exact holds
    · exact holds.restage _ _ (by rw [stage]; rfl) rfl (by simp)
  | acquire =>
    obtain ⟨stage, pool, _, rfl⟩ := ProducerState.acquire_cases stepped
    exact holds.restage _ _ (by rw [stage]; rfl) rfl (by simp)
  | acquireTimeout =>
    obtain ⟨stage, rfl⟩ := ProducerState.acquireTimeout_cases stepped
    exact holds.restage _ _ (by rw [stage]; rfl) rfl (by simp)
  | createFails =>
    obtain ⟨era, stage, rfl⟩ := ProducerState.createFails_cases stepped
    exact holds.restage _ _ (by rw [stage]; rfl) rfl (by simp)
  | getNextPublishSeqNo =>
    obtain ⟨era, stage, rfl⟩ := ProducerState.getNextPublishSeqNo_cases stepped
    refine holds.restage _ _ (by rw [stage]; rfl) rfl ?_
    intro _ publishindId same
    cases same; rfl
  | put timestamp => exact holds.putUnconfirmed stepped
  | basicPublish outcome =>
    simp only [keepsTrack, decide_eq_true_eq] at keeps
    subst keeps
    exact holds.published stepped
  | confirm frame => exact holds.handleAckNack stepped
  | latencies => exact holds.processLatencies stepped
  | clear => exact holds.clearConfirmed stepped
  | release => exact holds.releaseConfirms stepped
  | shutdown =>
    simp only [ProducerState.step, ProducerState.shutdown] at stepped
    split at stepped <;> cases stepped
    exact holds.frame rfl rfl rfl rfl rfl rfl
  | recoveryStarted =>
    cases stepped
    exact holds.frame rfl rfl rfl rfl rfl rfl
  | reconnect => exact holds.reconnect keeps stepped
  | handleRecovery =>
    simp only [ProducerState.step, ProducerState.handleRecovery] at stepped
    split at stepped <;> cases stepped
    exact holds.frame rfl rfl rfl rfl rfl rfl
  | recover =>
    obtain ⟨_, rfl⟩ := ProducerState.recover_cases stepped
    exact holds.frame rfl rfl rfl rfl rfl rfl
  | releaseUsedPermits =>
    obtain ⟨_, _, ⟨pool, _, _, rfl⟩ | ⟨_, rfl⟩⟩ := ProducerState.releaseUsedPermits_cases stepped
    · exact holds.frame rfl rfl rfl rfl rfl rfl
    · exact holds.frame rfl rfl rfl rfl rfl rfl
  | recoveryDone =>
    simp only [ProducerState.step, ProducerState.recoveryDone] at stepped
    split at stepped <;> cases stepped
    exact holds.frame rfl rfl rfl rfl rfl rfl

theorem tracked_run {events : List ProducerEvent}
    (holds : Tracked state) (executed : run (restrict keepsTrack ProducerState.step) state events = some next) :
    Tracked next := by
  refine run_invariant Tracked ?_ holds executed
  intro current event after holds stepped
  obtain ⟨keeps, stepped⟩ := restrict_some.mp stepped
  exact holds.step keeps stepped

end PerfTestProof
