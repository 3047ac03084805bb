import PerfTest.Producer.Confirms

namespace PerfTestModel.ProducerState

open Systems

variable {state next : ProducerState}

theorem handlePublish_cases (stepped : state.handlePublish = some next) :
    state.publishStage = .idle ∧
      (next = state ∨ state.recoveryInProgress = false ∧ next = { state with publishStage := .entered }) := by
  unfold handlePublish at stepped
  split at stepped
  · rename_i stage
    refine ⟨stage, ?_⟩
    split at stepped
    · exact Or.inl (Option.some.inj stepped).symm
    · rename_i quiet
      exact Or.inr ⟨by simpa using quiet, (Option.some.inj stepped).symm⟩
  · cases stepped

theorem acquire_cases (stepped : state.maybeWaitIfTooManyOutstandingPublishConfirms = some next) :
    state.publishStage = .entered ∧ ∃ pool,
      pool.availablePermits + 1 = state.confirmPool.availablePermits ∧
      next = { state with confirmPool := pool, publishStage := .acquired state.era } := by
  unfold maybeWaitIfTooManyOutstandingPublishConfirms at stepped
  split at stepped
  · rename_i stage
    obtain ⟨pool, acquired, rfl⟩ := Option.map_eq_some_iff.mp stepped
    exact ⟨stage, pool, Java.Semaphore.tryAcquire_some.mp acquired, rfl⟩
  · cases stepped

theorem acquireTimeout_cases (stepped : state.acquireTimeout = some next) :
    state.publishStage = .entered ∧ next = { state with publishStage := .stopped } := by
  unfold acquireTimeout at stepped
  split at stepped
  · rename_i stage
    exact ⟨stage, (Option.some.inj stepped).symm⟩
  · cases stepped

theorem createFails_cases (stepped : state.createFails = some next) :
    ∃ era, state.publishStage = .acquired era ∧ next = { state with publishStage := .idle } := by
  unfold createFails at stepped
  split at stepped
  · rename_i era stage
    exact ⟨era, stage, (Option.some.inj stepped).symm⟩
  · cases stepped

theorem getNextPublishSeqNo_cases (stepped : state.getNextPublishSeqNo = some next) :
    ∃ era, state.publishStage = .acquired era ∧
      next = { state with publishStage := .numbered era state.nextPublishSeqNo } := by
  unfold getNextPublishSeqNo at stepped
  split at stepped
  · rename_i era stage
    exact ⟨era, stage, (Option.some.inj stepped).symm⟩
  · cases stepped

theorem putUnconfirmed_cases {timestamp : ℤ} (stepped : state.putUnconfirmed timestamp = some next) :
    ∃ era publishindId, state.publishStage = .numbered era publishindId ∧
      next = { state with
        unconfirmed := state.unconfirmed.put publishindId timestamp
        publishStage := .recorded era publishindId } := by
  unfold putUnconfirmed at stepped
  split at stepped
  · rename_i era publishindId stage
    exact ⟨era, publishindId, stage, (Option.some.inj stepped).symm⟩
  · cases stepped

theorem basicPublish_cases {outcome : PublishOutcome}
    (stepped : state.basicPublish outcome = some next) :
    ∃ era publishindId, state.publishStage = .recorded era publishindId ∧
      ((outcome = .accepted ∧ state.channelOpen = true ∧
          next = { state with
            unresolved := insert state.nextPublishSeqNo state.unresolved
            nextPublishSeqNo := state.nextPublishSeqNo + 1
            publishStage := .idle }) ∨
        ∃ numberTaken, outcome = .failed numberTaken ∧
          next = { state with
            nextPublishSeqNo := state.nextPublishSeqNo + (if numberTaken then 1 else 0)
            publishStage := .idle }) := by
  unfold basicPublish at stepped
  split at stepped
  · rename_i era publishindId stage
    split at stepped
    · rename_i isOpen
      exact ⟨era, publishindId, stage, Or.inl ⟨rfl, isOpen, (Option.some.inj stepped).symm⟩⟩
    · cases stepped
  · rename_i era publishindId numberTaken stage
    exact ⟨era, publishindId, stage, Or.inr ⟨numberTaken, rfl, (Option.some.inj stepped).symm⟩⟩
  · cases stepped

theorem handleAckNack_cases {frame : ConfirmFrame} (stepped : state.handleAckNack frame = some next) :
    state.callbackStage = .idle ∧ state.channelOpen = true ∧
      ((frame.multiple = true ∧ frame.seqNo < state.nextPublishSeqNo ∧
          next = { state with
            unresolved := state.unresolved.filter (frame.seqNo < ·)
            callbackStage := .counted frame (state.unresolved.filter (· ≤ frame.seqNo))
              (state.unconfirmed.headMap frame.seqNo).size }) ∨
        (frame.multiple = false ∧ frame.seqNo ∈ state.unresolved ∧
          ∃ call, next = { state with
            unresolved := state.unresolved.erase frame.seqNo
            processed := insert frame.seqNo state.processed
            unconfirmed := state.unconfirmed.remove frame.seqNo
            metrics := state.metrics ++ [call]
            callbackStage := .processed 1 }) ∨
        (frame.multiple = false ∧ frame.seqNo ∈ state.unresolved ∧ frame.nack = true ∧
          frame.seqNo ∉ state.unconfirmed.keys ∧
          next = { state with unresolved := state.unresolved.erase frame.seqNo })) := by
  unfold handleAckNack at stepped
  split at stepped
  · rename_i stage
    split at stepped
    · rename_i allowed
      obtain ⟨isOpen, conforms⟩ := allowed
      refine ⟨stage, isOpen, ?_⟩
      unfold conforming at conforms
      split at stepped
      · rename_i multiple
        simp only [multiple, if_true, decide_eq_true_eq] at conforms
        refine Or.inl ⟨multiple, conforms, ?_⟩
        have rest : state.unresolved \ state.coveredBy frame =
            state.unresolved.filter (frame.seqNo < ·) := by
          ext key
          simp only [coveredBy, multiple, if_true, Finset.mem_sdiff, Finset.mem_filter, not_and, not_le]
          tauto
        rw [← Option.some.inj stepped, rest]
        simp only [coveredBy, multiple, if_true]
      · rename_i single
        simp only [single] at conforms
        have alone : frame.multiple = false := by simpa using single
        have outstanding : frame.seqNo ∈ state.unresolved := by simpa using conforms
        have rest : state.unresolved \ state.coveredBy frame = state.unresolved.erase frame.seqNo := by
          simp only [coveredBy, single, if_false, Finset.sdiff_singleton_eq_erase, Bool.false_eq_true]
        have done : state.processed ∪ state.coveredBy frame = insert frame.seqNo state.processed := by
          simp only [coveredBy, single, if_false, Bool.false_eq_true]
          rw [Finset.union_comm, Finset.insert_eq]
        rw [rest, done] at stepped
        split at stepped
        · rename_i nacked unknown
          exact Or.inr (Or.inr ⟨alone, outstanding, nacked, SortedMap.get?_eq_none.mp unknown,
            (Option.some.inj stepped).symm⟩)
        · exact Or.inr (Or.inl ⟨alone, outstanding, _, (Option.some.inj stepped).symm⟩)
    · cases stepped
  · cases stepped

theorem processLatencies_cases (stepped : state.processLatencies = some next) :
    ∃ frame covered numConfirms, state.callbackStage = .counted frame covered numConfirms ∧
      ((∃ latencies, next = { state with
          callbackStage := .clearing frame covered numConfirms latencies 0 }) ∨
        numConfirms < (state.unconfirmed.headMap frame.seqNo).size ∧
          next = { state with callbackStage := .idle }) := by
  unfold processLatencies at stepped
  split at stepped
  · rename_i frame covered numConfirms stage
    refine ⟨frame, covered, numConfirms, stage, ?_⟩
    dsimp only at stepped
    split at stepped
    · exact Or.inl ⟨[], (Option.some.inj stepped).symm⟩
    · split at stepped
      · exact Or.inl ⟨_, (Option.some.inj stepped).symm⟩
      · rename_i overflow
        rw [SortedMap.values_length, not_le] at overflow
        exact Or.inr ⟨overflow, (Option.some.inj stepped).symm⟩
  · cases stepped

theorem clearConfirmed_cases (stepped : state.clearConfirmed = some next) :
    ∃ frame covered numConfirms latencies removed,
      state.callbackStage = .clearing frame covered numConfirms latencies removed ∧
      ((∃ key ∈ (state.unconfirmed.headMap frame.seqNo).keys, next = { state with
          unconfirmed := state.unconfirmed.remove key
          callbackStage := .clearing frame covered numConfirms latencies (removed + 1) }) ∨
        (state.unconfirmed.headMap frame.seqNo).keys = ∅ ∧ ∃ call, next = { state with
          processed := state.processed ∪ covered
          metrics := state.metrics ++ [call]
          callbackStage := .processed numConfirms }) := by
  unfold clearConfirmed at stepped
  split at stepped
  · rename_i frame covered numConfirms latencies removed stage
    refine ⟨frame, covered, numConfirms, latencies, removed, stage, ?_⟩
    split at stepped
    · rename_i key first
      exact Or.inl ⟨key, SortedMap.firstKey?_some first, (Option.some.inj stepped).symm⟩
    · rename_i first
      exact Or.inr ⟨SortedMap.firstKey?_none.mp first, _, (Option.some.inj stepped).symm⟩
  · cases stepped

theorem releaseConfirms_cases (stepped : state.releaseConfirms = some next) :
    ∃ numConfirms pool, state.callbackStage = .processed numConfirms ∧
      pool.availablePermits = state.confirmPool.availablePermits + numConfirms ∧
      next = { state with confirmPool := pool, callbackStage := .idle } := by
  unfold releaseConfirms at stepped
  split at stepped
  · rename_i numConfirms stage
    obtain ⟨pool, released, rfl⟩ := Option.map_eq_some_iff.mp stepped
    have sum := (Java.Semaphore.release_some.mp released).2
    exact ⟨numConfirms, pool, stage, by omega, rfl⟩
  · cases stepped

theorem reconnect_cases (stepped : state.reconnect = some next) :
    state.channelOpen = false ∧ state.callbackStage = .idle ∧
      next = { state with
        channelOpen := true
        nextPublishSeqNo := 1
        unresolved := ∅
        processed := ∅
        recoveriesDue := state.recoveriesDue + 1 } := by
  unfold reconnect at stepped
  split at stepped
  · rename_i lost
    exact ⟨by simpa using lost.1, lost.2, (Option.some.inj stepped).symm⟩
  · cases stepped

theorem recover_cases (stepped : state.recover = some next) :
    state.handlerStage = .started ∧
      next = { state with
        era := state.era + 1
        handlerStage := .resetting
          (state.maxOutstandingConfirms - state.confirmPool.availablePermits) } := by
  unfold recover at stepped
  split at stepped
  · rename_i stage
    exact ⟨stage, (Option.some.inj stepped).symm⟩
  · cases stepped

theorem releaseUsedPermits_cases (stepped : state.releaseUsedPermits = some next) :
    ∃ usedPermits, state.handlerStage = .resetting usedPermits ∧
      ((∃ pool : Java.Semaphore, 0 ≤ usedPermits ∧
          (pool.availablePermits : ℤ) = state.confirmPool.availablePermits + usedPermits ∧
          next = { state with confirmPool := pool, handlerStage := .reset }) ∨
        usedPermits < 0 ∧ next = { state with handlerStage := .idle }) := by
  unfold releaseUsedPermits at stepped
  split at stepped
  · rename_i usedPermits stage
    refine ⟨usedPermits, stage, ?_⟩
    split at stepped
    · rename_i pool released
      obtain ⟨positive, sum⟩ := Java.Semaphore.release_some.mp released
      exact Or.inl ⟨pool, positive, sum, (Option.some.inj stepped).symm⟩
    · rename_i refused
      unfold Java.Semaphore.release at refused
      split at refused
      · rename_i negative
        exact Or.inr ⟨negative, (Option.some.inj stepped).symm⟩
      · cases refused
  · cases stepped

end PerfTestModel.ProducerState
