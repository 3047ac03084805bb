import PerfTest.Producer.Tracking

namespace PerfTestProof

open Systems PerfTestModel

def heldEra : PublishStage → Option ℕ
  | .acquired era => some era
  | .numbered era _ => some era
  | .recorded era _ => some era
  | _ => none

def publishNo : PublishStage → Option ℕ
  | .numbered _ publishindId => some publishindId
  | .recorded _ publishindId => some publishindId
  | _ => none

def freshHeld (stage : PublishStage) (era : ℕ) : ℕ := if heldEra stage = some era then 1 else 0

def usedPermits : HandlerStage → ℤ
  | .resetting used => used
  | _ => 0

def beyondSweep (callback : CallbackStage) (key : ℕ) : Bool :=
  (sweepEnd callback).all fun bound => bound < key

def owed (callback : CallbackStage) (unresolved keys : Finset ℕ) (number : ℕ) : Finset ℕ :=
  (unresolved ∪ keys.filter (· < number)).filter fun key => beyondSweep callback key = true

def openOwed (isOpen : Bool) (numbers : Finset ℕ) : ℕ := if isOpen then numbers.card else 0

structure Window (state : ProducerState) : Prop where
  outstanding : state.unresolved.card ≤ state.maxOutstandingConfirms
  credits : ((state.confirmPool.availablePermits + freshHeld state.publishStage state.era +
      toRelease state.callbackStage + openOwed state.channelOpen (owed state.callbackStage state.unresolved
        state.unconfirmed.keys state.nextPublishSeqNo) : ℕ) : ℤ) +
    usedPermits state.handlerStage ≤ state.maxOutstandingConfirms
  used : 0 ≤ usedPermits state.handlerStage
  positive : 0 < state.nextPublishSeqNo
  numbered : ∀ publishindId, publishNo state.publishStage = some publishindId →
    state.nextPublishSeqNo ≤ publishindId
  eras : ∀ era, heldEra state.publishStage = some era → era ≤ state.era
  keys : ∀ key ∈ state.unconfirmed.keys, 0 < key
  below : ∀ key ∈ state.unresolved, 0 < key ∧ key < state.nextPublishSeqNo
  swept : ∀ bound, sweepEnd state.callbackStage = some bound →
    bound < state.nextPublishSeqNo ∧ (∀ key ∈ state.unresolved, bound < key) ∧
      (state.unconfirmed.headMap bound).size + removedNotReleased state.callbackStage =
        toRelease state.callbackStage

/-- No permit outlives a reset of the pool: the pool is reset before anything is published on the
    new channel, and what is published there is published with a permit acquired since. -/
def permitsCurrent (state : ProducerState) : ProducerEvent → Bool
  | .recover => decide (state.callbackStage = .idle) &&
      (!state.channelOpen || state.nextPublishSeqNo == 1)
  | .basicPublish _ => !state.channelOpen || heldEra state.publishStage == some state.era
  | _ => true

theorem mem_owed {callback : CallbackStage} {unresolved keys : Finset ℕ} {number key : ℕ} :
    key ∈ owed callback unresolved keys number ↔
      (key ∈ unresolved ∨ key ∈ keys ∧ key < number) ∧
        ∀ bound, sweepEnd callback = some bound → bound < key := by
  unfold owed beyondSweep
  simp only [Finset.mem_filter, Finset.mem_union]
  cases sweepEnd callback <;> simp

theorem owed_empty {callback : CallbackStage} {unresolved keys : Finset ℕ}
    (positive : ∀ key ∈ keys, 0 < key) (below : ∀ key ∈ unresolved, 0 < key ∧ key < 1) :
    owed callback unresolved keys 1 = ∅ := by
  refine Finset.eq_empty_of_forall_notMem fun key member => ?_
  rcases (mem_owed.mp member).1 with isUnresolved | ⟨isKey, before⟩
  · have := below key isUnresolved
    omega
  · have := positive key isKey
    omega

/-- Taking the next number of the channel adds at most that number to what can be released. -/
theorem owed_publish (callback : CallbackStage) (keys : Finset ℕ) {published unresolved : Finset ℕ}
    {number later : ℕ} (grown : published ⊆ insert number unresolved) (bound : later ≤ number + 1) :
    owed callback published keys later ⊆ insert number (owed callback unresolved keys number) := by
  intro key member
  obtain ⟨source, above⟩ := mem_owed.mp member
  by_cases same : key = number
  · exact Finset.mem_insert.mpr (Or.inl same)
  · refine Finset.mem_insert_of_mem (mem_owed.mpr ⟨?_, above⟩)
    rcases source with isPublished | ⟨isKey, before⟩
    · exact Or.inl (Finset.mem_of_mem_insert_of_ne (grown isPublished) same)
    · exact Or.inr ⟨isKey, by omega⟩

theorem owed_mono (callback : CallbackStage) (keys : Finset ℕ) (number : ℕ) {numbers others : Finset ℕ}
    (within : numbers ⊆ others) : owed callback numbers keys number ⊆ owed callback others keys number := by
  intro key member
  obtain ⟨source, above⟩ := mem_owed.mp member
  exact mem_owed.mpr ⟨source.imp_left fun listed => within listed, above⟩

theorem openOwed_le (isOpen : Bool) {numbers others : Finset ℕ} (within : numbers ⊆ others) :
    openOwed isOpen numbers ≤ openOwed isOpen others := by
  unfold openOwed
  split
  · exact Finset.card_le_card within
  · exact Nat.le_refl 0

theorem openOwed_insert (isOpen : Bool) {numbers others : Finset ℕ} {key : ℕ}
    (within : numbers ⊆ insert key others) :
    openOwed isOpen numbers ≤ openOwed isOpen others + (if isOpen then 1 else 0) := by
  unfold openOwed
  split
  · exact (Finset.card_le_card within).trans (Finset.card_insert_le _ _)
  · exact Nat.zero_le _

theorem window_initial (maxOutstandingConfirms : ℕ) :
    Window (ProducerState.initial maxOutstandingConfirms) := by
  constructor <;>
    simp [ProducerState.initial, sweepEnd, heldEra, publishNo, freshHeld, toRelease, usedPermits, openOwed,
      owed]

variable {state next : ProducerState}

theorem Window.unresolved_owed (holds : Window state) :
    state.unresolved ⊆ owed state.callbackStage state.unresolved state.unconfirmed.keys
      state.nextPublishSeqNo := by
  intro key member
  exact mem_owed.mpr ⟨Or.inl member, fun bound sweep => (holds.swept bound sweep).2.1 key member⟩

/-- While the channel is open, what is outstanding and what can be published fits the window. -/
theorem Window.room (holds : Window state) (isOpen : state.channelOpen = true) :
    state.unresolved.card + state.confirmPool.availablePermits +
      freshHeld state.publishStage state.era ≤ state.maxOutstandingConfirms := by
  have within := Finset.card_le_card holds.unresolved_owed
  have credits := holds.credits
  have used := holds.used
  simp only [openOwed, isOpen, if_true] at credits
  omega

/-- Moves of the publishing thread that neither touch the map nor the channel. -/
theorem Window.restage (holds : Window state) (pool : Java.Semaphore) (stage : PublishStage)
    (paid : pool.availablePermits + freshHeld stage state.era ≤
      state.confirmPool.availablePermits + freshHeld state.publishStage state.era)
    (numbered : ∀ publishindId, publishNo stage = some publishindId →
      state.nextPublishSeqNo ≤ publishindId)
    (eras : ∀ era, heldEra stage = some era → era ≤ state.era) :
    Window { state with confirmPool := pool, publishStage := stage } := by
  refine ⟨holds.outstanding, ?_, holds.used, holds.positive, numbered, eras, holds.keys, holds.below,
    holds.swept⟩
  have credits := holds.credits
  dsimp only
  omega

theorem Window.putUnconfirmed {timestamp : ℤ} (holds : Window state)
    (stepped : state.putUnconfirmed timestamp = some next) : Window next := by
  obtain ⟨era, publishindId, stage, rfl⟩ := ProducerState.putUnconfirmed_cases stepped
  have later := holds.numbered publishindId (by rw [stage]; rfl)
  have credits := holds.credits
  rw [stage] at credits
  constructor
  · exact holds.outstanding
  · have same : owed state.callbackStage state.unresolved (insert publishindId state.unconfirmed.keys)
        state.nextPublishSeqNo =
        owed state.callbackStage state.unresolved state.unconfirmed.keys state.nextPublishSeqNo := by
      simp only [owed, Finset.filter_insert, if_neg (Nat.not_lt.mpr later)]
    simp only [SortedMap.keys_put, same]
    exact credits
  · exact holds.used
  · exact holds.positive
  · intro number recorded
    cases recorded
    exact later
  · intro other held
    exact holds.eras other (by rw [stage]; exact held)
  · intro key member
    simp only [SortedMap.keys_put, Finset.mem_insert] at member
    rcases member with rfl | member
    · exact lt_of_lt_of_le holds.positive later
    · exact holds.keys key member
  · exact holds.below
  · intro bound sweep
    obtain ⟨bounded, above, count⟩ := holds.swept bound sweep
    refine ⟨bounded, above, ?_⟩
    have head : ((state.unconfirmed.put publishindId timestamp).headMap bound).keys =
        (state.unconfirmed.headMap bound).keys := by
      simp only [SortedMap.keys_headMap, SortedMap.keys_put, Finset.filter_insert]
      rw [if_neg (by omega)]
    rw [SortedMap.size_eq_card, head, ← SortedMap.size_eq_card]
    exact count

theorem Window.basicPublish {outcome : PublishOutcome} (holds : Window state)
    (current : permitsCurrent state (.basicPublish outcome) = true)
    (stepped : state.basicPublish outcome = some next) : Window next := by
  obtain ⟨era, publishindId, stage, cases⟩ := ProducerState.basicPublish_cases stepped
  have spent : (if state.channelOpen then 1 else 0) ≤ freshHeld state.publishStage state.era := by
    split
    · rename_i isOpen
      simp only [permitsCurrent, isOpen, Bool.not_true, Bool.false_or, beq_iff_eq] at current
      simp only [freshHeld, current, if_true, Nat.le_refl]
    · exact Nat.zero_le _
  have credits := holds.credits
  rcases cases with ⟨_, isOpen, rfl⟩ | ⟨taken, _, rfl⟩
  · have grown := openOwed_insert state.channelOpen (owed_publish state.callbackStage
      state.unconfirmed.keys (Finset.Subset.refl (insert state.nextPublishSeqNo state.unresolved)) (Nat.le_refl _))
    constructor
    · have room := holds.room isOpen
      have one := Finset.card_insert_le state.nextPublishSeqNo state.unresolved
      simp only [isOpen, if_true] at spent
      dsimp only
      omega
    · simp only [freshHeld, heldEra, reduceCtorEq, if_false]
      omega
    · exact holds.used
    · exact Nat.succ_pos _
    · intro number recorded; cases recorded
    · intro other held; cases held
    · exact holds.keys
    · intro key member
      rcases Finset.mem_insert.mp member with rfl | member
      · exact ⟨holds.positive, Nat.lt_succ_self _⟩
      · exact ⟨(holds.below key member).1, Nat.lt_succ_of_lt (holds.below key member).2⟩
    · intro bound sweep
      obtain ⟨bounded, above, count⟩ := holds.swept bound sweep
      refine ⟨Nat.lt_succ_of_lt bounded, ?_, count⟩
      intro key member
      rcases Finset.mem_insert.mp member with rfl | member
      · exact bounded
      · exact above key member
  · have growth : state.nextPublishSeqNo + (if taken then 1 else 0) ≤ state.nextPublishSeqNo + 1 := by
      split <;> omega
    have grown := openOwed_insert state.channelOpen (owed_publish state.callbackStage
      state.unconfirmed.keys (Finset.subset_insert state.nextPublishSeqNo state.unresolved) growth)
    constructor
    · exact holds.outstanding
    · simp only [freshHeld, heldEra, reduceCtorEq, if_false]
      omega
    · exact holds.used
    · exact Nat.lt_of_lt_of_le holds.positive (Nat.le_add_right _ _)
    · intro number recorded; cases recorded
    · intro other held; cases held
    · exact holds.keys
    · intro key member
      exact ⟨(holds.below key member).1,
        Nat.lt_of_lt_of_le (holds.below key member).2 (Nat.le_add_right _ _)⟩
    · intro bound sweep
      obtain ⟨bounded, above, count⟩ := holds.swept bound sweep
      exact ⟨Nat.lt_of_lt_of_le bounded (Nat.le_add_right _ _), above, count⟩

theorem Window.multipleConfirmed {frame : ConfirmFrame} (holds : Window state) (idle : state.callbackStage = .idle)
    (isOpen : state.channelOpen = true) (bounded : frame.seqNo < state.nextPublishSeqNo) :
    Window { state with
      unresolved := state.unresolved.filter (frame.seqNo < ·)
      callbackStage := .counted frame (state.unresolved.filter (· ≤ frame.seqNo))
        (state.unconfirmed.headMap frame.seqNo).size } := by
  have noSweep : ∀ key bound, sweepEnd state.callbackStage = some bound → bound < key := by
    intro key bound sweep
    rw [idle] at sweep; cases sweep
  have credits := holds.credits
  simp only [openOwed, isOpen, if_true] at credits
  have nothing : toRelease state.callbackStage = 0 := by rw [idle]; rfl
  set before := owed state.callbackStage state.unresolved state.unconfirmed.keys
    state.nextPublishSeqNo
  constructor
  · exact (Finset.card_filter_le _ _).trans holds.outstanding
  · -- What the frame covers leaves the owed numbers, and the counted entries are among it.
    have split : (before.filter (· ≤ frame.seqNo)).card +
        (before.filter fun key => ¬ key ≤ frame.seqNo).card = before.card :=
      Finset.card_filter_add_card_filter_not _
    have counted : (state.unconfirmed.headMap frame.seqNo).size ≤
        (before.filter (· ≤ frame.seqNo)).card := by
      rw [SortedMap.size_eq_card, SortedMap.keys_headMap]
      refine Finset.card_le_card fun key member => ?_
      obtain ⟨isKey, within⟩ := Finset.mem_filter.mp member
      exact Finset.mem_filter.mpr
        ⟨mem_owed.mpr ⟨Or.inr ⟨isKey, by omega⟩, noSweep key⟩, within⟩
    have left : (owed (.counted frame (state.unresolved.filter (· ≤ frame.seqNo))
          (state.unconfirmed.headMap frame.seqNo).size) (state.unresolved.filter (frame.seqNo < ·))
        state.unconfirmed.keys state.nextPublishSeqNo).card ≤
        (before.filter fun key => ¬ key ≤ frame.seqNo).card := by
      refine Finset.card_le_card fun key member => ?_
      obtain ⟨source, above⟩ := mem_owed.mp member
      refine Finset.mem_filter.mpr ⟨mem_owed.mpr ⟨?_, noSweep key⟩, Nat.not_le.mpr (above _ rfl)⟩
      exact source.imp (fun member => (Finset.mem_filter.mp member).1) id
    simp only [openOwed, isOpen, if_true, toRelease]
    omega
  · exact holds.used
  · exact holds.positive
  · exact holds.numbered
  · exact holds.eras
  · exact holds.keys
  · intro key member
    exact holds.below key (Finset.mem_filter.mp member).1
  · intro bound sweep
    cases sweep
    refine ⟨bounded, ?_, by simp [removedNotReleased, toRelease]⟩
    intro key member
    exact (Finset.mem_filter.mp member).2

theorem Window.singleConfirmed {frame : ConfirmFrame} (holds : Window state) (idle : state.callbackStage = .idle)
    (isOpen : state.channelOpen = true) (outstanding : frame.seqNo ∈ state.unresolved) (metrics : List MetricsCall) :
    Window { state with
      unresolved := state.unresolved.erase frame.seqNo
      processed := insert frame.seqNo state.processed
      unconfirmed := state.unconfirmed.remove frame.seqNo
      metrics := metrics
      callbackStage := .processed 1 } := by
  have noSweep : ∀ key bound, sweepEnd state.callbackStage = some bound → bound < key := by
    intro key bound sweep
    rw [idle] at sweep; cases sweep
  have credits := holds.credits
  simp only [openOwed, isOpen, if_true] at credits
  have nothing : toRelease state.callbackStage = 0 := by rw [idle]; rfl
  set before := owed state.callbackStage state.unresolved state.unconfirmed.keys
    state.nextPublishSeqNo
  constructor
  · exact (Finset.card_erase_le).trans holds.outstanding
  · have present : frame.seqNo ∈ before := holds.unresolved_owed outstanding
    have one := Finset.card_erase_add_one present
    have left : (owed (.processed 1) (state.unresolved.erase frame.seqNo)
        (state.unconfirmed.keys.erase frame.seqNo) state.nextPublishSeqNo).card ≤
        (before.erase frame.seqNo).card := by
      refine Finset.card_le_card fun key member => ?_
      obtain ⟨source, _⟩ := mem_owed.mp member
      simp only [Finset.mem_erase] at source
      refine Finset.mem_erase.mpr ⟨?_, mem_owed.mpr ⟨?_, noSweep key⟩⟩
      · rcases source with source | source
        · exact source.1
        · exact source.1.1
      · exact source.imp (·.2) fun both => ⟨both.1.2, both.2⟩
    simp only [openOwed, isOpen, if_true, toRelease, SortedMap.keys_remove]
    omega
  · exact holds.used
  · exact holds.positive
  · exact holds.numbered
  · exact holds.eras
  · intro key member
    simp only [SortedMap.keys_remove, Finset.mem_erase] at member
    exact holds.keys key member.2
  · intro key member
    exact holds.below key (Finset.mem_erase.mp member).2
  · intro bound sweep; cases sweep

/-- The broker resolves a number without anything being released for it. -/
theorem Window.resolved (holds : Window state) (seqNo : ℕ) :
    Window { state with unresolved := state.unresolved.erase seqNo } := by
  have fewer := openOwed_le state.channelOpen (owed_mono state.callbackStage state.unconfirmed.keys
    state.nextPublishSeqNo (Finset.erase_subset seqNo state.unresolved))
  refine ⟨Finset.card_erase_le.trans holds.outstanding, ?_, holds.used, holds.positive, holds.numbered,
    holds.eras, holds.keys, fun key member => holds.below key (Finset.mem_of_mem_erase member), ?_⟩
  · have credits := holds.credits
    dsimp only
    omega
  · intro bound sweep
    obtain ⟨bounded, above, count⟩ := holds.swept bound sweep
    exact ⟨bounded, fun key member => above key (Finset.mem_of_mem_erase member), count⟩

theorem Window.handleAckNack {frame : ConfirmFrame} (holds : Window state)
    (stepped : state.handleAckNack frame = some next) : Window next := by
  obtain ⟨idle, isOpen, ⟨_, bounded, rfl⟩ | ⟨_, outstanding, _, rfl⟩ | ⟨_, _, _, _, rfl⟩⟩ :=
    ProducerState.handleAckNack_cases stepped
  · exact holds.multipleConfirmed idle isOpen bounded
  · exact holds.singleConfirmed idle isOpen outstanding _
  · exact holds.resolved frame.seqNo

theorem Window.processLatencies (holds : Window state)
    (stepped : state.processLatencies = some next) : Window next := by
  obtain ⟨frame, covered, numConfirms, stage, cases⟩ := ProducerState.processLatencies_cases stepped
  have atSweep := holds.swept frame.seqNo (by rw [stage]; rfl)
  have credits := holds.credits
  rw [stage] at atSweep credits
  rcases cases with ⟨latencies, rfl⟩ | ⟨overflow, _⟩
  · refine ⟨holds.outstanding, credits, holds.used, holds.positive, holds.numbered, holds.eras,
      holds.keys, holds.below, ?_⟩
    intro bound sweep
    cases sweep
    exact atSweep
  · have count := atSweep.2.2
    simp only [removedNotReleased, toRelease] at count
    omega

theorem Window.clearConfirmed (holds : Window state)
    (stepped : state.clearConfirmed = some next) : Window next := by
  obtain ⟨frame, covered, numConfirms, latencies, removed, stage, cases⟩ :=
    ProducerState.clearConfirmed_cases stepped
  have sweep : sweepEnd state.callbackStage = some frame.seqNo := by rw [stage]; rfl
  obtain ⟨bounded, above, count⟩ := holds.swept frame.seqNo sweep
  have credits := holds.credits
  rw [stage] at count credits
  rcases cases with ⟨key, first, rfl⟩ | ⟨emptied, call, rfl⟩
  · have left : owed (.clearing frame covered numConfirms latencies (removed + 1)) state.unresolved
        (state.unconfirmed.keys.erase key) state.nextPublishSeqNo ⊆
        owed (.clearing frame covered numConfirms latencies removed) state.unresolved
          state.unconfirmed.keys state.nextPublishSeqNo := by
      intro other member
      obtain ⟨source, after⟩ := mem_owed.mp member
      exact mem_owed.mpr
        ⟨source.imp id fun both => ⟨(Finset.mem_erase.mp both.1).2, both.2⟩, after⟩
    refine ⟨holds.outstanding, ?_, holds.used, holds.positive, holds.numbered, holds.eras, ?_,
      holds.below, ?_⟩
    · have fewer := openOwed_le state.channelOpen left
      simp only [SortedMap.keys_remove, toRelease] at credits ⊢
      omega
    · intro other member
      simp only [SortedMap.keys_remove, Finset.mem_erase] at member
      exact holds.keys other member.2
    · intro bound same
      cases same
      refine ⟨bounded, above, ?_⟩
      simp only [SortedMap.keys_headMap] at first
      have removedOne := Finset.card_erase_add_one first
      simp only [SortedMap.size_eq_card, SortedMap.keys_headMap, SortedMap.keys_remove,
        Finset.filter_erase, removedNotReleased, toRelease] at count ⊢
      omega
  · rw [SortedMap.keys_headMap, Finset.filter_eq_empty_iff] at emptied
    have left : owed (.processed numConfirms) state.unresolved state.unconfirmed.keys
        state.nextPublishSeqNo ⊆
        owed (.clearing frame covered numConfirms latencies removed) state.unresolved
          state.unconfirmed.keys state.nextPublishSeqNo := by
      intro key member
      obtain ⟨source, _⟩ := mem_owed.mp member
      refine mem_owed.mpr ⟨source, ?_⟩
      intro bound same
      cases same
      rcases source with isUnresolved | ⟨isKey, _⟩
      · exact above key isUnresolved
      · exact Nat.not_le.mp (emptied isKey)
    refine ⟨holds.outstanding, ?_, holds.used, holds.positive, holds.numbered, holds.eras, holds.keys,
      holds.below, ?_⟩
    · have fewer := openOwed_le state.channelOpen left
      simp only [toRelease] at credits ⊢
      omega
    · intro bound same; cases same

theorem Window.releaseConfirms (holds : Window state)
    (stepped : state.releaseConfirms = some next) : Window next := by
  obtain ⟨numConfirms, pool, stage, received, rfl⟩ := ProducerState.releaseConfirms_cases stepped
  refine ⟨holds.outstanding, ?_, holds.used, holds.positive, holds.numbered, holds.eras, holds.keys,
    holds.below, ?_⟩
  · have credits := holds.credits
    have same : owed (.processed numConfirms) state.unresolved state.unconfirmed.keys
        state.nextPublishSeqNo =
        owed .idle state.unresolved state.unconfirmed.keys state.nextPublishSeqNo := rfl
    rw [stage, same] at credits
    simp only [toRelease] at credits ⊢
    omega
  · intro bound sweep; cases sweep

theorem Window.reconnect (holds : Window state)
    (stepped : state.reconnect = some next) : Window next := by
  obtain ⟨closed, idle, rfl⟩ := ProducerState.reconnect_cases stepped
  constructor
  · simp
  · have credits := holds.credits
    rw [owed_empty holds.keys (by simp)]
    simp only [openOwed, Finset.card_empty, ite_self]
    omega
  · exact holds.used
  · exact Nat.one_pos
  · intro publishindId number
    have := holds.numbered publishindId number
    have := holds.positive
    dsimp only
    omega
  · exact holds.eras
  · exact holds.keys
  · simp
  · intro bound sweep
    simp only [idle, sweepEnd] at sweep
    cases sweep

theorem Window.recover (holds : Window state) (current : permitsCurrent state .recover = true)
    (stepped : state.recover = some next) : Window next := by
  obtain ⟨_, rfl⟩ := ProducerState.recover_cases stepped
  simp only [permitsCurrent, Bool.and_eq_true, decide_eq_true_eq, Bool.or_eq_true,
    Bool.not_eq_true', beq_iff_eq] at current
  obtain ⟨idle, unused⟩ := current
  have credits := holds.credits
  have used := holds.used
  have stale : freshHeld state.publishStage (state.era + 1) = 0 := by
    refine if_neg fun held => ?_
    have := holds.eras _ held
    omega
  have nothing : openOwed state.channelOpen (owed state.callbackStage state.unresolved
      state.unconfirmed.keys state.nextPublishSeqNo) = 0 := by
    rcases unused with closed | first
    · rw [closed]; rfl
    · have below := holds.below
      rw [first] at below ⊢
      rw [owed_empty holds.keys below]
      simp [openOwed]
  refine ⟨holds.outstanding, ?_, ?_, holds.positive, holds.numbered, ?_, holds.keys, holds.below,
    holds.swept⟩
  · dsimp only
    rw [stale, nothing, idle]
    simp only [toRelease, usedPermits]
    omega
  · dsimp only [usedPermits]
    omega
  · intro era held
    exact Nat.le_succ_of_le (holds.eras era held)

theorem Window.releaseUsedPermits (holds : Window state)
    (stepped : state.releaseUsedPermits = some next) : Window next := by
  obtain ⟨used, stage, cases⟩ := ProducerState.releaseUsedPermits_cases stepped
  have credits := holds.credits
  have positive := holds.used
  rw [stage] at credits positive
  rcases cases with ⟨pool, _, received, rfl⟩ | ⟨negative, _⟩
  · refine ⟨holds.outstanding, ?_, Int.le_refl 0, holds.positive, holds.numbered, holds.eras,
      holds.keys, holds.below, holds.swept⟩
    simp only [usedPermits] at credits ⊢
    omega
  · simp only [usedPermits] at positive
    omega

theorem Window.frame (holds : Window state) (isOpen : Bool) (recovering : Bool) (handler : HandlerStage)
    (due : ℕ) (closing : isOpen = state.channelOpen ∨ isOpen = false)
    (unused : usedPermits handler = usedPermits state.handlerStage) :
    Window { state with
      channelOpen := isOpen, recoveryInProgress := recovering, handlerStage := handler
      recoveriesDue := due } := by
  refine ⟨holds.outstanding, ?_, ?_, holds.positive, holds.numbered, holds.eras, holds.keys,
    holds.below, holds.swept⟩
  · have credits := holds.credits
    rcases closing with rfl | rfl
    · dsimp only
      omega
    · simp only [openOwed, Bool.false_eq_true, if_false]
      omega
  · dsimp only
    rw [unused]
    exact holds.used

theorem Window.step {event : ProducerEvent} (holds : Window state)
    (current : permitsCurrent state event = true) (stepped : state.step event = some next) :
    Window next := by
  cases event with
  | handlePublish =>
    obtain ⟨stage, rfl | ⟨_, rfl⟩⟩ := ProducerState.handlePublish_cases stepped
    · exact holds
    · exact holds.restage _ _ (by simp [freshHeld, heldEra]) (by simp [publishNo]) (by simp [heldEra])
  | acquire =>
    obtain ⟨stage, pool, paid, rfl⟩ := ProducerState.acquire_cases stepped
    refine holds.restage _ _ ?_ (by simp [publishNo]) (by simp [heldEra])
    simp only [freshHeld, heldEra, if_true]
    omega
  | acquireTimeout =>
    obtain ⟨stage, rfl⟩ := ProducerState.acquireTimeout_cases stepped
    exact holds.restage _ _ (by simp [freshHeld, heldEra]) (by simp [publishNo]) (by simp [heldEra])
  | createFails =>
    obtain ⟨era, stage, rfl⟩ := ProducerState.createFails_cases stepped
    exact holds.restage _ _ (by simp [freshHeld, heldEra]) (by simp [publishNo]) (by simp [heldEra])
  | getNextPublishSeqNo =>
    obtain ⟨era, stage, rfl⟩ := ProducerState.getNextPublishSeqNo_cases stepped
    refine holds.restage _ _ (by simp [freshHeld, heldEra, stage]) (by simp [publishNo]) ?_
    intro other held
    exact holds.eras other (by rw [stage]; exact held)
  | put timestamp => exact holds.putUnconfirmed stepped
  | basicPublish outcome => exact holds.basicPublish current stepped
  | confirm frame => exact holds.handleAckNack stepped
  | latencies => exact holds.processLatencies stepped
  | clear => exact holds.clearConfirmed stepped
  | release => exact holds.releaseConfirms stepped
  | shutdown =>
    simp only [ProducerState.step, ProducerState.shutdown] at stepped
    split at stepped <;> cases stepped
    exact holds.frame false true _ _ (Or.inr rfl) rfl
  | recoveryStarted =>
    cases stepped
    exact holds.frame _ true _ _ (Or.inl rfl) rfl
  | reconnect => exact holds.reconnect stepped
  | handleRecovery =>
    simp only [ProducerState.step, ProducerState.handleRecovery] at stepped
    split at stepped
    · rename_i allowed
      cases stepped
      exact holds.frame _ _ .started _ (Or.inl rfl) (by rw [allowed.1]; rfl)
    · cases stepped
  | recover => exact holds.recover current stepped
  | releaseUsedPermits => exact holds.releaseUsedPermits stepped
  | recoveryDone =>
    simp only [ProducerState.step, ProducerState.recoveryDone] at stepped
    split at stepped
    · rename_i stage
      cases stepped
      exact holds.frame _ false .idle _ (Or.inl rfl) (by rw [stage]; rfl)
    · cases stepped

theorem step_maxOutstandingConfirms {event : ProducerEvent} (stepped : state.step event = some next) :
    next.maxOutstandingConfirms = state.maxOutstandingConfirms := by
  cases event with
  | handlePublish =>
    obtain ⟨_, rfl | ⟨_, rfl⟩⟩ := ProducerState.handlePublish_cases stepped <;> rfl
  | acquire => obtain ⟨_, _, _, rfl⟩ := ProducerState.acquire_cases stepped; rfl
  | acquireTimeout => obtain ⟨_, rfl⟩ := ProducerState.acquireTimeout_cases stepped; rfl
  | createFails => obtain ⟨_, _, rfl⟩ := ProducerState.createFails_cases stepped; rfl
  | getNextPublishSeqNo => obtain ⟨_, _, rfl⟩ := ProducerState.getNextPublishSeqNo_cases stepped; rfl
  | put timestamp => obtain ⟨_, _, _, rfl⟩ := ProducerState.putUnconfirmed_cases stepped; rfl
  | basicPublish outcome =>
    obtain ⟨_, _, _, ⟨_, _, rfl⟩ | ⟨_, _, rfl⟩⟩ := ProducerState.basicPublish_cases stepped <;> rfl
  | confirm frame =>
    obtain ⟨_, _, ⟨_, _, rfl⟩ | ⟨_, _, _, rfl⟩ | ⟨_, _, _, _, rfl⟩⟩ :=
      ProducerState.handleAckNack_cases stepped <;> rfl
  | latencies =>
    obtain ⟨_, _, _, _, ⟨_, rfl⟩ | ⟨_, rfl⟩⟩ := ProducerState.processLatencies_cases stepped <;> rfl
  | clear =>
    obtain ⟨_, _, _, _, _, _, ⟨_, _, rfl⟩ | ⟨_, _, rfl⟩⟩ :=
      ProducerState.clearConfirmed_cases stepped <;> rfl
  | release => obtain ⟨_, _, _, _, rfl⟩ := ProducerState.releaseConfirms_cases stepped; rfl
  | shutdown =>
    simp only [ProducerState.step, ProducerState.shutdown] at stepped
    split at stepped <;> cases stepped
    rfl
  | recoveryStarted => cases stepped; rfl
  | reconnect => obtain ⟨_, _, rfl⟩ := ProducerState.reconnect_cases stepped; rfl
  | handleRecovery =>
    simp only [ProducerState.step, ProducerState.handleRecovery] at stepped
    split at stepped <;> cases stepped
    rfl
  | recover => obtain ⟨_, rfl⟩ := ProducerState.recover_cases stepped; rfl
  | releaseUsedPermits =>
    obtain ⟨_, _, ⟨_, _, _, rfl⟩ | ⟨_, rfl⟩⟩ := ProducerState.releaseUsedPermits_cases stepped <;> rfl
  | recoveryDone =>
    simp only [ProducerState.step, ProducerState.recoveryDone] at stepped
    split at stepped <;> cases stepped
    rfl

/-- The confirm window across recoveries, in the runs in which no permit outlives a reset. -/
theorem confirm_window (maxOutstandingConfirms : ℕ) {events : List ProducerEvent}
    {final : ProducerState}
    (executed : run (restrict permitsCurrent ProducerState.step)
      (ProducerState.initial maxOutstandingConfirms) events = some final) :
    final.confirmPool.availablePermits ≤ maxOutstandingConfirms ∧
      final.unresolved.card ≤ maxOutstandingConfirms := by
  have preserved : ∀ current event after,
      Window current ∧ current.maxOutstandingConfirms = maxOutstandingConfirms →
      restrict permitsCurrent ProducerState.step current event = some after →
      Window after ∧ after.maxOutstandingConfirms = maxOutstandingConfirms := by
    intro current event after ⟨holds, same⟩ stepped
    obtain ⟨meets, stepped⟩ := restrict_some.mp stepped
    exact ⟨holds.step meets stepped, (step_maxOutstandingConfirms stepped).trans same⟩
  obtain ⟨holds, same⟩ := run_invariant _ preserved ⟨window_initial maxOutstandingConfirms, rfl⟩ executed
  have credits := holds.credits
  have used := holds.used
  have outstanding := holds.outstanding
  rw [same] at credits outstanding
  exact ⟨by omega, outstanding⟩

def publishAcrossRecovery : List ProducerEvent :=
  [.handlePublish, .acquire, .getNextPublishSeqNo, .put 10, .basicPublish .accepted, .shutdown,
    .recoveryStarted, .handlePublish, .reconnect, .handleRecovery, .recover, .releaseUsedPermits,
    .recoveryDone, .handlePublish, .acquire, .getNextPublishSeqNo, .put 20, .basicPublish .accepted,
    .confirm ⟨1, true, false, 30⟩, .latencies, .clear, .clear, .release]

theorem confirm_window_recovered :
    ∃ final, run (restrict permitsCurrent ProducerState.step) (ProducerState.initial 1)
      publishAcrossRecovery = some final ∧ final.confirmPool.availablePermits ≤ 1 ∧
      final.unresolved.card ≤ 1 := by
  obtain ⟨final, executed⟩ : ∃ final, run (restrict permitsCurrent ProducerState.step)
      (ProducerState.initial 1) publishAcrossRecovery = some final :=
    Option.isSome_iff_exists.mp (by decide)
  exact ⟨final, executed, confirm_window 1 executed⟩

/-- The connection is lost and recovered between the acquisition of a permit and the publication
    it is for: the reset counts the permit as free, and the confirm of the message adds one more. -/
def permitHeldAcrossReset : List ProducerEvent :=
  [.handlePublish, .acquire, .shutdown, .recoveryStarted, .reconnect, .handleRecovery, .recover,
    .releaseUsedPermits, .recoveryDone, .getNextPublishSeqNo, .put 10, .basicPublish .accepted,
    .confirm ⟨1, false, false, 20⟩, .release]

theorem confirm_window_exceeded :
    ¬ ∀ (maxOutstandingConfirms : ℕ) (events : List ProducerEvent) (final : ProducerState),
      1 ≤ maxOutstandingConfirms →
      run ProducerState.step (ProducerState.initial maxOutstandingConfirms) events = some final →
      final.confirmPool.availablePermits ≤ maxOutstandingConfirms ∧
        final.unresolved.card ≤ maxOutstandingConfirms := by
  intro bounded
  have permits : (run ProducerState.step (ProducerState.initial 1) permitHeldAcrossReset).map
      (fun final => final.confirmPool.availablePermits) = some 2 := by decide
  obtain ⟨final, executed, two⟩ := Option.map_eq_some_iff.mp permits
  have within := (bounded 1 permitHeldAcrossReset final (Nat.le_refl 1) executed).1
  omega

end PerfTestProof
