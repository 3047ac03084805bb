import PerfTest.Consumer.DeliverySteps

namespace PerfTestModel

open Systems Settlements

def validateMultiAckEveryQos (multiAckEvery qos : ℤ) : Bool :=
  multiAckEvery == 0 || qos == 0 || multiAckEvery ≤ qos

structure PrefetchParameters where
  consumer : ConsumerParameters
  consumerPrefetch : ℤ
  channelPrefetch : ℤ
  deriving DecidableEq, Repr

inductive Incoming where
  | delivery (deliveryTag : ℕ) (consumerTag : String)
  | cancelled (consumerTag : String)
  deriving DecidableEq, Repr

namespace Incoming

def tag : Incoming → Option ℕ
  | .delivery deliveryTag _ => some deliveryTag
  | .cancelled _ => none

def isFor (consumerTag : String) : Incoming → Bool
  | .delivery _ other => other == consumerTag
  | .cancelled _ => false

def isDelivery : Incoming → Bool
  | .delivery .. => true
  | .cancelled _ => false

end Incoming

/-- The current channel of an asynchronous consumer: its live subscriptions, what is on its way, and the
    deliveries that the consumer has processed and not settled. The client library goes on counting
    delivery tags when the channel is a new one. -/
structure Subscribed where
  consumer : Consumer
  subscriptions : List String
  incoming : List Incoming
  unsettled : List (ℕ × String)
  lastTag : ℕ
  recovering : Bool
  deriving DecidableEq, Repr

inductive SubscribedEvent where
  | basicConsume (consumerTag : String)
  | deliver (consumerTag : String)
  | dispatch (nowTimestamp : ℤ)
  | cancel (consumerTag : String)
  | reconnect
  | recover
  deriving DecidableEq, Repr

def Consumer.resetEpoch (consumer : Consumer) : Consumer := { consumer with epochMessageCount := 0 }

def settleUnsettled (unsettled : List (ℕ × String)) : ConsumerAction → List (ℕ × String)
  | .basicAck _ deliveryTag multiple => unsettled.filter fun other => !isCovered deliveryTag multiple other.1
  | .basicNack _ deliveryTag multiple _ => unsettled.filter fun other => !isCovered deliveryTag multiple other.1
  | .delivered .. | .received .. | .txCommit _ | .countDown _ => unsettled

namespace Subscribed

def initial (queueNames : List String) : Subscribed := ⟨Consumer.start 1 queueNames, [], [], [], 0, false⟩

/-- A prefetch count that is not positive is not sent to the broker. -/
def withinPrefetch (prefetch : ℤ) (count : ℕ) : Bool := prefetch ≤ 0 || count < prefetch

def consumerCount (consumerTag : String) (state : Subscribed) : ℕ :=
  state.unsettled.countP (fun delivery => delivery.2 == consumerTag) +
    state.incoming.countP (Incoming.isFor consumerTag)

def channelCount (state : Subscribed) : ℕ := state.unsettled.length + state.incoming.countP Incoming.isDelivery

section

variable (parameters : PrefetchParameters)

def withinWindows (consumerTag : String) (state : Subscribed) : Bool :=
  withinPrefetch parameters.consumerPrefetch (state.consumerCount consumerTag) &&
    withinPrefetch parameters.channelPrefetch state.channelCount

def basicConsume (consumerTag : String) (state : Subscribed) : Option Subscribed :=
  if consumerTag ∈ state.subscriptions then none
  else some { state with subscriptions := state.subscriptions ++ [consumerTag] }

def deliver (consumerTag : String) (state : Subscribed) : Option Subscribed :=
  if consumerTag ∈ state.subscriptions ∧ state.withinWindows parameters consumerTag then
    some { state with
      incoming := state.incoming ++ [.delivery (state.lastTag + 1) consumerTag]
      lastTag := state.lastTag + 1 }
  else none

def handleDelivery (deliveryTag : ℕ) (consumerTag : String) (nowTimestamp : ℤ) (state : Subscribed) : Subscribed :=
  let consumer := state.consumer.handleDelivery parameters.consumer ⟨deliveryTag, nowTimestamp, true⟩
  let sent := consumer.actions.drop state.consumer.actions.length
  { state with consumer, unsettled := sent.foldl settleUnsettled (state.unsettled ++ [(deliveryTag, consumerTag)]) }

def dispatch (nowTimestamp : ℤ) (state : Subscribed) : Option Subscribed :=
  match state.incoming with
  | .delivery deliveryTag consumerTag :: incoming =>
    some ({ state with incoming }.handleDelivery parameters deliveryTag consumerTag nowTimestamp)
  | .cancelled _ :: incoming => some { state with incoming, consumer := state.consumer.resetEpoch }
  | [] => none

def cancel (consumerTag : String) (state : Subscribed) : Option Subscribed :=
  if consumerTag ∈ state.subscriptions then
    some { state with
      subscriptions := state.subscriptions.filter (· != consumerTag)
      incoming := state.incoming ++ [.cancelled consumerTag] }
  else none

def reconnect (state : Subscribed) : Subscribed :=
  { state with subscriptions := [], incoming := [], unsettled := [], recovering := true }

def recover (state : Subscribed) : Option Subscribed :=
  if state.recovering then some { state with consumer := state.consumer.resetEpoch, recovering := false } else none

def step (state : Subscribed) : SubscribedEvent → Option Subscribed
  | .basicConsume consumerTag => state.basicConsume consumerTag
  | .deliver consumerTag => state.deliver parameters consumerTag
  | .dispatch nowTimestamp => state.dispatch parameters nowTimestamp
  | .cancel consumerTag => state.cancel consumerTag
  | .reconnect => some state.reconnect
  | .recover => state.recover

end

end Subscribed

end PerfTestModel

namespace PerfTestProof

open Systems Settlements PerfTestModel Consumer Subscribed

/-- There are subscriptions, and none can get a message before some delivery is settled, which only
    another message would bring about. -/
structure Starved (parameters : PrefetchParameters) (state : Subscribed) : Prop where
  live : state.subscriptions ≠ []
  exhausted : ∀ consumerTag ∈ state.subscriptions, state.withinWindows parameters consumerTag = false
  processed : ∀ message ∈ state.incoming, message.isDelivery = false

def resetsWhenSettled (state : Subscribed) : SubscribedEvent → Bool
  | .dispatch _ => (state.incoming.head?.all Incoming.isDelivery) || state.unsettled.isEmpty
  | .recover => state.unsettled.isEmpty
  | _ => true

structure EpochBounds (multiAckEvery : ℤ) (state : Subscribed) : Prop where
  opened : state.consumer.closedChannels = []
  ordered : (state.unsettled.map Prod.fst ++ state.incoming.filterMap Incoming.tag).Pairwise (· < ·)
  bounded : ∀ tag ∈ state.unsettled.map Prod.fst ++ state.incoming.filterMap Incoming.tag, tag ≤ state.lastTag
  single : multiAckEvery = 0 → state.unsettled = []
  batch : multiAckEvery ≠ 0 → state.unsettled.length ≤ state.consumer.epochMessageCount % multiAckEvery.natAbs

section

variable {parameters : PrefetchParameters} {multiAckEvery : ℤ} {state next : Subscribed} {deliveryTag : ℕ}
  {consumerTag : String} {nowTimestamp : ℤ} {incoming : List Incoming}

theorem foldl_settle_commits (channel count : ℕ) (unsettled : List (ℕ × String)) :
    (commits parameters.consumer channel count).foldl settleUnsettled unsettled = unsettled := by
  unfold commits
  split <;> rfl

theorem foldl_settle_frames (channel count : ℕ) (unsettled : List (ℕ × String)) :
    (frames parameters.consumer channel deliveryTag count).foldl settleUnsettled unsettled =
      match ackDue parameters.consumer count with
      | some multiple => unsettled.filter fun other => !isCovered deliveryTag multiple other.1
      | none => unsettled := by
  unfold frames
  cases ackDue parameters.consumer count with
  | none => rfl
  | some multiple =>
    show [ackNackOperation _ _ _ _].foldl settleUnsettled unsettled = _
    unfold ackNackOperation
    split <;> rfl

theorem handleDelivery_unsettled (deliveryTag : ℕ) (consumerTag : String) (nowTimestamp : ℤ)
    (unlimited : parameters.consumer.msgLimit = 0)
    (opened : state.consumer.closedChannels = []) :
    (state.handleDelivery parameters deliveryTag consumerTag nowTimestamp).unsettled =
      match ackDue parameters.consumer (state.consumer.epochMessageCount + 1) with
      | some multiple => (state.unsettled ++ [(deliveryTag, consumerTag)]).filter fun other =>
          !isCovered deliveryTag multiple other.1
      | none => state.unsettled ++ [(deliveryTag, consumerTag)] := by
  have delivered := handleDelivery_delivered parameters.consumer ⟨deliveryTag, nowTimestamp, true⟩ state.consumer
  have here : state.consumer.channel ∉ state.consumer.closedChannels := by
    rw [opened]
    exact List.not_mem_nil
  have work : handled parameters.consumer state.consumer.channel ⟨deliveryTag, nowTimestamp, true⟩ state.consumer =
      .received state.consumer.channel deliveryTag ::
        (frames parameters.consumer state.consumer.channel deliveryTag (state.consumer.epochMessageCount + 1) ++
          commits parameters.consumer state.consumer.channel (state.consumer.epochMessageCount + 1)) := by
    simp [handled, processing, withinLimit, limitReached, unlimited]
  show (List.drop _ (Consumer.handleDelivery _ _ _).actions).foldl settleUnsettled _ = _
  rw [delivered.actions, List.drop_left, if_neg here, work, List.foldl_cons, List.foldl_cons, List.foldl_append,
    foldl_settle_commits, foldl_settle_frames]
  rfl

theorem succ_mod_of_not_dvd {count size : ℕ} (apart : ¬ size ∣ count + 1) :
    (count + 1) % size = count % size + 1 := by
  rw [← Nat.mod_add_mod]
  rcases Nat.eq_zero_or_pos size with rfl | positive
  · rw [Nat.mod_zero, Nat.mod_zero]
  · apply Nat.mod_eq_of_lt
    have below := Nat.mod_lt count positive
    have other : count % size + 1 ≠ size := by
      intro same
      apply apart
      rw [Nat.dvd_iff_mod_eq_zero, ← Nat.mod_add_mod, same, Nat.mod_self]
    omega

theorem initial_epochBounds (multiAckEvery : ℤ) (queueNames : List String) :
    EpochBounds multiAckEvery (initial queueNames) := by
  constructor
  · rfl
  · exact List.Pairwise.nil
  · exact List.forall_mem_nil _
  · intro _
    rfl
  · intro _
    exact Nat.zero_le _

theorem EpochBounds.reset (counted : EpochBounds multiAckEvery state) (settled : state.unsettled = [])
    (same : incoming.filterMap Incoming.tag = state.incoming.filterMap Incoming.tag) (recovering : Bool) :
    EpochBounds multiAckEvery
      { state with incoming, recovering, consumer := state.consumer.resetEpoch } := by
  constructor
  · exact counted.opened
  · rw [same]
    exact counted.ordered
  · rw [same]
    exact counted.bounded
  · exact counted.single
  · intro _
    show state.unsettled.length ≤ _
    rw [settled]
    exact Nat.zero_le _

theorem EpochBounds.deliver (counted : EpochBounds multiAckEvery state)
    (stepped : state.deliver parameters consumerTag = some next) : EpochBounds multiAckEvery next := by
  unfold Subscribed.deliver at stepped
  split at stepped
  · cases stepped
    have more : (state.incoming ++ [Incoming.delivery (state.lastTag + 1) consumerTag]).filterMap Incoming.tag =
        state.incoming.filterMap Incoming.tag ++ [state.lastTag + 1] := List.filterMap_append
    constructor
    · exact counted.opened
    · show List.Pairwise _ (_ ++ (state.incoming ++ [_]).filterMap Incoming.tag)
      rw [more, ← List.append_assoc]
      apply List.pairwise_append.mpr
      refine ⟨counted.ordered, List.pairwise_singleton _ _, fun tag member other last => ?_⟩
      rw [List.mem_singleton.mp last]
      exact Nat.lt_succ_of_le (counted.bounded tag member)
    · intro tag member
      dsimp only at member ⊢
      rw [more, ← List.append_assoc] at member
      rcases List.mem_append.mp member with earlier | new
      · exact Nat.le_succ_of_le (counted.bounded tag earlier)
      · exact Nat.le_of_eq (List.mem_singleton.mp new)
    · exact counted.single
    · exact counted.batch
  · cases stepped

theorem EpochBounds.popped (counted : EpochBounds multiAckEvery state)
    (first : state.incoming = .delivery deliveryTag consumerTag :: incoming) :
    ((state.unsettled ++ [(deliveryTag, consumerTag)]).map Prod.fst ++
        incoming.filterMap Incoming.tag).Pairwise (· < ·) ∧
      (∀ tag ∈ (state.unsettled ++ [(deliveryTag, consumerTag)]).map Prod.fst ++
        incoming.filterMap Incoming.tag, tag ≤ state.lastTag) ∧
      ∀ other ∈ state.unsettled ++ [(deliveryTag, consumerTag)], other.1 ≤ deliveryTag := by
  have ordered := counted.ordered
  have bounded := counted.bounded
  rw [first] at ordered bounded
  have moved : state.unsettled.map Prod.fst ++
      (Incoming.delivery deliveryTag consumerTag :: incoming).filterMap Incoming.tag =
        (state.unsettled ++ [(deliveryTag, consumerTag)]).map Prod.fst ++ incoming.filterMap Incoming.tag := by
    simp [Incoming.tag]
  rw [moved] at ordered bounded
  refine ⟨ordered, bounded, fun other member => ?_⟩
  rcases List.mem_append.mp member with earlier | last
  · rw [List.map_append, List.append_assoc] at ordered
    have apart := (List.pairwise_append.mp ordered).2.2 other.1 (List.mem_map_of_mem earlier) deliveryTag
      List.mem_cons_self
    exact Nat.le_of_lt apart
  · rw [List.mem_singleton.mp last]

/-- The frame at the end of a batch settles every delivery that was processed. -/
theorem EpochBounds.settled_at_end (incoming : List Incoming) (nowTimestamp : ℤ)
    (acks : parameters.consumer.autoAck = false)
    (unlimited : parameters.consumer.msgLimit = 0)
    (counted : EpochBounds parameters.consumer.multiAckEvery state)
    (below : ∀ other ∈ state.unsettled ++ [(deliveryTag, consumerTag)], other.1 ≤ deliveryTag)
    (ends : BatchEnds parameters.consumer.multiAckEvery (state.consumer.epochMessageCount + 1 : ℕ)) :
    ({ state with incoming }.handleDelivery parameters deliveryTag consumerTag nowTimestamp).unsettled = [] := by
  have same : ({ state with incoming } : Subscribed).consumer.closedChannels = [] := counted.opened
  rw [handleDelivery_unsettled deliveryTag consumerTag nowTimestamp unlimited same, ackDue_eq acks, if_pos ends]
  apply List.filter_eq_nil_iff.mpr
  intro other member
  by_cases single : parameters.consumer.multiAckEvery = 0
  · rw [counted.single single, List.nil_append] at member
    rw [List.mem_singleton.mp member]
    simp
  · have covered := isCovered_multiple.mpr (below other member)
    simp [single, covered]

/-- A frame settles every delivery that was processed, and is due when the counter reaches a multiple. -/
theorem EpochBounds.handleDelivery (acks : parameters.consumer.autoAck = false)
    (unlimited : parameters.consumer.msgLimit = 0)
    (counted : EpochBounds parameters.consumer.multiAckEvery state)
    (first : state.incoming = .delivery deliveryTag consumerTag :: incoming) :
    EpochBounds parameters.consumer.multiAckEvery
      ({ state with incoming }.handleDelivery parameters deliveryTag consumerTag nowTimestamp) := by
  obtain ⟨ordered, bounded, below⟩ := counted.popped first
  have delivered := handleDelivery_delivered parameters.consumer ⟨deliveryTag, nowTimestamp, true⟩ state.consumer
  have opened : (state.consumer.handleDelivery parameters.consumer
      ⟨deliveryTag, nowTimestamp, true⟩).closedChannels = [] := delivered.closedChannels.trans counted.opened
  by_cases ends : BatchEnds parameters.consumer.multiAckEvery (state.consumer.epochMessageCount + 1 : ℕ)
  · have none := counted.settled_at_end incoming nowTimestamp acks unlimited below ends
    constructor
    · exact opened
    · rw [none]
      exact (List.pairwise_append.mp ordered).2.1
    · rw [none]
      intro tag member
      exact bounded tag (List.mem_append_right _ member)
    · intro _
      exact none
    · intro _
      rw [none]
      exact Nat.zero_le _
  · have here : state.consumer.channel ∉ state.consumer.closedChannels := by
      rw [counted.opened]
      exact List.not_mem_nil
    have epoch := delivered.epochMessageCount here
    have same : ({ state with incoming } : Subscribed).consumer.closedChannels = [] := counted.opened
    have unsettled := handleDelivery_unsettled deliveryTag consumerTag nowTimestamp unlimited same
    rw [ackDue_eq acks] at unsettled
    dsimp only at unsettled
    rw [if_neg ends] at unsettled
    have multiple : parameters.consumer.multiAckEvery ≠ 0 := fun zero => ends (.inl zero)
    have apart : ¬ parameters.consumer.multiAckEvery.natAbs ∣ state.consumer.epochMessageCount + 1 := by
      intro divides
      exact ends (.inr (Int.natAbs_dvd.mp (Int.natCast_dvd_natCast.mpr divides)))
    constructor
    · exact opened
    · rw [unsettled]
      exact ordered
    · rw [unsettled]
      exact bounded
    · intro zero
      exact absurd zero multiple
    · intro _
      have more := counted.batch multiple
      rw [unsettled]
      show _ ≤ (state.consumer.handleDelivery _ _).epochMessageCount % _
      rw [epoch, succ_mod_of_not_dvd apart, List.length_append]
      exact Nat.succ_le_succ more

theorem EpochBounds.dispatch (acks : parameters.consumer.autoAck = false)
    (unlimited : parameters.consumer.msgLimit = 0)
    (counted : EpochBounds parameters.consumer.multiAckEvery state)
    (condition : resetsWhenSettled state (.dispatch nowTimestamp) = true)
    (stepped : state.dispatch parameters nowTimestamp = some next) :
    EpochBounds parameters.consumer.multiAckEvery next := by
  unfold Subscribed.dispatch at stepped
  split at stepped
  · rename_i deliveryTag consumerTag incoming first
    cases stepped
    exact counted.handleDelivery acks unlimited first
  · rename_i consumerTag incoming first
    cases stepped
    simp only [resetsWhenSettled, first, List.head?_cons, Option.all_some, Incoming.isDelivery, Bool.false_or,
      List.isEmpty_iff] at condition
    apply counted.reset condition
    rw [first]
    rfl
  · cases stepped

theorem EpochBounds.step (acks : parameters.consumer.autoAck = false) (unlimited : parameters.consumer.msgLimit = 0)
    (counted : EpochBounds parameters.consumer.multiAckEvery state) {event : SubscribedEvent}
    (stepped : restrict resetsWhenSettled (Subscribed.step parameters) state event = some next) :
    EpochBounds parameters.consumer.multiAckEvery next := by
  obtain ⟨condition, stepped⟩ := restrict_some.mp stepped
  cases event with
  | basicConsume consumerTag =>
    simp only [Subscribed.step, Subscribed.basicConsume] at stepped
    split at stepped
    · cases stepped
    · cases stepped
      exact ⟨counted.opened, counted.ordered, counted.bounded, counted.single, counted.batch⟩
  | deliver consumerTag => exact counted.deliver stepped
  | dispatch nowTimestamp => exact counted.dispatch acks unlimited condition stepped
  | cancel consumerTag =>
    simp only [Subscribed.step, Subscribed.cancel] at stepped
    split at stepped
    · cases stepped
      have same : (state.incoming ++ [Incoming.cancelled consumerTag]).filterMap Incoming.tag =
          state.incoming.filterMap Incoming.tag := by
        rw [List.filterMap_append]
        exact List.append_nil _
      constructor
      · exact counted.opened
      · rw [same]
        exact counted.ordered
      · rw [same]
        exact counted.bounded
      · exact counted.single
      · exact counted.batch
    · cases stepped
  | reconnect =>
    cases stepped
    constructor
    · exact counted.opened
    · exact List.Pairwise.nil
    · exact List.forall_mem_nil _
    · intro _
      rfl
    · intro _
      exact Nat.zero_le _
  | recover =>
    simp only [Subscribed.step, Subscribed.recover] at stepped
    split at stepped
    · cases stepped
      exact counted.reset (List.isEmpty_iff.mp condition) rfl false
    · cases stepped

theorem EpochBounds.length_lt (counted : EpochBounds multiAckEvery state) (signed : -1 ≤ multiAckEvery) :
    (state.unsettled.length : ℤ) < max 1 multiAckEvery := by
  by_cases single : multiAckEvery = 0
  · rw [counted.single single, single]
    decide
  · have positive : 0 < multiAckEvery.natAbs := Int.natAbs_pos.mpr single
    have below := Nat.lt_of_le_of_lt (counted.batch single) (Nat.mod_lt _ positive)
    omega

theorem withinPrefetch_of_lt {prefetch : ℤ} {count : ℕ} (window : prefetch ≤ 0 ∨ (count : ℤ) < prefetch) :
    withinPrefetch prefetch count = true := by
  unfold withinPrefetch
  simpa using window

theorem not_starved (below : (state.unsettled.length : ℤ) < max 1 multiAckEvery)
    (valid : validateMultiAckEveryQos multiAckEvery parameters.consumerPrefetch = true)
    (channelwide : parameters.channelPrefetch ≤ 0 ∨ multiAckEvery ≤ parameters.channelPrefetch) :
    ¬ Starved parameters state := by
  intro starved
  obtain ⟨consumerTag, live⟩ := List.exists_mem_of_ne_nil _ starved.live
  have exhausted := starved.exhausted consumerTag live
  have noMore : state.incoming.countP Incoming.isDelivery = 0 := by
    apply List.countP_eq_zero.mpr
    intro message member some
    rw [starved.processed message member] at some
    cases some
  have noMoreFor : state.incoming.countP (Incoming.isFor consumerTag) = 0 := by
    apply List.countP_eq_zero.mpr
    intro message member some
    have none := starved.processed message member
    cases message with
    | delivery deliveryTag other => cases none
    | cancelled other => cases some
  have part : state.unsettled.countP (fun delivery => delivery.2 == consumerTag) ≤ state.unsettled.length :=
    List.countP_le_length
  have consumerWindow : withinPrefetch parameters.consumerPrefetch (state.consumerCount consumerTag) = true := by
    apply withinPrefetch_of_lt
    simp only [validateMultiAckEveryQos, Bool.or_eq_true, beq_iff_eq, decide_eq_true_eq] at valid
    rw [consumerCount, noMoreFor]
    omega
  have channelWindow : withinPrefetch parameters.channelPrefetch state.channelCount = true := by
    apply withinPrefetch_of_lt
    rw [channelCount, noMore]
    omega
  rw [withinWindows, consumerWindow, channelWindow] at exhausted
  cases exhausted

/-- While the counter is only reset when everything that was processed is settled, fewer deliveries wait for
    a frame than a batch has, and the consumer is not starved. -/
theorem multi_ack_never_starves (parameters : PrefetchParameters) (queueNames : List String)
    (events : List SubscribedEvent) (state : Subscribed)
    (acks : parameters.consumer.autoAck = false) (unlimited : parameters.consumer.msgLimit = 0)
    (valid : validateMultiAckEveryQos parameters.consumer.multiAckEvery parameters.consumerPrefetch = true)
    (signed : -1 ≤ parameters.consumer.multiAckEvery)
    (channelwide : parameters.channelPrefetch ≤ 0 ∨
      parameters.consumer.multiAckEvery ≤ parameters.channelPrefetch)
    (executed : run (restrict resetsWhenSettled (Subscribed.step parameters)) (initial queueNames) events =
      some state) :
    (state.unsettled.length : ℤ) < max 1 parameters.consumer.multiAckEvery ∧ ¬ Starved parameters state := by
  have counted := run_invariant (EpochBounds parameters.consumer.multiAckEvery)
    (fun _ _ _ counted stepped => counted.step acks unlimited stepped) (initial_epochBounds _ _) executed
  have below := counted.length_lt signed
  exact ⟨below, not_starved below valid channelwide⟩

end

def twoAtATime : PrefetchParameters := ⟨⟨0, false, 2, true, false, 0, .never, false, true⟩, 2, 0⟩

def settledCancellation : List SubscribedEvent :=
  [.basicConsume "first", .basicConsume "second", .deliver "first", .deliver "second", .dispatch 0, .dispatch 0,
    .cancel "second", .dispatch 0, .deliver "first", .dispatch 0]

theorem multi_ack_never_starves_settled :
    ∃ state, run (restrict resetsWhenSettled (Subscribed.step twoAtATime)) (initial ["first", "second"])
      settledCancellation = some state ∧ ¬ Starved twoAtATime state := by
  have executed : (run (restrict resetsWhenSettled (Subscribed.step twoAtATime)) (initial ["first", "second"])
      settledCancellation).isSome = true := by decide
  obtain ⟨state, executed⟩ := Option.isSome_iff_exists.mp executed
  exact ⟨state, executed, (multi_ack_never_starves twoAtATime ["first", "second"] settledCancellation state rfl rfl
    (by decide) (by decide) (by decide) executed).2⟩

def starvedRun : List SubscribedEvent :=
  [.basicConsume "first", .basicConsume "second", .deliver "first", .dispatch 0, .cancel "second", .dispatch 0,
    .deliver "first", .dispatch 0]

theorem starved_after_cancellation :
    ¬ ∀ (parameters : PrefetchParameters) (queueNames : List String) (events : List SubscribedEvent)
      (state : Subscribed), parameters.consumer.autoAck = false → parameters.consumer.txSize = 0 →
      parameters.consumer.msgLimit = 0 →
      validateMultiAckEveryQos parameters.consumer.multiAckEvery parameters.consumerPrefetch = true →
      run (Subscribed.step parameters) (initial queueNames) events = some state →
      (state.unsettled.length : ℤ) < max 1 parameters.consumer.multiAckEvery ∧ ¬ Starved parameters state := by
  intro always
  have executed : (run (Subscribed.step twoAtATime) (initial ["first", "second"]) starvedRun).isSome = true := by
    decide
  obtain ⟨state, executed⟩ := Option.isSome_iff_exists.mp executed
  have stuck : (run (Subscribed.step twoAtATime) (initial ["first", "second"]) starvedRun).all (fun state =>
      state.subscriptions == ["first"] && state.incoming == [] && !state.withinWindows twoAtATime "first") =
        true := by decide
  rw [executed, Option.all_some, Bool.and_eq_true, Bool.and_eq_true, beq_iff_eq, beq_iff_eq, Bool.not_eq_true'] at stuck
  apply (always twoAtATime ["first", "second"] starvedRun state rfl rfl rfl (by decide) executed).2
  constructor
  · rw [stuck.1.1]
    exact List.cons_ne_nil _ _
  · intro consumerTag live
    rw [stuck.1.1] at live
    rw [List.mem_singleton.mp live]
    exact stuck.2
  · rw [stuck.1.2]
    exact List.forall_mem_nil _

end PerfTestProof
