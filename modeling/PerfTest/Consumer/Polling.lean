import PerfTest.Consumer.CleanStop

namespace PerfTestModel

/-- What comes of the `basicGet` for a queue. After an error the channel is closed, or not, and a new
    one is created, or not. -/
inductive GetResult where
  | message (nowTimestamp : ℤ)
  | empty
  | failed (closes created : Bool)
  | alreadyClosed
  | recovering
  deriving DecidableEq, Repr

/-- A polling consumer: the channel that its loop has now, the last delivery tag on it, and the queues
    that are left in this pass. Its first channel is the one of the exit checks. -/
structure PollingConsumer where
  consumer : Consumer
  ch : ℕ
  lastTag : ℕ
  queues : List String
  deriving DecidableEq, Repr

inductive PollingEvent where
  | poll (result : GetResult)
  | exitCheck (check : ExitCheck)

namespace PollingConsumer

def start (queueNames : List String) : PollingConsumer := ⟨Consumer.start 0 queueNames, 0, 0, []⟩

section

variable (parameters : ConsumerParameters)

def message (nowTimestamp : ℤ) (state : PollingConsumer) : PollingConsumer :=
  let deliveryTag := state.lastTag + 1
  { state with
    consumer := (state.consumer.did (.delivered state.ch deliveryTag)).maybeHandleMessage parameters state.ch
      ⟨deliveryTag, nowTimestamp, true⟩
    lastTag := deliveryTag }

def failed (closes created : Bool) (state : PollingConsumer) : PollingConsumer :=
  let consumer :=
    if closes then { state.consumer with closedChannels := state.ch :: state.consumer.closedChannels }
    else state.consumer
  -- the delivery tags of a new channel start at 1
  if created then { state with consumer, ch := state.ch + 1, lastTag := 0 } else { state with consumer }

def basicGet (state : PollingConsumer) : GetResult → PollingConsumer
  | .message nowTimestamp => state.message parameters nowTimestamp
  | .failed closes created => state.failed closes created
  | .empty | .alreadyClosed | .recovering => state

def queuesLeft (state : PollingConsumer) : List String :=
  if state.queues.isEmpty && !state.consumer.completed then state.consumer.queueNames else state.queues

def poll (result : GetResult) (state : PollingConsumer) : PollingConsumer :=
  match state.queuesLeft with
  | [] => state
  | _ :: queues => { state.basicGet parameters result with queues }

def handle (state : PollingConsumer) : PollingEvent → PollingConsumer
  | .poll result => state.poll parameters result
  | .exitCheck check =>
    { state with consumer := state.consumer.maybeStopIfNoActivityOrQueueEmpty parameters check }

end

def polled (parameters : ConsumerParameters) (queueNames : List String) (events : List PollingEvent) :
    PollingConsumer :=
  events.foldl (handle parameters) (start queueNames)

end PollingConsumer

end PerfTestModel

namespace PerfTestProof

open Systems Settlements PerfTestModel Consumer Outstanding PollingConsumer

structure LatestMessage where
  channel : ℕ
  deliveryTag : ℕ
  framed : Bool
  deriving DecidableEq, Repr

def LatestMessage.next (latest : Option LatestMessage) : ConsumerAction → Option LatestMessage
  | .received channel deliveryTag => some ⟨channel, deliveryTag, false⟩
  | .basicAck .. | .basicNack .. => latest.map fun message => { message with framed := true }
  | .delivered .. | .txCommit _ | .countDown _ => latest

def latestMessage (actions : List ConsumerAction) : Option LatestMessage := actions.foldl LatestMessage.next none

def onDelivering (latest : Option LatestMessage) : ConsumerAction → Bool
  | .basicAck channel deliveryTag _ | .basicNack channel deliveryTag _ _ =>
    latest.any fun message => message.channel == channel && message.deliveryTag == deliveryTag
  | .txCommit channel => latest.any fun message => message.channel == channel
  | .delivered .. | .received .. | .countDown _ => true

def allOnDelivering (latest : Option LatestMessage) : List ConsumerAction → Bool
  | [] => true
  | action :: actions => onDelivering latest action && allOnDelivering (LatestMessage.next latest action) actions

def isOn (channel : ℕ) : ConsumerAction → Bool
  | .delivered other _ | .received other _ | .basicAck other _ _ | .basicNack other _ _ _ | .txCommit other =>
    other == channel
  | .countDown _ => false

def unsettledOn (channel : ℕ) (actions : List ConsumerAction) : List ℕ :=
  (ofActions (actions.filter (isOn channel))).unsettled

section

variable (parameters : ConsumerParameters)

def HoldsUnsettled (actions : List ConsumerAction) : Prop :=
  parameters.autoAck = false ∧ ∃ message ∈ latestMessage actions, unsettledOn message.channel actions ≠ []

structure FinalAckRight (consumer : Consumer) : Prop where
  guard : consumer.finalAckDue parameters = true ↔ HoldsUnsettled parameters consumer.actions
  channel : consumer.finalAckDue parameters = true →
    ∀ message ∈ latestMessage consumer.actions, message.channel = consumer.channel

def LastIsOwn (consumer : Consumer) : Prop :=
  parameters.autoAck = true ∨ BatchEnds parameters.multiAckEvery (receivedIn consumer.actions) ∨
    ∀ message ∈ latestMessage consumer.actions, message.channel = consumer.channel ∧ message.framed = false

def EachStop (holds : Consumer → Prop) (queueNames : List String) : List PollingEvent → Prop :=
  EachStep fun earlier event => ∀ check, event = .exitCheck check →
    (exiting parameters check (polled parameters queueNames earlier).consumer).isSome = true →
    holds (polled parameters queueNames earlier).consumer

structure SettlesOnDelivering (queueNames : List String) (events : List PollingEvent) : Prop where
  frames : allOnDelivering none (polled parameters queueNames events).consumer.actions = true
  guards : EachStop parameters (FinalAckRight parameters) queueNames events

end

variable {parameters : ConsumerParameters} {consumer after : Consumer} {state : PollingConsumer} {check : ExitCheck}
  {actions more : List ConsumerAction} {message : LatestMessage} {queueNames : List String}
  {channel other deliveryTag count last acked ch lastTag : ℕ}

@[simp] theorem latestMessage_append (first second : List ConsumerAction) :
    latestMessage (first ++ second) = second.foldl LatestMessage.next (latestMessage first) := List.foldl_append

@[simp] theorem unsettledOn_append (first second : List ConsumerAction) : unsettledOn channel (first ++ second) =
    ((second.filter (isOn channel)).foldl Outstanding.record (ofActions (first.filter (isOn channel)))).unsettled := by
  unfold unsettledOn
  rw [List.filter_append, ofActions_append]

theorem allOnDelivering_append (latest : Option LatestMessage) (first second : List ConsumerAction) :
    allOnDelivering latest (first ++ second) =
      (allOnDelivering latest first && allOnDelivering (first.foldl LatestMessage.next latest) second) := by
  induction first generalizing latest with
  | nil => rfl
  | cons action first ih =>
    show (_ && allOnDelivering _ (first ++ second)) = (_ && _ && _)
    rw [ih, Bool.and_assoc]
    rfl

def isSilent : ConsumerAction → Bool
  | .delivered .. | .countDown _ => true
  | .received .. | .basicAck .. | .basicNack .. | .txCommit _ => false

theorem foldl_next_silent (latest : Option LatestMessage) (silent : ∀ action ∈ more, isSilent action = true) :
    more.foldl LatestMessage.next latest = latest := by
  induction more with
  | nil => rfl
  | cons action more ih =>
    have first := silent action List.mem_cons_self
    have rest := ih fun other member => silent other (List.mem_cons_of_mem _ member)
    cases action with
    | delivered | countDown => exact rest
    | received | basicAck | basicNack | txCommit => cases first

theorem allOnDelivering_silent (latest : Option LatestMessage) (silent : ∀ action ∈ more, isSilent action = true) :
    allOnDelivering latest more = true := by
  induction more with
  | nil => rfl
  | cons action more ih =>
    have first := silent action List.mem_cons_self
    have rest := ih fun other member => silent other (List.mem_cons_of_mem _ member)
    cases action with
    | delivered | countDown => exact rest
    | received | basicAck | basicNack | txCommit => cases first

theorem unsettledOn_silent (silent : ∀ action ∈ more, isSilent action = true) :
    unsettledOn channel (actions ++ more) = unsettledOn channel actions := by
  rw [unsettledOn_append]
  unfold unsettledOn
  generalize ofActions (actions.filter (isOn channel)) = outstanding
  induction more with
  | nil => rfl
  | cons action more ih =>
    have first := silent action List.mem_cons_self
    have rest := ih fun other member => silent other (List.mem_cons_of_mem _ member)
    cases action with
    | delivered other deliveryTag =>
      rw [List.filter_cons]
      split <;> exact rest
    | countDown reason => exact rest
    | received | basicAck | basicNack | txCommit => cases first

theorem receivedIn_silent (silent : ∀ action ∈ more, isSilent action = true) :
    receivedIn (actions ++ more) = receivedIn actions := by
  have none : receivedIn more = 0 := by
    apply List.countP_eq_zero.mpr
    intro action member received
    have quiet := silent action member
    cases action with
    | received => cases quiet
    | delivered | basicAck | basicNack | txCommit | countDown => cases received
  rw [receivedIn_append, none, Nat.add_zero]

theorem isOn_processed {action : ConsumerAction} (member : action ∈ processed parameters channel deliveryTag count)
    (other : ℕ) : isOn other action = (channel == other) := by
  unfold processed frames commits ackNackOperation at member
  rcases List.mem_cons.mp member with rfl | rest
  · rfl
  · rcases List.mem_append.mp rest with frame | commit
    · obtain ⟨multiple, _, rfl⟩ := List.mem_map.mp frame
      split <;> rfl
    · split at commit
      · rw [List.mem_singleton.mp commit]
        rfl
      · cases commit

theorem filter_processed_self :
    (processed parameters channel deliveryTag count).filter (isOn channel) =
      processed parameters channel deliveryTag count := by
  apply List.filter_eq_self.mpr
  intro action member
  rw [isOn_processed member]
  exact beq_self_eq_true channel

theorem filter_processed_other (apart : channel ≠ other) :
    (processed parameters channel deliveryTag count).filter (isOn other) = [] := by
  apply List.filter_eq_nil_iff.mpr
  intro action member
  rw [isOn_processed member]
  simpa using apart

theorem foldl_next_processed (latest : Option LatestMessage) :
    (processed parameters channel deliveryTag count).foldl LatestMessage.next latest =
      some ⟨channel, deliveryTag, (ackDue parameters count).isSome⟩ := by
  have commit (latest : Option LatestMessage) :
      (commits parameters channel count).foldl LatestMessage.next latest = latest := by
    unfold commits
    split <;> rfl
  unfold processed frames
  rw [List.foldl_cons, List.foldl_append, commit]
  cases ackDue parameters count with
  | none => rfl
  | some multiple =>
    show [ackNackOperation _ _ _ _].foldl LatestMessage.next _ = _
    unfold ackNackOperation
    split <;> rfl

theorem allOnDelivering_processed (latest : Option LatestMessage) :
    allOnDelivering latest (processed parameters channel deliveryTag count) = true := by
  have commit (framed : Bool) :
      allOnDelivering (some ⟨channel, deliveryTag, framed⟩) (commits parameters channel count) = true := by
    unfold commits
    split
    · simp [allOnDelivering, onDelivering]
    · rfl
  unfold processed frames
  show (true && allOnDelivering (some ⟨channel, deliveryTag, false⟩) _) = true
  rw [Bool.true_and]
  cases ackDue parameters count with
  | none => exact commit false
  | some multiple =>
    show allOnDelivering _ (ackNackOperation _ _ _ _ :: commits _ _ _) = true
    unfold ackNackOperation
    split
    · simpa [allOnDelivering, onDelivering, LatestMessage.next] using commit true
    · simpa [allOnDelivering, onDelivering, LatestMessage.next] using commit true

structure Facts (parameters : ConsumerParameters) (actions : List ConsumerAction) (lastDeliveryTag
    lastAckedDeliveryTag ch lastTag : ℕ) : Prop where
  channel : ∀ message ∈ latestMessage actions, message.channel ≤ ch
  tag : ∀ message ∈ latestMessage actions, message.channel = ch → message.deliveryTag ≤ lastTag
  later : ∀ channel, (∀ message ∈ latestMessage actions, message.channel < channel) →
    unsettledOn channel actions = []
  bounded : ∀ message ∈ latestMessage actions, ∀ tag ∈ unsettledOn message.channel actions,
    tag ≤ message.deliveryTag
  last : lastDeliveryTag = (latestMessage actions).elim 0 LatestMessage.deliveryTag
  unacked : latestMessage actions = none → lastAckedDeliveryTag = 0
  acked : ∀ message ∈ latestMessage actions, message.channel = 0 →
    lastAckedDeliveryTag ≤ message.deliveryTag
  ended : BatchEnds parameters.multiAckEvery (receivedIn actions) →
    lastAckedDeliveryTag = lastDeliveryTag ∧ ∀ message ∈ latestMessage actions, unsettledOn message.channel actions = []
  begun : ¬ BatchEnds parameters.multiAckEvery (receivedIn actions) → ∃ message ∈ latestMessage actions,
    (message.channel = 0 → lastAckedDeliveryTag < message.deliveryTag) ∧
    (message.channel = 0 ∧ message.framed = true → unsettledOn message.channel actions = []) ∧
    (¬ (message.channel = 0 ∧ message.framed = true) →
      message.deliveryTag ∈ unsettledOn message.channel actions)

theorem start_facts : Facts parameters [] 0 0 0 0 := by
  have none {property : LatestMessage → Prop} : ∀ message ∈ latestMessage [], property message := by
    intro message member
    cases member
  constructor
  · exact none
  · exact none
  · intro _ _
    rfl
  · exact none
  · rfl
  · intro _
    rfl
  · exact none
  · intro _
    exact ⟨rfl, none⟩
  · intro begun
    exact absurd (.inr (Int.dvd_zero _)) begun

theorem Facts.silent (facts : Facts parameters actions last acked ch lastTag)
    (silent : ∀ action ∈ more, isSilent action = true) :
    Facts parameters (actions ++ more) last acked ch lastTag := by
  have latest : latestMessage (actions ++ more) = latestMessage actions := by
    rw [latestMessage_append, foldl_next_silent _ silent]
  have unsettled (channel : ℕ) : unsettledOn channel (actions ++ more) = unsettledOn channel actions :=
    unsettledOn_silent silent
  have count : receivedIn (actions ++ more) = receivedIn actions := receivedIn_silent silent
  constructor <;> simp only [latest, unsettled, count]
  · exact facts.channel
  · exact facts.tag
  · exact facts.later
  · exact facts.bounded
  · exact facts.last
  · exact facts.unacked
  · exact facts.acked
  · exact facts.ended
  · exact facts.begun

/-- The loop goes on to later deliveries on its channel, or to a later channel. -/
theorem Facts.moved (nextCh nextTag : ℕ) (facts : Facts parameters actions last acked ch lastTag)
    (channels : ch ≤ nextCh) (tags : ch = nextCh → lastTag ≤ nextTag) :
    Facts parameters actions last acked nextCh nextTag := by
  constructor
  · intro message member
    exact Nat.le_trans (facts.channel message member) channels
  · intro message member here
    have same : ch = nextCh := Nat.le_antisymm channels (here ▸ facts.channel message member)
    exact Nat.le_trans (facts.tag message member (here.trans same.symm)) (tags same)
  · exact facts.later
  · exact facts.bounded
  · exact facts.last
  · exact facts.unacked
  · exact facts.acked
  · exact facts.ended
  · exact facts.begun

theorem Facts.current (facts : Facts parameters actions last acked ch lastTag) :
    (∀ tag ∈ unsettledOn ch actions, tag ≤ lastTag) ∧
      (BatchEnds parameters.multiAckEvery (receivedIn actions) → unsettledOn ch actions = []) := by
  by_cases here : ∃ message ∈ latestMessage actions, message.channel = ch
  · obtain ⟨message, member, rfl⟩ := here
    constructor
    · intro tag owed
      exact Nat.le_trans (facts.bounded message member tag owed) (facts.tag message member rfl)
    · intro ends
      exact (facts.ended ends).2 message member
  · have none : unsettledOn ch actions = [] := by
      apply facts.later
      intro message member
      exact Nat.lt_of_le_of_ne (facts.channel message member) fun same => here ⟨message, member, same⟩
    constructor
    · rw [none]
      exact List.forall_mem_nil _
    · intro _
      exact none

theorem unsettledOn_processed (count : ℕ) (acks : parameters.autoAck = false)
    (alone : parameters.multiAckEvery = 0 → unsettledOn channel actions = [])
    (older : ∀ tag ∈ unsettledOn channel actions, tag ≤ deliveryTag) :
    unsettledOn channel (actions ++ processed parameters channel deliveryTag count) =
      if BatchEnds parameters.multiAckEvery count then [] else unsettledOn channel actions ++ [deliveryTag] := by
  rw [unsettledOn_append, filter_processed_self, processed, List.foldl_cons, List.foldl_append, foldl_frames acks,
    foldl_commits]
  by_cases ends : BatchEnds parameters.multiAckEvery count
  · have all := settle_all channel deliveryTag (decide (parameters.multiAckEvery ≠ 0))
      (fun single => alone (by simpa using single)) older
    simp only [ends, if_true, all]
    split <;> rfl
  · simp only [ends, if_false]
    split <;> rfl

theorem Facts.received (acks : parameters.autoAck = false)
    (facts : Facts parameters actions last acked ch lastTag) :
    Facts parameters (actions ++ processed parameters ch (lastTag + 1) (receivedIn actions + 1)) (lastTag + 1)
      (if (ackDue parameters (receivedIn actions + 1)).isSome then lastTag + 1 else acked) ch (lastTag + 1) := by
  have older : ∀ tag ∈ unsettledOn ch actions, tag ≤ lastTag + 1 :=
    fun tag owed => Nat.le_succ_of_le (facts.current.1 tag owed)
  have unsettled := unsettledOn_processed (receivedIn actions + 1) acks
    (fun single => facts.current.2 (.inl single)) older
  have latest : latestMessage (actions ++ processed parameters ch (lastTag + 1) (receivedIn actions + 1)) =
      some ⟨ch, lastTag + 1, (ackDue parameters (receivedIn actions + 1)).isSome⟩ := by
    rw [latestMessage_append, foldl_next_processed]
  have count : receivedIn (actions ++ processed parameters ch (lastTag + 1) (receivedIn actions + 1)) =
      receivedIn actions + 1 := by
    rw [receivedIn_append, receivedIn_processed]
  have due := ackDue_isSome acks (receivedIn actions + 1)
  have below : ch = 0 → acked < lastTag + 1 := by
    rintro rfl
    apply Nat.lt_succ_of_le
    cases some : latestMessage actions with
    | none =>
      rw [facts.unacked some]
      exact Nat.zero_le _
    | some message =>
      have first := Nat.le_zero.mp (facts.channel message some)
      exact Nat.le_trans (facts.acked message some first) (facts.tag message some first)
  constructor
  · rw [latest]
    rintro message ⟨⟩
    exact Nat.le_refl _
  · rw [latest]
    rintro message ⟨⟩ _
    exact Nat.le_refl _
  · rw [latest]
    intro channel above
    have apart : ch < channel := above _ rfl
    rw [unsettledOn_append, filter_processed_other (Nat.ne_of_lt apart)]
    apply facts.later
    intro message member
    exact Nat.lt_of_le_of_lt (facts.channel message member) apart
  · rw [latest]
    rintro message ⟨⟩ tag owed
    rw [unsettled] at owed
    split at owed
    · cases owed
    · rcases List.mem_append.mp owed with earlier | new
      · exact older tag earlier
      · exact Nat.le_of_eq (List.mem_singleton.mp new)
  · rw [latest]
    rfl
  · rw [latest]
    intro impossible
    cases impossible
  · rw [latest]
    rintro message ⟨⟩ first
    split
    · exact Nat.le_refl _
    · exact Nat.le_of_lt (below first)
  · rw [latest, count]
    intro ends
    rw [due, decide_eq_true ends]
    refine ⟨rfl, ?_⟩
    rintro message ⟨⟩
    rw [unsettled, if_pos ends]
  · rw [latest, count]
    intro begun
    rw [due, decide_eq_false begun]
    refine ⟨_, rfl, below, ?_, fun _ => ?_⟩
    · rintro ⟨_, framed⟩
      cases framed
    · rw [unsettled, if_neg begun]
      exact List.mem_append_right _ (List.mem_singleton_self _)

theorem latestMessage_finalFrames {message : LatestMessage} (latest : latestMessage actions = some message) :
    latestMessage (actions ++ finalFrames parameters consumer) = some { message with framed := true } := by
  rw [latestMessage_append, latest]
  unfold finalFrames
  split <;> rfl

theorem receivedIn_finalFrames : receivedIn (actions ++ finalFrames parameters consumer) = receivedIn actions := by
  have none : receivedIn (finalFrames parameters consumer) = 0 := by
    unfold finalFrames
    split <;> rfl
  rw [receivedIn_append, none, Nat.add_zero]

theorem unsettledOn_finalFrames : unsettledOn consumer.channel (actions ++ finalFrames parameters consumer) =
    (unsettledOn consumer.channel actions).filter fun other => !isCovered consumer.lastDeliveryTag true other := by
  have frame : (finalFrames parameters consumer).filter (isOn consumer.channel) =
      finalFrames parameters consumer := by
    unfold finalFrames
    split <;> simp [isOn]
  rw [unsettledOn_append, frame]
  unfold finalFrames
  split <;> rfl

theorem unsettledOn_finalFrames_other {channel : ℕ} (apart : consumer.channel ≠ channel) :
    unsettledOn channel (actions ++ finalFrames parameters consumer) = unsettledOn channel actions := by
  have none : (finalFrames parameters consumer).filter (isOn channel) = [] := by
    unfold finalFrames
    split <;> simp [isOn, apart]
  rw [unsettledOn_append, none]
  rfl

theorem mem_unsettledOn_finalFrames {channel tag : ℕ}
    (member : tag ∈ unsettledOn channel (actions ++ finalFrames parameters consumer)) :
    tag ∈ unsettledOn channel actions := by
  by_cases own : consumer.channel = channel
  · subst own
    rw [unsettledOn_finalFrames] at member
    exact (List.mem_filter.mp member).1
  · rwa [unsettledOn_finalFrames_other own] at member

/-- The final ack settles what the consumer's own channel holds, and is not remembered. -/
theorem Facts.finalAck (facts : Facts parameters actions last acked ch lastTag) (due : acked < last)
    (own : consumer.channel = 0) (tag : consumer.lastDeliveryTag = last) :
    Facts parameters (actions ++ finalFrames parameters consumer) last acked ch lastTag := by
  have begun : ¬ BatchEnds parameters.multiAckEvery (receivedIn actions) := by
    intro ends
    have same := (facts.ended ends).1
    omega
  obtain ⟨message, latest, below, _, owed⟩ := facts.begun begun
  have number : last = message.deliveryTag := by
    rw [facts.last, show latestMessage actions = some message from latest]
    rfl
  have next : latestMessage (actions ++ finalFrames parameters consumer) = some { message with framed := true } :=
    latestMessage_finalFrames latest
  constructor
  · rw [next]
    rintro _ ⟨⟩
    exact facts.channel message latest
  · rw [next]
    rintro _ ⟨⟩ same
    exact facts.tag message latest same
  · rw [next]
    intro channel above
    apply List.eq_nil_iff_forall_not_mem.mpr
    intro tag member
    have none := facts.later channel fun other same => by
      cases latest.symm.trans same
      exact above { message with framed := true } rfl
    have earlier := mem_unsettledOn_finalFrames member
    rw [none] at earlier
    cases earlier
  · rw [next]
    rintro _ ⟨⟩ tag member
    exact facts.bounded message latest tag (mem_unsettledOn_finalFrames member)
  · rw [next]
    exact number
  · rw [next]
    intro impossible
    cases impossible
  · rw [next]
    rintro _ ⟨⟩ first
    exact facts.acked message latest first
  · rw [receivedIn_finalFrames]
    intro ends
    exact absurd ends begun
  · intro _
    rw [next]
    refine ⟨_, rfl, below, ?_, ?_⟩
    · rintro ⟨first, _⟩
      show unsettledOn message.channel _ = []
      have here : message.channel = consumer.channel := first.trans own.symm
      rw [here, unsettledOn_finalFrames]
      apply List.filter_eq_nil_iff.mpr
      intro other member
      have bound := facts.bounded message latest other (by rw [here]; exact member)
      rw [← number, ← tag] at bound
      simp [isCovered_multiple.mpr bound]
    · intro other
      have apart : consumer.channel ≠ message.channel := fun first => other ⟨first.symm.trans own, rfl⟩
      show message.deliveryTag ∈ unsettledOn message.channel _
      rw [unsettledOn_finalFrames_other apart]
      exact owed fun both => apart (own.trans both.1.symm)

structure Polled (parameters : ConsumerParameters) (state : PollingConsumer) : Prop where
  own : state.consumer.channel = 0
  received : state.consumer.receivedMessageCount = state.consumer.epochMessageCount
  counted : state.consumer.withinLimit parameters = true →
    state.consumer.epochMessageCount = receivedIn state.consumer.actions
  facts : parameters.autoAck = false → Facts parameters state.consumer.actions state.consumer.lastDeliveryTag
    state.consumer.lastAckedDeliveryTag state.ch state.lastTag

theorem start_polled : Polled parameters (PollingConsumer.start queueNames) :=
  ⟨rfl, rfl, fun _ => rfl, fun _ => start_facts⟩

theorem reports_silent {reports : List ConsumerAction}
    (only : ∀ action ∈ reports, ∃ reason, action = .countDown reason) :
    ∀ action ∈ reports, isSilent action = true := by
  intro action member
  obtain ⟨reason, rfl⟩ := only action member
  rfl

theorem delivered_silent (channel deliveryTag : ℕ) :
    ∀ action ∈ [ConsumerAction.delivered channel deliveryTag], isSilent action = true := by
  intro action member
  rw [List.mem_singleton.mp member]
  rfl

theorem limit_silent (consumer : Consumer) (reached : Bool) :
    ∀ action ∈ (if reached then report .reachedMessageLimit consumer else []), isSilent action = true := by
  apply reports_silent
  intro action member
  split at member
  · exact report_countDown member
  · cases member

theorem Polled.announced (polled : Polled parameters state) :
    Polled parameters { state with consumer := state.consumer.did (.delivered state.ch (state.lastTag + 1)) } := by
  have silent := delivered_silent state.ch (state.lastTag + 1)
  constructor
  · exact polled.own
  · exact polled.received
  · intro within
    show _ = receivedIn (_ ++ _)
    rw [receivedIn_silent silent]
    exact polled.counted within
  · intro acks
    exact (polled.facts acks).silent silent

theorem Polled.skipped (polled : Polled parameters state) :
    Polled parameters { state with lastTag := state.lastTag + 1 } :=
  ⟨polled.own, polled.received, polled.counted,
    fun acks => (polled.facts acks).moved _ _ (Nat.le_refl _) fun _ => Nat.le_succ _⟩

section

variable (nowTimestamp : ℤ)

def messageHandled (parameters : ConsumerParameters) (state : PollingConsumer) : PollingConsumer :=
  { state with
    consumer := state.consumer.handleMessage parameters state.ch ⟨state.lastTag + 1, nowTimestamp, true⟩
    lastTag := state.lastTag + 1 }

theorem messageHandled_channel :
    (messageHandled nowTimestamp parameters state).consumer.channel = state.consumer.channel := by
  unfold messageHandled
  rw [handleMessage_eq]
  rfl

theorem messageHandled_received : (messageHandled nowTimestamp parameters state).consumer.receivedMessageCount =
    state.consumer.receivedMessageCount + 1 := by
  unfold messageHandled
  rw [handleMessage_eq]
  rfl

theorem messageHandled_epoch : (messageHandled nowTimestamp parameters state).consumer.epochMessageCount =
    state.consumer.epochMessageCount + 1 := by
  unfold messageHandled
  rw [handleMessage_eq]
  rfl

theorem messageHandled_withinLimit :
    (messageHandled nowTimestamp parameters state).consumer.withinLimit parameters =
      (state.consumer.counted ⟨state.lastTag + 1, nowTimestamp, true⟩).withinLimit parameters := by
  unfold messageHandled
  rw [handleMessage_eq]
  rfl

theorem messageHandled_within
    (within : (state.consumer.counted ⟨state.lastTag + 1, nowTimestamp, true⟩).withinLimit parameters = true) :
    (messageHandled nowTimestamp parameters state).consumer.actions = state.consumer.actions ++
      (processed parameters state.ch (state.lastTag + 1) (state.consumer.epochMessageCount + 1) ++
        if (state.consumer.counted ⟨state.lastTag + 1, nowTimestamp, true⟩).limitReached parameters then
          report .reachedMessageLimit state.consumer else []) ∧
    (messageHandled nowTimestamp parameters state).consumer.lastDeliveryTag = state.lastTag + 1 ∧
    (messageHandled nowTimestamp parameters state).consumer.lastAckedDeliveryTag =
      if (ackDue parameters (state.consumer.epochMessageCount + 1)).isSome then state.lastTag + 1
      else state.consumer.lastAckedDeliveryTag := by
  unfold messageHandled
  rw [handleMessage_eq]
  refine ⟨?_, ?_, ?_⟩
  · show state.consumer.actions ++ (processing _ _ _ _ ++ _) = _
    rw [processing_eq rfl, if_pos within]
  · show (if isProcessed _ _ _ then _ else _) = _
    rw [isProcessed, within]
    rfl
  · show (if isProcessed _ _ _ && _ then _ else _) = _
    rw [isProcessed, within]
    rfl

theorem messageHandled_beyond
    (beyond : (state.consumer.counted ⟨state.lastTag + 1, nowTimestamp, true⟩).withinLimit parameters = false) :
    (messageHandled nowTimestamp parameters state).consumer.actions = state.consumer.actions ++
      (if (state.consumer.counted ⟨state.lastTag + 1, nowTimestamp, true⟩).limitReached parameters then
        report .reachedMessageLimit state.consumer else []) ∧
    (messageHandled nowTimestamp parameters state).consumer.lastDeliveryTag = state.consumer.lastDeliveryTag ∧
    (messageHandled nowTimestamp parameters state).consumer.lastAckedDeliveryTag =
      state.consumer.lastAckedDeliveryTag := by
  unfold messageHandled
  rw [handleMessage_eq]
  refine ⟨?_, ?_, ?_⟩
  · show state.consumer.actions ++ (processing _ _ _ _ ++ _) = _
    rw [processing_eq rfl, beyond]
    rfl
  · show (if isProcessed _ _ _ then _ else _) = _
    rw [isProcessed, beyond]
    rfl
  · show (if isProcessed _ _ _ && _ then _ else _) = _
    rw [isProcessed, beyond]
    rfl

theorem Polled.handled (polled : Polled parameters state) :
    Polled parameters (messageHandled nowTimestamp parameters state) ∧
      ∃ work, (messageHandled nowTimestamp parameters state).consumer.actions = state.consumer.actions ++ work ∧
        ∀ latest, allOnDelivering latest work = true := by
  have reports := limit_silent state.consumer
    ((state.consumer.counted ⟨state.lastTag + 1, nowTimestamp, true⟩).limitReached parameters)
  cases within : (state.consumer.counted ⟨state.lastTag + 1, nowTimestamp, true⟩).withinLimit parameters with
  | false =>
    obtain ⟨actions, tag, acked⟩ := messageHandled_beyond nowTimestamp within
    constructor
    · constructor
      · exact (messageHandled_channel nowTimestamp).trans polled.own
      · rw [messageHandled_received, messageHandled_epoch, polled.received]
      · intro impossible
        rw [messageHandled_withinLimit, within] at impossible
        cases impossible
      · intro acks
        rw [actions, tag, acked]
        exact ((polled.facts acks).silent reports).moved _ _ (Nat.le_refl _) fun _ => Nat.le_succ _
    · exact ⟨_, actions, fun latest => allOnDelivering_silent latest reports⟩
  | true =>
    obtain ⟨actions, tag, acked⟩ := messageHandled_within nowTimestamp within
    have before : state.consumer.withinLimit parameters = true := by
      have more : (state.consumer.counted ⟨state.lastTag + 1, nowTimestamp, true⟩).receivedMessageCount =
        state.consumer.receivedMessageCount + 1 := rfl
      simp only [withinLimit, Bool.or_eq_true, beq_iff_eq, decide_eq_true_eq] at *
      omega
    have epoch := polled.counted before
    rw [epoch] at actions acked
    constructor
    · constructor
      · exact (messageHandled_channel nowTimestamp).trans polled.own
      · rw [messageHandled_received, messageHandled_epoch, polled.received]
      · intro _
        rw [messageHandled_epoch, actions, ← List.append_assoc, receivedIn_silent reports, receivedIn_append,
          receivedIn_processed, epoch]
      · intro acks
        rw [actions, tag, acked, ← List.append_assoc]
        exact ((polled.facts acks).received acks).silent reports
    · refine ⟨_, actions, fun latest => ?_⟩
      rw [allOnDelivering_append, allOnDelivering_processed, allOnDelivering_silent _ reports, Bool.and_self]

theorem Polled.basicGot (polled : Polled parameters state) :
    Polled parameters (state.message parameters nowTimestamp) ∧
      ∃ work, (state.message parameters nowTimestamp).consumer.actions = state.consumer.actions ++ work ∧
        ∀ latest, allOnDelivering latest work = true := by
  have announced := polled.announced
  have quiet (latest : Option LatestMessage) :
      allOnDelivering latest [.delivered state.ch (state.lastTag + 1)] = true := rfl
  unfold PollingConsumer.message maybeHandleMessage
  dsimp only
  split
  · exact ⟨announced.skipped, _, rfl, quiet⟩
  · obtain ⟨after, work, actions, right⟩ := announced.handled nowTimestamp
    refine ⟨after, [.delivered state.ch (state.lastTag + 1)] ++ work, actions.trans ?_, fun latest => ?_⟩
    · exact List.append_assoc _ _ _
    · exact right _

end

theorem Polled.poll (polled : Polled parameters state) (result : GetResult) :
    Polled parameters (state.poll parameters result) ∧
      ∃ work, (state.poll parameters result).consumer.actions = state.consumer.actions ++ work ∧
        ∀ latest, allOnDelivering latest work = true := by
  have still {after : PollingConsumer} (same : after.consumer.actions = state.consumer.actions) :
      ∃ work, after.consumer.actions = state.consumer.actions ++ work ∧
        ∀ latest, allOnDelivering latest work = true :=
    ⟨[], same.trans (List.append_nil _).symm, fun _ => rfl⟩
  unfold PollingConsumer.poll
  split
  · exact ⟨polled, still rfl⟩
  · cases result with
    | message nowTimestamp =>
      obtain ⟨after, work⟩ := polled.basicGot nowTimestamp
      exact ⟨⟨after.own, after.received, after.counted, after.facts⟩, work⟩
    | empty | alreadyClosed | recovering =>
      exact ⟨⟨polled.own, polled.received, polled.counted, polled.facts⟩, still rfl⟩
    | failed closes created =>
      refine ⟨?_, still ?_⟩
      · cases created with
        | false =>
          cases closes <;> exact ⟨polled.own, polled.received, polled.counted, polled.facts⟩
        | true =>
          have moved (acks : parameters.autoAck = false) := (polled.facts acks).moved (state.ch + 1) 0
            (Nat.le_succ _) fun same => absurd same (Nat.succ_ne_self _).symm
          cases closes <;> exact ⟨polled.own, polled.received, polled.counted, moved⟩
      · cases created <;> cases closes <;> rfl

theorem finalAckDue_of_acksAtExit (acks : acksAtExit parameters check consumer = true) :
    consumer.finalAckDue parameters = true ∧ (exiting parameters check consumer).isSome = true := by
  rcases maybeStop_cases parameters check consumer with ⟨_, _, _, _, stays⟩ | ⟨_, _, _, _, stopped, _⟩
  · rw [acksAtExit, stays] at acks
    cases acks
  · rw [acksAtExit, stopped, Option.any_some] at acks
    rw [stopped]
    simp only [sendsFinalAck, Bool.and_eq_true] at acks
    exact ⟨acks.1, rfl⟩

theorem finalAckDue_iff : consumer.finalAckDue parameters = true ↔
    parameters.autoAck = false ∧ consumer.lastAckedDeliveryTag < consumer.lastDeliveryTag := by
  simp [finalAckDue, ConsumerParameters.ackEnabled]

theorem Polled.exitCheck (polled : Polled parameters state)
    (checked : Checked parameters check state.consumer after) :
    Polled parameters { state with consumer := after } := by
  obtain ⟨reports, actions, only⟩ := checked.actions
  have silent := reports_silent only
  have count : receivedIn after.actions = receivedIn state.consumer.actions := by
    rw [actions, receivedIn_silent silent, receivedIn_append]
    unfold finalFrames
    split
    · split <;> rfl
    · rfl
  constructor
  · exact checked.channel.trans polled.own
  · show after.receivedMessageCount = after.epochMessageCount
    rw [checked.receivedMessageCount, checked.epochMessageCount, polled.received]
  · intro within
    show after.epochMessageCount = receivedIn after.actions
    rw [count, checked.epochMessageCount]
    apply polled.counted
    have same : after.withinLimit parameters = state.consumer.withinLimit parameters := by
      rw [withinLimit, checked.receivedMessageCount]
      rfl
    rw [← same]
    exact within
  · intro acks
    show Facts parameters after.actions after.lastDeliveryTag after.lastAckedDeliveryTag state.ch state.lastTag
    rw [actions, checked.lastDeliveryTag, checked.lastAckedDeliveryTag]
    apply Facts.silent _ silent
    split
    · rename_i sent
      have due := (finalAckDue_iff.mp (finalAckDue_of_acksAtExit sent).1).2
      exact (polled.facts acks).finalAck due polled.own rfl
    · rw [List.append_nil]
      exact polled.facts acks

theorem finalAckRight_of_not_due (never : ¬ consumer.finalAckDue parameters = true)
    (none : ¬ HoldsUnsettled parameters consumer.actions) : FinalAckRight parameters consumer := by
  constructor
  · exact iff_of_false never none
  · intro due
    exact absurd due never

/-- The guard compares tags of two channels, and knows no final ack. -/
theorem Polled.right_iff (polled : Polled parameters state) :
    FinalAckRight parameters state.consumer ↔ LastIsOwn parameters state.consumer := by
  cases acks : parameters.autoAck with
  | true =>
    apply iff_of_true _ (.inl acks)
    apply finalAckRight_of_not_due
    · rw [finalAckDue_iff, acks]
      exact fun due => Bool.noConfusion due.1
    · rintro ⟨manual, _⟩
      rw [acks] at manual
      cases manual
  | false =>
    have facts := polled.facts acks
    by_cases ends : BatchEnds parameters.multiAckEvery (receivedIn state.consumer.actions)
    · apply iff_of_true _ (.inr (.inl ends))
      obtain ⟨same, settled⟩ := facts.ended ends
      apply finalAckRight_of_not_due
      · rw [finalAckDue_iff]
        rintro ⟨_, due⟩
        omega
      · rintro ⟨_, message, latest, some⟩
        exact some (settled message latest)
    · obtain ⟨message, latest, below, framed, owed⟩ := facts.begun ends
      have tag : state.consumer.lastDeliveryTag = message.deliveryTag := by
        rw [facts.last, show latestMessage state.consumer.actions = some message from latest]
        rfl
      have only {other : LatestMessage} (member : other ∈ latestMessage state.consumer.actions) : other = message :=
        Option.some_inj.mp (member.symm.trans latest)
      constructor
      · intro right
        refine .inr (.inr fun other member => ?_)
        rw [only member, polled.own]
        by_cases first : message.channel = 0
        · refine ⟨first, Bool.eq_false_iff.mpr fun again => ?_⟩
          have due := finalAckDue_iff.mpr ⟨acks, tag ▸ below first⟩
          obtain ⟨_, other, member, some⟩ := right.guard.mp due
          rw [only member] at some
          exact some (framed ⟨first, again⟩)
        · have holds : HoldsUnsettled parameters state.consumer.actions :=
            ⟨acks, message, latest, List.ne_nil_of_mem (owed fun both => first both.1)⟩
          have same := right.channel (right.guard.mpr holds) message latest
          exact absurd (same.trans polled.own) first
      · rintro (automatic | ended | own)
        · rw [acks] at automatic
          cases automatic
        · exact absurd ended ends
        · obtain ⟨first, fresh⟩ := own message latest
          rw [polled.own] at first
          have holds : HoldsUnsettled parameters state.consumer.actions := by
            refine ⟨acks, message, latest, List.ne_nil_of_mem (owed fun both => ?_)⟩
            rw [fresh] at both
            cases both.2
          constructor
          · exact iff_of_true (finalAckDue_iff.mpr ⟨acks, tag ▸ below first⟩) holds
          · intro _ other member
            rw [only member, polled.own]
            exact first

theorem polled_append (events : List PollingEvent) (event : PollingEvent) :
    polled parameters queueNames (events ++ [event]) =
      (polled parameters queueNames events).handle parameters event := List.foldl_concat ..

theorem polled_polled (parameters : ConsumerParameters) (queueNames : List String) (events : List PollingEvent) :
    Polled parameters (polled parameters queueNames events) := by
  induction events using List.reverseRecOn with
  | nil => exact start_polled
  | append_singleton events event ih =>
    rw [polled_append]
    cases event with
    | poll result => exact (ih.poll result).1
    | exitCheck check => exact ih.exitCheck (maybeStop_checked parameters check _)

theorem eachStop_append {holds : Consumer → Prop} {events : List PollingEvent} {event : PollingEvent} :
    EachStop parameters holds queueNames (events ++ [event]) ↔
      EachStop parameters holds queueNames events ∧ ∀ check, event = .exitCheck check →
        (exiting parameters check (polled parameters queueNames events).consumer).isSome = true →
        holds (polled parameters queueNames events).consumer := eachStep_append

theorem finalFrames_onDelivering (polled : Polled parameters state)
    (due : state.consumer.finalAckDue parameters = true) (right : FinalAckRight parameters state.consumer) :
    allOnDelivering (latestMessage state.consumer.actions) (finalFrames parameters state.consumer) = true := by
  obtain ⟨acks, message, latest, _⟩ := right.guard.mp due
  have channel := right.channel due message latest
  have tag : state.consumer.lastDeliveryTag = message.deliveryTag := by
    rw [(polled.facts acks).last, show latestMessage state.consumer.actions = some message from latest]
    rfl
  rw [show latestMessage state.consumer.actions = some message from latest]
  unfold finalFrames
  split <;> simp [allOnDelivering, onDelivering, LatestMessage.next, channel, tag]

theorem frames_of_guards {events : List PollingEvent}
    (guards : EachStop parameters (FinalAckRight parameters) queueNames events) :
    allOnDelivering none (polled parameters queueNames events).consumer.actions = true := by
  induction events using List.reverseRecOn with
  | nil => rfl
  | append_singleton events event ih =>
    obtain ⟨earlier, last⟩ := eachStop_append.mp guards
    have invariant := polled_polled parameters queueNames events
    rw [polled_append]
    cases event with
    | poll result =>
      obtain ⟨_, work, actions, right⟩ := invariant.poll result
      rw [PollingConsumer.handle, actions, allOnDelivering_append, ih earlier, right]
      rfl
    | exitCheck check =>
      obtain ⟨reports, actions, only⟩ :=
        (maybeStop_checked parameters check (polled parameters queueNames events).consumer).actions
      show allOnDelivering none (maybeStopIfNoActivityOrQueueEmpty _ _ _).actions = true
      rw [actions, allOnDelivering_append, allOnDelivering_append, ih earlier,
        allOnDelivering_silent _ (reports_silent only), Bool.and_true, Bool.true_and]
      split
      · rename_i sent
        obtain ⟨due, stops⟩ := finalAckDue_of_acksAtExit sent
        exact finalFrames_onDelivering invariant due (last check rfl stops)
      · rfl

/-- A polling consumer sends its final ack on its first channel, for the tag of whatever channel. -/
theorem settles_on_delivering_iff (parameters : ConsumerParameters) (queueNames : List String)
    (events : List PollingEvent) :
    SettlesOnDelivering parameters queueNames events ↔
      EachStop parameters (LastIsOwn parameters) queueNames events := by
  have guards : EachStop parameters (FinalAckRight parameters) queueNames events ↔
      EachStop parameters (LastIsOwn parameters) queueNames events := by
    have right (earlier : List PollingEvent) := (polled_polled parameters queueNames earlier).right_iff
    constructor
    · intro each earlier event begins check same stops
      exact (right earlier).mp (each earlier event begins check same stops)
    · intro each earlier event begins check same stops
      exact (right earlier).mpr (each earlier event begins check same stops)
  rw [← guards]
  constructor
  · intro settles
    exact settles.guards
  · intro right
    exact ⟨frames_of_guards right, right⟩

def pollingParameters : ConsumerParameters := ⟨0, false, 2, true, false, 0, .idle, false, true⟩

def replacedChannel : List PollingEvent :=
  [.poll (.message 0), .poll (.message 0), .poll (.failed true true), .poll (.message 0)]

/-- The tag of the third message is below that of the last ack, so the check leaves it unsettled. -/
theorem left_on_other_channel :
    ¬ ∀ (parameters : ConsumerParameters) (queueNames : List String) (events : List PollingEvent),
      SettlesOnDelivering parameters queueNames events := by
  intro always
  have guards := (always pollingParameters ["queue"]
    (replacedChannel ++ [.exitCheck ⟨2000000000, fun _ => none⟩])).guards
  have right := (eachStop_append.mp guards).2 _ rfl (by decide)
  have holds : HoldsUnsettled pollingParameters
      (polled pollingParameters ["queue"] replacedChannel).consumer.actions :=
    ⟨rfl, ⟨1, 1, false⟩, by decide, by decide⟩
  have due := right.guard.mpr holds
  revert due
  decide

end PerfTestProof
