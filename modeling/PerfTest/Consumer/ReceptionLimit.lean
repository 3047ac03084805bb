import PerfTest.Consumer.CleanStop
import PerfTest.Consumer.ForeignMessages

namespace PerfTestProof

open PerfTestModel Consumer

def isSettling : ConsumerAction → Bool
  | .basicAck .. | .basicNack .. | .txCommit _ => true
  | .delivered .. | .received .. | .countDown _ => false

def isCountDown : ConsumerAction → Bool
  | .countDown _ => true
  | .delivered .. | .received .. | .basicAck .. | .basicNack .. | .txCommit _ => false

def actionsAfter (registration : Registration) (messages : List ReceivedMessage) : List ConsumerAction :=
  (registration.consumed messages).consumer.actions

structure KeepsLimit (registration : Registration) (messages : List ReceivedMessage) : Prop where
  received : (receivedIn (actionsAfter registration messages) : ℤ) =
    min registration.parameters.msgLimit messages.length
  unsettled : ∀ earlier message, earlier ++ [message] <+: messages →
    registration.parameters.msgLimit ≤ earlier.length →
    (actionsAfter registration (earlier ++ [message])).filter isSettling =
      (actionsAfter registration earlier).filter isSettling
  countsDown : ∀ earlier, earlier <+: messages → (actionsAfter registration earlier).filter isCountDown =
    if registration.parameters.msgLimit ≤ earlier.length then [.countDown .reachedMessageLimit] else []

structure AtCount (parameters : ConsumerParameters) (count : ℕ) (consumer : Consumer) : Prop where
  opened : consumer.closedChannels = []
  counted : consumer.receivedMessageCount = count
  completed : consumer.completed = decide (parameters.msgLimit ≤ count)
  received : (receivedIn consumer.actions : ℤ) = min parameters.msgLimit count
  countsDown : consumer.actions.filter isCountDown =
    if parameters.msgLimit ≤ count then [.countDown .reachedMessageLimit] else []

section

variable {parameters : ConsumerParameters} {consumer : Consumer} {delivery : Delivery} {count channel deliveryTag : ℕ}

theorem frames_settle {action : ConsumerAction} (frame : action ∈ frames parameters channel deliveryTag count) :
    isSettling action = true := by
  obtain ⟨multiple, -, rfl⟩ := List.mem_map.mp frame
  unfold ackNackOperation
  split <;> rfl

theorem commits_settle {action : ConsumerAction} (commit : action ∈ commits parameters channel count) :
    isSettling action = true := by
  unfold commits at commit
  split at commit
  · rw [List.mem_singleton.mp commit]
    rfl
  · cases commit

theorem handleDelivery_counted (opened : consumer.channel ∉ consumer.closedChannels) (delivery : Delivery) :
    (consumer.handleDelivery parameters delivery).receivedMessageCount = consumer.receivedMessageCount + 1 := by
  unfold handleDelivery maybeHandleMessage
  rw [if_neg (by exact opened), handleMessage_eq]
  rfl

theorem counted_withinLimit (positive : 0 < parameters.msgLimit) (consumer : Consumer) (delivery : Delivery) :
    (consumer.counted delivery).withinLimit parameters =
      decide ((consumer.receivedMessageCount : ℤ) + 1 ≤ parameters.msgLimit) := by
  unfold withinLimit Consumer.counted
  dsimp only
  rw [beq_false_of_ne positive.ne', Bool.false_or]
  rfl

/-- Beyond the limit nothing is processed; up to it a message is received, and then only settled. -/
theorem processing_settles (parameters : ConsumerParameters) (channel : ℕ) (delivery : Delivery) (consumer : Consumer) :
    ∃ settling : List ConsumerAction, (∀ action ∈ settling, isSettling action = true) ∧
      processing parameters channel delivery consumer =
        if (consumer.counted delivery).withinLimit parameters then
          .received channel delivery.deliveryTag :: settling
        else [] := by
  unfold processing
  cases delivery.simulateLatency with
  | false => exact ⟨[], fun _ inside => absurd inside List.not_mem_nil, rfl⟩
  | true => exact ⟨_, fun action inside => (List.mem_append.mp inside).elim frames_settle commits_settle, rfl⟩

theorem settling_not_others {settling : List ConsumerAction} (only : ∀ action ∈ settling, isSettling action = true) :
    receivedIn settling = 0 ∧ settling.filter isCountDown = [] := by
  constructor
  · refine List.countP_eq_zero.mpr fun action inside received => ?_
    have settles := only action inside
    cases action <;> first | exact absurd received Bool.false_ne_true | exact absurd settles Bool.false_ne_true
  · refine List.filter_eq_nil_iff.mpr fun action inside counts => ?_
    have settles := only action inside
    cases action <;> first | exact absurd counts Bool.false_ne_true | exact absurd settles Bool.false_ne_true

/-- A delivery on an open channel is received up to the limit. -/
theorem receivedIn_handleDelivery (opened : consumer.channel ∉ consumer.closedChannels) (delivery : Delivery) :
    receivedIn (consumer.handleDelivery parameters delivery).actions = receivedIn consumer.actions +
      if (consumer.counted delivery).withinLimit parameters then 1 else 0 := by
  obtain ⟨settling, only, processed⟩ := processing_settles parameters consumer.channel delivery consumer
  obtain ⟨notReceived, -⟩ := settling_not_others only
  have stopped : receivedIn (if (consumer.counted delivery).limitReached parameters then
      report .reachedMessageLimit consumer else []) = 0 := by
    unfold report
    split
    · split <;> rfl
    · rfl
  rw [(handleDelivery_delivered parameters delivery consumer).actions, if_neg opened, receivedIn_append,
    receivedIn_delivered, handled, receivedIn_append, stopped, processed, Nat.add_zero]
  split
  · exact congrArg (_ + ·) ((List.countP_cons_of_pos rfl).trans (congrArg (· + 1) notReceived))
  · rfl

/-- What a delivery adds, by its number: a reception up to the limit, and a count down at the limit. -/
theorem AtCount.added (at_ : AtCount parameters count consumer) (positive : 0 < parameters.msgLimit)
    (delivery : Delivery) :
    ∃ settling : List ConsumerAction, (∀ action ∈ settling, isSettling action = true) ∧
      (consumer.handleDelivery parameters delivery).actions = consumer.actions ++
        (.delivered consumer.channel delivery.deliveryTag ::
          ((if (count : ℤ) + 1 ≤ parameters.msgLimit then
            .received consumer.channel delivery.deliveryTag :: settling
          else []) ++
          if parameters.msgLimit = count + 1 then [.countDown .reachedMessageLimit] else [])) := by
  have delivered := handleDelivery_delivered parameters delivery consumer
  obtain ⟨settling, only, processed⟩ := processing_settles parameters consumer.channel delivery consumer
  have within := counted_withinLimit positive consumer delivery
  rw [at_.counted] at within
  have reached : (consumer.counted delivery).limitReached parameters = decide (parameters.msgLimit ≤ count + 1) := by
    unfold limitReached Consumer.counted
    dsimp only
    rw [at_.counted, bne_iff_ne.mpr positive.ne', Bool.true_and]
    rfl
  have reports : (if decide (parameters.msgLimit ≤ (count : ℤ) + 1) = true then report .reachedMessageLimit consumer
      else []) = if parameters.msgLimit = count + 1 then [.countDown .reachedMessageLimit] else [] := by
    unfold report
    rw [at_.completed]
    rcases lt_trichotomy parameters.msgLimit (count + 1) with below | equal | above
    · rw [if_pos (decide_eq_true below.le), if_pos (decide_eq_true (by omega)), if_neg below.ne]
    · rw [if_pos (decide_eq_true equal.le), if_neg (by rw [decide_eq_true_eq]; omega), if_pos equal]
    · rw [if_neg (by rw [decide_eq_true_eq]; omega), if_neg above.ne']
  refine ⟨settling, only, ?_⟩
  rw [delivered.actions, at_.opened, if_neg List.not_mem_nil, handled, processed, within, reached, reports]
  simp only [decide_eq_true_eq]

theorem AtCount.delivered (at_ : AtCount parameters count consumer) (positive : 0 < parameters.msgLimit)
    (delivery : Delivery) : AtCount parameters (count + 1) (consumer.handleDelivery parameters delivery) := by
  have delivered := handleDelivery_delivered parameters delivery consumer
  have opened : consumer.channel ∉ consumer.closedChannels := at_.opened ▸ List.not_mem_nil
  obtain ⟨settling, only, actions⟩ := at_.added positive delivery
  obtain ⟨-, notCountDown⟩ := settling_not_others only
  refine ⟨delivered.closedChannels.trans at_.opened, ?_, ?_, ?_, ?_⟩
  · rw [handleDelivery_counted opened, at_.counted]
  · rw [delivered.completed opened]
    unfold limitReached Consumer.counted
    dsimp only
    rw [at_.counted, at_.completed, bne_iff_ne.mpr positive.ne', Bool.true_and, ← Bool.decide_or]
    exact decide_eq_decide.mpr ⟨fun limit => by omega, Or.inl⟩
  · rw [receivedIn_handleDelivery opened delivery, counted_withinLimit positive, at_.counted, Nat.cast_add,
      at_.received]
    simp only [decide_eq_true_eq]
    split <;> omega
  · rw [actions, List.filter_append, at_.countsDown, List.filter_cons_of_neg Bool.false_ne_true, List.filter_append]
    have none : (if (count : ℤ) + 1 ≤ parameters.msgLimit then
        ConsumerAction.received consumer.channel delivery.deliveryTag :: settling else []).filter isCountDown = [] := by
      split
      · rw [List.filter_cons_of_neg Bool.false_ne_true, notCountDown]
      · rfl
    rw [none, List.nil_append]
    rcases lt_trichotomy parameters.msgLimit (count + 1) with below | equal | above
    · rw [if_pos (by omega), if_neg below.ne, if_pos (by omega)]
      rfl
    · rw [if_neg (by omega), if_pos equal, if_pos (by omega)]
      rfl
    · rw [if_neg (by omega), if_neg above.ne', if_neg (by omega)]
      rfl

theorem AtCount.unsettled (at_ : AtCount parameters count consumer) (positive : 0 < parameters.msgLimit)
    (beyond : parameters.msgLimit ≤ count) (delivery : Delivery) :
    (consumer.handleDelivery parameters delivery).actions.filter isSettling = consumer.actions.filter isSettling := by
  obtain ⟨settling, -, actions⟩ := at_.added positive delivery
  rw [actions, if_neg (by omega), List.filter_append, List.filter_cons_of_neg Bool.false_ne_true, List.nil_append,
    if_neg (by omega), List.filter_nil, List.append_nil]

end

theorem atCount_consumed {parameters : ConsumerParameters} (positive : 0 < parameters.msgLimit) (channel : ℕ)
    (queueNames : List String) (deliveries : List Delivery) :
    AtCount parameters deliveries.length (consumed parameters channel queueNames (deliveries.map .delivery)) := by
  induction deliveries using List.reverseRecOn with
  | nil =>
    refine ⟨rfl, rfl, (decide_eq_false positive.not_ge).symm, (min_eq_right positive.le).symm, ?_⟩
    exact (if_neg positive.not_ge).symm
  | append_singleton deliveries delivery ih =>
    rw [List.map_append, List.map_singleton, consumed_append, List.length_append, List.length_singleton]
    exact ih.delivered positive delivery

section

variable {registration : Registration} {messages : List ReceivedMessage} {message : ReceivedMessage}
  {state : ReceivingConsumer}

theorem consumed_concat (registration : Registration) (messages : List ReceivedMessage) (message : ReceivedMessage) :
    registration.consumed (messages ++ [message]) =
      registration.handleDelivery (registration.consumed messages) message := List.foldl_concat ..

def extracts (registration : Registration) (message : ReceivedMessage) : Bool :=
  Extractable registration.isTimestampInHeader message.content

def limited (registration : Registration) (messages : List ReceivedMessage) : List ReceivedMessage :=
  messages.take registration.parameters.msgLimit.toNat

structure OnlyCounted (state after : ReceivingConsumer) (message : ReceivedMessage) : Prop where
  actions : after.consumer.actions =
    state.consumer.actions ++ [.delivered state.consumer.channel message.deliveryTag]
  counted : after.consumer.receivedMessageCount = state.consumer.receivedMessageCount + 1
  channel : after.consumer.channel = state.consumer.channel
  closedChannels : state.consumer.closedChannels ⊆ after.consumer.closedChannels

/-- A message goes the way of the deliveries, unless it is within the limit and its timestamp cannot be extracted. -/
theorem handleDelivery_cases (registration : Registration) (state : ReceivingConsumer) (message : ReceivedMessage) :
    ((state.consumer.channel ∉ state.consumer.closedChannels →
        (state.consumer.counted message.toDelivery).withinLimit registration.parameters = true →
        extracts registration message = true) ∧
      (registration.handleDelivery state message).consumer =
        state.consumer.handleDelivery registration.parameters message.toDelivery) ∨
    (extracts registration message = false ∧
      (state.consumer.counted message.toDelivery).withinLimit registration.parameters = true ∧
      OnlyCounted state (registration.handleDelivery state message) message) := by
  unfold Registration.handleDelivery Consumer.handleDelivery maybeHandleMessage
  dsimp only
  split
  · rename_i closed
    exact .inl ⟨fun opened => absurd closed opened, (if_pos closed).symm⟩
  · rename_i opened
    by_cases extractable :
        (state.consumer.counted message.toDelivery).withinLimit registration.parameters = true →
          extracts registration message = true
    · obtain ⟨after, completes⟩ := handleMessage_returns registration.parameters registration.isTimestampInHeader
        state.consumer.channel message.toDelivery message.content
        (state.did (.delivered state.consumer.channel message.deliveryTag)) extractable
      rw [completes]
      exact .inl ⟨fun _ => extractable, (handled_consumer completes).trans (if_neg opened).symm⟩
    · obtain ⟨within, notExtractable⟩ := Classical.not_imp.mp extractable
      rw [Bool.not_eq_true] at notExtractable
      obtain ⟨exception, thrown⟩ := handleMessage_throws registration.isTimestampInHeader state.consumer.channel
        (state.did (.delivered state.consumer.channel message.deliveryTag)) within notExtractable
      rw [thrown]
      refine .inr ⟨notExtractable, within, ?_⟩
      dsimp only
      cases registration.closesChannel with
      | true => exact ⟨rfl, rfl, rfl, List.subset_cons_self _ _⟩
      | false => exact ⟨rfl, rfl, rfl, List.Subset.refl _⟩

structure AtMost (registration : Registration) (messages : List ReceivedMessage) (state : ReceivingConsumer) :
    Prop where
  counted : state.consumer.channel ∉ state.consumer.closedChannels →
    state.consumer.receivedMessageCount = messages.length
  received : receivedIn state.consumer.actions ≤ (limited registration messages).countP (extracts registration)

theorem limited_concat (messages : List ReceivedMessage) (message : ReceivedMessage) :
    limited registration (messages ++ [message]) = limited registration messages ++
      if (messages.length : ℤ) < registration.parameters.msgLimit then [message] else [] := by
  unfold limited
  rw [List.take_append]
  congr 1
  split
  · exact List.take_of_length_le (by rw [List.length_singleton]; omega)
  · rw [show registration.parameters.msgLimit.toNat - messages.length = 0 by omega, List.take_zero]

theorem AtMost.delivered (atMost : AtMost registration messages state)
    (positive : 0 < registration.parameters.msgLimit) (message : ReceivedMessage) :
    AtMost registration (messages ++ [message]) (registration.handleDelivery state message) := by
  have grown : (limited registration messages).countP (extracts registration) ≤
      (limited registration (messages ++ [message])).countP (extracts registration) := by
    rw [limited_concat, List.countP_append]
    exact Nat.le_add_right _ _
  rcases handleDelivery_cases registration state message with ⟨extractable, same⟩ | ⟨_, _, only⟩
  · have delivered := handleDelivery_delivered registration.parameters message.toDelivery state.consumer
    by_cases closed : state.consumer.channel ∈ state.consumer.closedChannels
    · refine ⟨fun opened => ?_, ?_⟩
      · rw [same, delivered.channel, delivered.closedChannels] at opened
        exact absurd closed opened
      · rw [same, delivered.actions, if_pos closed, receivedIn_append, receivedIn_delivered]
        exact atMost.received.trans grown
    · have counted := atMost.counted closed
      refine ⟨fun _ => ?_, ?_⟩
      · rw [same, handleDelivery_counted closed, counted, List.length_append, List.length_singleton]
      · rw [same, receivedIn_handleDelivery closed message.toDelivery]
        by_cases within : (state.consumer.counted message.toDelivery).withinLimit registration.parameters = true
        · have isExtractable := extractable closed within
          rw [counted_withinLimit positive, decide_eq_true_eq, counted] at within
          rw [if_pos (by rw [counted_withinLimit positive, counted]; exact decide_eq_true within), limited_concat,
            if_pos (by omega), List.countP_append, List.countP_singleton, if_pos isExtractable]
          exact Nat.add_le_add_right atMost.received 1
        · rw [if_neg within]
          exact atMost.received.trans grown
  · refine ⟨fun opened => ?_, ?_⟩
    · rw [only.counted, List.length_append, List.length_singleton,
        atMost.counted fun closed => opened (only.channel ▸ only.closedChannels closed)]
    · rw [only.actions, receivedIn_append, receivedIn_delivered]
      exact atMost.received.trans grown

theorem atMost_consumed (positive : 0 < registration.parameters.msgLimit) (messages : List ReceivedMessage) :
    AtMost registration messages (registration.consumed messages) := by
  induction messages using List.reverseRecOn with
  | nil => exact ⟨fun _ => rfl, Nat.zero_le _⟩
  | append_singleton messages message ih =>
    rw [consumed_concat]
    exact ih.delivered positive message

/-- As long as timestamps can be extracted, the messages are handled as the deliveries of a consumer are. -/
theorem consumed_extractable (positive : 0 < registration.parameters.msgLimit)
    (extractable : ∀ message ∈ limited registration messages, extracts registration message = true) :
    (registration.consumed messages).consumer = Consumer.consumed registration.parameters registration.channel
      registration.queueNames ((messages.map (·.toDelivery)).map .delivery) := by
  induction messages using List.reverseRecOn with
  | nil => rfl
  | append_singleton messages message ih =>
    rw [limited_concat, List.forall_mem_append] at extractable
    have before := ih extractable.1
    have at_ := atCount_consumed positive registration.channel registration.queueNames (messages.map (·.toDelivery))
    rw [← before, List.length_map] at at_
    rw [consumed_concat, List.map_append, List.map_append, List.map_singleton, List.map_singleton, consumed_append,
      ← before]
    rcases handleDelivery_cases registration (registration.consumed messages) message with
      ⟨_, same⟩ | ⟨notExtractable, within, _⟩
    · exact same
    · rw [counted_withinLimit positive, decide_eq_true_eq, at_.counted] at within
      rw [if_pos (by omega), List.forall_mem_singleton, notExtractable] at extractable
      cases extractable.2

theorem limited_of_shorter {earlier : List ReceivedMessage} (isPrefix : earlier <+: messages)
    (member : message ∈ limited registration earlier) : message ∈ limited registration messages := by
  obtain ⟨later, rfl⟩ := isPrefix
  unfold limited at member ⊢
  rw [List.take_append]
  exact List.mem_append_left _ member

theorem keepsLimit_of_extractable (positive : 0 < registration.parameters.msgLimit)
    (extractable : ∀ message ∈ limited registration messages, extracts registration message = true) :
    KeepsLimit registration messages := by
  have at_ (earlier : List ReceivedMessage) (isPrefix : earlier <+: messages) :
      AtCount registration.parameters earlier.length (registration.consumed earlier).consumer := by
    rw [consumed_extractable positive fun message member => extractable message (limited_of_shorter isPrefix member),
      ← List.length_map]
    exact atCount_consumed positive _ _ _
  refine ⟨(at_ messages (List.prefix_refl _)).received, ?_, fun earlier isPrefix => (at_ earlier isPrefix).countsDown⟩
  intro earlier message isPrefix beyond
  have before : earlier <+: messages := (List.prefix_append _ _).trans isPrefix
  have delivered : (registration.consumed (earlier ++ [message])).consumer =
      (registration.consumed earlier).consumer.handleDelivery registration.parameters message.toDelivery := by
    rw [consumed_extractable positive fun other member => extractable other (limited_of_shorter isPrefix member),
      List.map_append, List.map_append, List.map_singleton, List.map_singleton, consumed_append,
      consumed_extractable positive fun other member => extractable other (limited_of_shorter before member)]
    rfl
  unfold actionsAfter
  rw [delivered]
  exact (at_ earlier before).unsettled positive beyond message.toDelivery

/-- A consumer keeps its limit exactly if the timestamp of each message within the limit can be extracted. -/
theorem reception_limit_iff (registration : Registration) (positive : 0 < registration.parameters.msgLimit)
    (messages : List ReceivedMessage) :
    KeepsLimit registration messages ↔
      ∀ message ∈ messages.take registration.parameters.msgLimit.toNat,
        Extractable registration.isTimestampInHeader message.content = true := by
  refine ⟨fun keeps message member => ?_, keepsLimit_of_extractable positive⟩
  by_contra notExtractable
  have some_ : (limited registration messages).countP (extracts registration) ≠
      (limited registration messages).length := by
    rw [ne_eq, List.countP_eq_length]
    exact fun all => notExtractable (all message member)
  have fewer := lt_of_le_of_ne List.countP_le_length some_
  have received := (atMost_consumed positive messages).received
  have all := keeps.received
  have size : (limited registration messages).length =
      min registration.parameters.msgLimit.toNat messages.length := List.length_take
  rw [size] at fewer
  unfold actionsAfter at all
  omega

end

def timedContent : ReceivedContent :=
  ⟨{ BasicProperties.empty with headers := some (AList.singleton "timestamp" (.long 5)) }, []⟩

/-- Four deliveries, a limit of two and acks for three messages at once. The third one has no headers. -/
theorem two_of_four_received :
    KeepsLimit ⟨⟨0, false, 3, false, false, 2, .never, true, true⟩, true, true, 0, ["orders"]⟩
      [⟨⟨1, 10, true⟩, timedContent⟩, ⟨⟨2, 20, true⟩, timedContent⟩, ⟨⟨3, 30, true⟩, ⟨BasicProperties.empty, []⟩⟩,
        ⟨⟨4, 40, true⟩, timedContent⟩] :=
  (reception_limit_iff _ (by decide) _).mpr (by decide)

/-- With a limit of one, a message without headers is neither received nor counted down for. -/
theorem limit_passed_over :
    actionsAfter ⟨⟨0, false, 0, false, false, 1, .never, true, true⟩, true, true, 0, ["orders"]⟩
        [⟨⟨1, 10, true⟩, ⟨BasicProperties.empty, []⟩⟩] = [.delivered 0 1] ∧
      ¬ ∀ (registration : Registration) (messages : List ReceivedMessage), 0 < registration.parameters.msgLimit →
        KeepsLimit registration messages := by
  refine ⟨rfl, fun always => ?_⟩
  have keeps := always ⟨⟨0, false, 0, false, false, 1, .never, true, true⟩, true, true, 0, ["orders"]⟩
    [⟨⟨1, 10, true⟩, ⟨BasicProperties.empty, []⟩⟩] (by decide)
  exact absurd keeps.received (by decide)

end PerfTestProof
