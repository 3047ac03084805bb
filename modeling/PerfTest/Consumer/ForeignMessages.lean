import PerfTest.Consumer.Deliveries
import PerfTest.Messages.TimeSequence

namespace PerfTestModel

open Java

structure ReceivedMetrics where
  received : ℕ
  receivedTotal : ℕ
  latencies : List ℤ
  deriving DecidableEq, Repr

def ReceivedMetrics.add (latency : ℤ) (metrics : ReceivedMetrics) : ReceivedMetrics where
  received := metrics.received + 1
  receivedTotal := metrics.receivedTotal + 1
  latencies := if 0 ≤ latency then metrics.latencies ++ [latency] else metrics.latencies

structure ReceivedContent where
  properties : BasicProperties
  body : List Byte
  deriving DecidableEq

structure ReceivingConsumer where
  consumer : Consumer
  metrics : ReceivedMetrics
  deriving DecidableEq, Repr

namespace ReceivingConsumer

def handleMessage (parameters : ConsumerParameters) (isTimestampInHeader : Bool) (channel : ℕ)
    (delivery : Delivery) (content : ReceivedContent) (state : ReceivingConsumer) :
    Except ExtractionException ReceivingConsumer :=
  let handled := state.consumer.handleMessage parameters channel delivery
  if (state.consumer.counted delivery).withinLimit parameters then
    match timestampExtractor isTimestampInHeader content.properties content.body with
    | .ok messageTimestamp =>
      let diffTime := TimestampProvider.getDifference delivery.nowTimestamp messageTimestamp
      .ok ⟨handled, state.metrics.add diffTime⟩
    | .error exception => .error exception
  else .ok ⟨handled, state.metrics⟩

def start (channel : ℕ) (queueNames : List String) : ReceivingConsumer := ⟨.start channel queueNames, ⟨0, 0, []⟩⟩

def did (action : ConsumerAction) (state : ReceivingConsumer) : ReceivingConsumer :=
  { state with consumer := state.consumer.did action }

end ReceivingConsumer

structure ReceivedMessage extends Delivery where
  content : ReceivedContent
  deriving DecidableEq

/-- A consumer that is registered once. The client's exception handler decides whether an exception of
    `handleDelivery` closes the channel. With basic.get the exception ends the thread, so no message follows. -/
structure Registration where
  parameters : ConsumerParameters
  isTimestampInHeader : Bool
  closesChannel : Bool
  channel : ℕ
  queueNames : List String
  deriving DecidableEq, Repr

namespace Registration

/-- An exception of the extractor comes when the message has been counted. -/
def handleDelivery (registration : Registration) (state : ReceivingConsumer) (message : ReceivedMessage) :
    ReceivingConsumer :=
  let delivered := state.did (.delivered state.consumer.channel message.deliveryTag)
  if state.consumer.channel ∈ state.consumer.closedChannels then delivered
  else
    match delivered.handleMessage registration.parameters registration.isTimestampInHeader state.consumer.channel
        message.toDelivery message.content with
    | .ok handled => handled
    | .error _ =>
      let counted := delivered.consumer.counted message.toDelivery
      { delivered with consumer := if registration.closesChannel then counted.closeChannel else counted }

def consumed (registration : Registration) (messages : List ReceivedMessage) : ReceivingConsumer :=
  messages.foldl registration.handleDelivery (.start registration.channel registration.queueNames)

end Registration

end PerfTestModel

namespace PerfTestProof

open PerfTestModel Java

def carriedTimestamp (isTimestampInHeader : Bool) (content : ReceivedContent) : Option ℤ :=
  if isTimestampInHeader then
    match content.properties.headers.bind (·.lookup "timestamp") with
    | some (.long timestamp) => some timestamp
    | none | some .null | some (.text _) | some (.flag _) | some (.other _) => none
  else if content.body.length < 12 then none
  else some (BitVec.ofNat 64 (ofBigEndian ((content.body.drop 4).take 8))).toInt

structure HandlesContent (parameters : ConsumerParameters) (isTimestampInHeader : Bool) (channel : ℕ)
    (delivery : Delivery) (content : ReceivedContent) (state after : ReceivingConsumer) : Prop where
  completes : state.handleMessage parameters isTimestampInHeader channel delivery content = .ok after
  counted : after.metrics.received = state.metrics.received + 1 ∧
    after.metrics.receivedTotal = state.metrics.receivedTotal + 1
  unusable : carriedTimestamp isTimestampInHeader content = none →
    timestampExtractor isTimestampInHeader content.properties content.body = .ok TimestampProvider.incorrectValue ∧
      TimestampProvider.getDifference delivery.nowTimestamp TimestampProvider.incorrectValue = -1 ∧
      after.metrics.latencies = state.metrics.latencies
  settled : ∀ other otherAfter, (carriedTimestamp isTimestampInHeader other).isSome →
    state.handleMessage parameters isTimestampInHeader channel delivery other = .ok otherAfter →
      after.consumer = otherAfter.consumer

def Extractable (isTimestampInHeader : Bool) (content : ReceivedContent) : Bool :=
  !isTimestampInHeader ||
    match content.properties.headers with
    | none => false
    | some headers =>
      match headers.lookup "timestamp" with
      | none | some .null | some (.long _) => true
      | some (.text _) | some (.flag _) | some (.other _) => false

/-- The extractor yields the timestamp that is carried or the incorrect value, or throws. -/
theorem timestampExtractor_eq (isTimestampInHeader : Bool) (content : ReceivedContent) :
    (Extractable isTimestampInHeader content = true ∧
      timestampExtractor isTimestampInHeader content.properties content.body =
        .ok ((carriedTimestamp isTimestampInHeader content).getD TimestampProvider.incorrectValue)) ∨
    (Extractable isTimestampInHeader content = false ∧
      ∃ exception, timestampExtractor isTimestampInHeader content.properties content.body = .error exception) := by
  cases isTimestampInHeader with
  | false =>
    refine Or.inl ⟨rfl, (timestampExtractor_body content.properties content.body).trans ?_⟩
    unfold carriedTimestamp
    rw [if_neg Bool.false_ne_true]
    split <;> rfl
  | true =>
    unfold Extractable carriedTimestamp timestampExtractor
    rw [if_pos rfl, if_pos rfl]
    cases content.properties.headers with
    | none => exact Or.inr ⟨rfl, .nullPointer, rfl⟩
    | some headers =>
      dsimp only [MessageProperties.timestampHeader, Option.bind_some]
      rcases headers.lookup "timestamp" with _ | _ | _ | _ | _ | _
      · exact Or.inl ⟨rfl, rfl⟩
      · exact Or.inl ⟨rfl, rfl⟩
      · exact Or.inr ⟨rfl, .classCast, rfl⟩
      · exact Or.inr ⟨rfl, .classCast, rfl⟩
      · exact Or.inl ⟨rfl, rfl⟩
      · exact Or.inr ⟨rfl, .classCast, rfl⟩

theorem getDifference_incorrect (now : ℤ) :
    TimestampProvider.getDifference now TimestampProvider.incorrectValue = -1 := if_pos rfl

section

variable {parameters : ConsumerParameters} {isTimestampInHeader : Bool} {channel : ℕ} {delivery : Delivery}
  {content : ReceivedContent} {state after : ReceivingConsumer}

/-- Whatever its content, a message that is handled is settled as the deliveries of the consumer are. -/
theorem handled_consumer
    (handled : state.handleMessage parameters isTimestampInHeader channel delivery content = .ok after) :
    after.consumer = state.consumer.handleMessage parameters channel delivery := by
  unfold ReceivingConsumer.handleMessage at handled
  dsimp only at handled
  split at handled
  · split at handled
    · exact congrArg ReceivingConsumer.consumer (Except.ok.inj handled).symm
    · cases handled
  · exact congrArg ReceivingConsumer.consumer (Except.ok.inj handled).symm

theorem handleMessage_returns (parameters : ConsumerParameters) (isTimestampInHeader : Bool) (channel : ℕ)
    (delivery : Delivery) (content : ReceivedContent) (state : ReceivingConsumer)
    (extractable : (state.consumer.counted delivery).withinLimit parameters = true →
      Extractable isTimestampInHeader content = true) :
    ∃ after, state.handleMessage parameters isTimestampInHeader channel delivery content = .ok after := by
  unfold ReceivingConsumer.handleMessage
  dsimp only
  split
  · rename_i within
    rcases timestampExtractor_eq isTimestampInHeader content with ⟨_, extracted⟩ | ⟨notExtractable, _⟩
    · rw [extracted]
      exact ⟨_, rfl⟩
    · rw [extractable within] at notExtractable
      cases notExtractable
  · exact ⟨_, rfl⟩

theorem handleMessage_throws (isTimestampInHeader : Bool) (channel : ℕ) (state : ReceivingConsumer)
    (within : (state.consumer.counted delivery).withinLimit parameters = true)
    (notExtractable : Extractable isTimestampInHeader content = false) :
    ∃ exception, state.handleMessage parameters isTimestampInHeader channel delivery content = .error exception := by
  unfold ReceivingConsumer.handleMessage
  dsimp only
  rcases timestampExtractor_eq isTimestampInHeader content with ⟨extractable, _⟩ | ⟨_, exception, thrown⟩
  · rw [notExtractable] at extractable
    cases extractable
  · rw [if_pos within, thrown]
    exact ⟨exception, rfl⟩

theorem within_unlimited (unlimited : parameters.msgLimit = 0) (consumer : Consumer) :
    consumer.withinLimit parameters = true := by
  unfold Consumer.withinLimit
  rw [unlimited]
  rfl

theorem handled_unlimited (unlimited : parameters.msgLimit = 0) {timestamp : ℤ}
    (extracted : timestampExtractor isTimestampInHeader content.properties content.body = .ok timestamp) :
    state.handleMessage parameters isTimestampInHeader channel delivery content =
      .ok ⟨state.consumer.handleMessage parameters channel delivery,
        state.metrics.add (TimestampProvider.getDifference delivery.nowTimestamp timestamp)⟩ := by
  unfold ReceivingConsumer.handleMessage
  dsimp only
  rw [if_pos (within_unlimited unlimited _), extracted]

end

/-- A consumer without a limit handles a message exactly if the extractor can look for its timestamp. -/
theorem foreign_handled_iff (parameters : ConsumerParameters) (unlimited : parameters.msgLimit = 0)
    (isTimestampInHeader : Bool) (channel : ℕ) (delivery : Delivery) (content : ReceivedContent)
    (state : ReceivingConsumer) :
    (∃ after, HandlesContent parameters isTimestampInHeader channel delivery content state after) ↔
      Extractable isTimestampInHeader content = true := by
  rcases timestampExtractor_eq isTimestampInHeader content with
    ⟨extractable, extracted⟩ | ⟨notExtractable, exception, thrown⟩
  · refine iff_of_true ⟨_, handled_unlimited unlimited extracted, ⟨rfl, rfl⟩, ?_, ?_⟩ extractable
    · intro none
      rw [none] at extracted ⊢
      refine ⟨extracted, getDifference_incorrect _, ?_⟩
      rw [Option.getD_none, getDifference_incorrect]
      rfl
    · intro other otherAfter _ handled
      exact (handled_consumer handled).symm
  · refine iff_of_false ?_ (notExtractable ▸ Bool.false_ne_true)
    rintro ⟨after, handles⟩
    have completes := handles.completes
    unfold ReceivingConsumer.handleMessage at completes
    dsimp only at completes
    rw [if_pos (within_unlimited unlimited _), thrown] at completes
    cases completes

def ackingParameters : ConsumerParameters := ⟨0, false, 0, false, false, 0, .never, true, true⟩

def startedReceiving : ReceivingConsumer := .start 0 ["orders"]

/-- A short body of another publisher, with headers that have no timestamp. -/
theorem foreign_header_handled : ∃ after,
    HandlesContent ackingParameters true 0 ⟨1, 1000, true⟩
      ⟨{ BasicProperties.empty with headers := some (AList.singleton "region" (.text "eu")) }, [1, 2, 3]⟩
      startedReceiving after :=
  (foreign_handled_iff ackingParameters rfl true 0 ⟨1, 1000, true⟩ _ startedReceiving).mpr (by decide)

/-- A message without headers throws before it is acked, where timestamps are sent in headers. -/
theorem missing_headers_throw :
    startedReceiving.handleMessage ackingParameters true 0 ⟨1, 1000, true⟩ ⟨BasicProperties.empty, []⟩ =
        .error .nullPointer ∧
      ¬ ∃ after, HandlesContent ackingParameters true 0 ⟨1, 1000, true⟩ ⟨BasicProperties.empty, []⟩ startedReceiving
        after := by
  refine ⟨rfl, ?_⟩
  rintro ⟨after, handles⟩
  cases handles.completes

end PerfTestProof
