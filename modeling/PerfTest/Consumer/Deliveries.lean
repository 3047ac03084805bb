import PerfTest.Producer.Timestamps
import PerfTest.Systems.Settlements

namespace PerfTestModel

open Systems

inductive ExitWhen where
  | never
  | empty
  | idle
  deriving DecidableEq, Repr

inductive ConsumerStopReason where
  | reachedMessageLimit
  | idle
  | queueEmpty
  deriving DecidableEq, Repr

def ConsumerStopReason.text : ConsumerStopReason → String
  | .reachedMessageLimit => "Consumer reached message limit"
  | .idle => "Consumer is idle for more than 1 second"
  | .queueEmpty => "Consumer queue(s) empty"

/-- A channel that the broker closed triggers a recovery, so writes to it only throw when there is no
    recovery. -/
structure ConsumerParameters where
  txSize : ℤ
  autoAck : Bool
  multiAckEvery : ℤ
  requeue : Bool
  nack : Bool
  msgLimit : ℤ
  exitWhen : ExitWhen
  useMillis : Bool
  recoveryEnabled : Bool
  deriving DecidableEq, Repr

namespace ConsumerParameters

def ackEnabled (parameters : ConsumerParameters) : Bool := !parameters.autoAck

def transactionEnabled (parameters : ConsumerParameters) : Bool := parameters.txSize != 0

end ConsumerParameters

inductive ConsumerAction where
  | delivered (channel deliveryTag : ℕ)
  | received (channel deliveryTag : ℕ)
  | basicAck (channel deliveryTag : ℕ) (multiple : Bool)
  | basicNack (channel deliveryTag : ℕ) (multiple requeue : Bool)
  | txCommit (channel : ℕ)
  | countDown (reason : ConsumerStopReason)
  deriving DecidableEq, Repr

structure Consumer where
  channel : ℕ
  queueNames : List String
  receivedMessageCount : ℕ
  epochMessageCount : ℕ
  lastActivityTimestamp : ℤ
  lastDeliveryTag : ℕ
  lastAckedDeliveryTag : ℕ
  completed : Bool
  closedChannels : List ℕ
  actions : List ConsumerAction
  deriving DecidableEq, Repr

/-- A message whose timestamp can be extracted, the time at which it comes, and whether the simulated latency
    passes without an interruption. Messages of any content are received by a `ReceivingConsumer`. -/
structure Delivery where
  deliveryTag : ℕ
  nowTimestamp : ℤ
  simulateLatency : Bool
  deriving DecidableEq, Repr

structure ExitCheck where
  currentTime : ℤ
  messageCount : String → Option ℕ

namespace Consumer

def start (channel : ℕ) (queueNames : List String) : Consumer :=
  ⟨channel, queueNames, 0, 0, -1, 0, 0, false, [], []⟩

def did (consumer : Consumer) (action : ConsumerAction) : Consumer :=
  { consumer with actions := consumer.actions ++ [action] }

section

variable (parameters : ConsumerParameters)

def ackNackOperation (channel deliveryTag : ℕ) (multiple : Bool) : ConsumerAction :=
  if parameters.nack then .basicNack channel deliveryTag multiple parameters.requeue
  else .basicAck channel deliveryTag multiple

def ackDue (currentMessageCount : ℕ) : Option Bool :=
  if parameters.ackEnabled then
    if parameters.multiAckEvery = 0 then some false
    else if (currentMessageCount : ℤ).tmod parameters.multiAckEvery = 0 then some true
    else none
  else none

def ackIfNecessary (channel deliveryTag currentMessageCount : ℕ) (consumer : Consumer) : Consumer :=
  match ackDue parameters currentMessageCount with
  | some multiple =>
    { consumer.did (ackNackOperation parameters channel deliveryTag multiple) with
      lastAckedDeliveryTag := deliveryTag }
  | none => consumer

def commitDue (currentMessageCount : ℕ) : Bool :=
  parameters.transactionEnabled && (currentMessageCount : ℤ).tmod parameters.txSize == 0

def commitTransactionIfNecessary (channel currentMessageCount : ℕ) (consumer : Consumer) : Consumer :=
  if commitDue parameters currentMessageCount then consumer.did (.txCommit channel) else consumer

def countDown (reason : ConsumerStopReason) (consumer : Consumer) : Consumer :=
  if consumer.completed then consumer else { consumer.did (.countDown reason) with completed := true }

/-- The part of `handleMessage` for a message within the limit, once its timestamp has been extracted. The
    extraction, which may throw, is in `ReceivingConsumer.handleMessage`. -/
def process (channel : ℕ) (delivery : Delivery) (consumer : Consumer) : Consumer :=
  let consumer := consumer.did (.received channel delivery.deliveryTag)
  if delivery.simulateLatency then
    let acked := consumer.ackIfNecessary parameters channel delivery.deliveryTag consumer.epochMessageCount
    let committed := acked.commitTransactionIfNecessary parameters channel consumer.epochMessageCount
    { committed with lastDeliveryTag := delivery.deliveryTag }
  else consumer

def counted (delivery : Delivery) (consumer : Consumer) : Consumer :=
  { consumer with
    receivedMessageCount := consumer.receivedMessageCount + 1
    epochMessageCount := consumer.epochMessageCount + 1
    lastActivityTimestamp := delivery.nowTimestamp }

def withinLimit (consumer : Consumer) : Bool :=
  parameters.msgLimit == 0 || consumer.receivedMessageCount ≤ parameters.msgLimit

/-- Not quite the inverse of `withinLimit`. -/
def limitReached (consumer : Consumer) : Bool :=
  parameters.msgLimit != 0 && parameters.msgLimit ≤ consumer.receivedMessageCount

def handleMessage (channel : ℕ) (delivery : Delivery) (consumer : Consumer) : Consumer :=
  let counted := consumer.counted delivery
  let handled := if counted.withinLimit parameters then counted.process parameters channel delivery else counted
  if counted.limitReached parameters then handled.countDown .reachedMessageLimit else handled

def maybeHandleMessage (channel : ℕ) (delivery : Delivery) (consumer : Consumer) : Consumer :=
  if channel ∈ consumer.closedChannels then consumer else consumer.handleMessage parameters channel delivery

def handleDelivery (delivery : Delivery) (consumer : Consumer) : Consumer :=
  (consumer.did (.delivered consumer.channel delivery.deliveryTag)).maybeHandleMessage parameters
    consumer.channel delivery

def finalAckDue (consumer : Consumer) : Bool :=
  parameters.ackEnabled && consumer.lastAckedDeliveryTag < consumer.lastDeliveryTag

def ackedBeforeExit (consumer : Consumer) : Consumer :=
  let acked := consumer.did (.basicAck consumer.channel consumer.lastDeliveryTag true)
  if parameters.transactionEnabled then acked.did (.txCommit consumer.channel) else acked

/-- Nothing when the write throws. -/
def maybeAckCommitBeforeExit (consumer : Consumer) : Option Consumer :=
  if consumer.finalAckDue parameters then
    if consumer.channel ∈ consumer.closedChannels then
      if parameters.recoveryEnabled then some consumer else none
    else some (consumer.ackedBeforeExit parameters)
  else some consumer

/-- Whether some queue is empty, and whether the channel is open at the end. The declaration of a queue
    on a closed channel throws. -/
def checkQueues (messageCount : String → Option ℕ) : List String → Bool → Option (Bool × Bool)
  | [], open_ => some (false, open_)
  | _ :: _, false => none
  | queue :: queues, true =>
    match messageCount queue with
    | some count => (checkQueues messageCount queues true).map fun found => (count == 0 || found.1, found.2)
    | none => checkQueues messageCount queues false

def idleMillis (check : ExitCheck) (consumer : Consumer) : ℤ :=
  let difference := TimestampProvider.getDifference check.currentTime consumer.lastActivityTimestamp
  if parameters.useMillis then difference else difference.tdiv 1000000

def isIdle (check : ExitCheck) (consumer : Consumer) : Bool :=
  1000 < idleMillis parameters check consumer

def exitWith (reason : ConsumerStopReason) (consumer : Consumer) : Consumer :=
  match consumer.maybeAckCommitBeforeExit parameters with
  | some acked => acked.countDown reason
  | none => consumer

def closeChannel (consumer : Consumer) : Consumer :=
  { consumer with closedChannels := consumer.channel :: consumer.closedChannels }

/-- The consumer after the declarations of an empty check, and whether it is to stop. -/
def checkedQueues (check : ExitCheck) (consumer : Consumer) : Consumer × Bool :=
  match checkQueues check.messageCount consumer.queueNames (consumer.channel ∉ consumer.closedChannels) with
  | some (empty, true) => (consumer, empty)
  | some (empty, false) => (consumer.closeChannel, empty)
  | none => (consumer.closeChannel, false)

def maybeStopIfNoActivityOrQueueEmpty (check : ExitCheck) (consumer : Consumer) : Consumer :=
  if parameters.exitWhen = .never then consumer
  -- this avoids not terminating a consumer that never consumes
  else if consumer.lastActivityTimestamp = -1 then { consumer with lastActivityTimestamp := check.currentTime }
  else if consumer.isIdle parameters check then
    if parameters.exitWhen = .idle then consumer.exitWith parameters .idle
    else
      let checked := consumer.checkedQueues check
      if checked.2 then checked.1.exitWith parameters .queueEmpty else checked.1
  else consumer

end

end Consumer

inductive DeliveryEvent where
  | delivery (delivery : Delivery)
  | exitCheck (check : ExitCheck)

namespace Consumer

def handle (parameters : ConsumerParameters) (consumer : Consumer) : DeliveryEvent → Consumer
  | .delivery delivery => consumer.handleDelivery parameters delivery
  | .exitCheck check => consumer.maybeStopIfNoActivityOrQueueEmpty parameters check

def consumed (parameters : ConsumerParameters) (channel : ℕ) (queueNames : List String)
    (events : List DeliveryEvent) : Consumer :=
  events.foldl (handle parameters) (start channel queueNames)

end Consumer

end PerfTestModel
