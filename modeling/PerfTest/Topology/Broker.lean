import Mathlib.Logic.Function.Basic
import PerfTest.Systems.Programs
import PerfTest.Topology.Recording

namespace PerfTestModel

open Systems

abbrev Connection := ℕ

structure Channel where
  connection : Connection
  number : ℕ
  deriving DecidableEq, Repr

inductive BrokerOperation where
  | exchangeDeclare (exchange type : String) (durable : Bool)
  | exchangeDeclarePassive (exchange : String)
  | queueDeclare (queue : String) (durable exclusive autoDelete : Bool) (arguments : Arguments)
  | queueDeclarePassive (queue : String)
  | queueBind (queue exchange routingKey : String)
  | queueDelete (queue : String)
  | txSelect
  | confirmSelect
  | basicQos (prefetchCount : ℤ) (global : Bool)
  | channelClose
  deriving DecidableEq, Repr

def BrokerOperation.isPassive : BrokerOperation → Bool
  | .exchangeDeclarePassive _ | .queueDeclarePassive _ => true
  | _ => false

inductive Reply where
  | ok (generatedName : String)
  | failed (failure : Failure)
  deriving DecidableEq, Repr

structure Performed where
  channel : Channel
  operation : BrokerOperation
  reply : Reply
  deriving DecidableEq, Repr

def Performed.failed (event : Performed) : Bool :=
  match event.reply with
  | .ok _ => false
  | .failed _ => true

/-- What the broker and the network answer, given all that was done before: to an operation, and to
    the request for a channel of a number not used before. -/
structure Broker where
  reply : List Performed → BrokerOperation → Reply
  opens : List Performed → ℕ → Bool

def Broker.AlwaysOpens (broker : Broker) : Prop :=
  ∀ performed number, broker.opens performed number = true

def Broker.ChecksQueues (broker : Broker) : Prop :=
  ∀ performed queue, broker.reply performed (.queueDeclarePassive queue) ≠ .failed .runtimeException

/-- Nothing fails but the passive declaration of what does not exist. -/
structure Broker.Accepts (broker : Broker) : Prop where
  opens : broker.AlwaysOpens
  refuses : ∀ performed operation failure, broker.reply performed operation = .failed failure →
    failure = .notFound ∧ operation.isPassive = true

structure World where
  records : QueueRef → RecordedQueue
  recordCount : ℕ
  performed : List Performed
  channelCount : ℕ
  closed : List Connection

namespace World

def opened (world : World) : World := { world with channelCount := world.channelCount + 1 }

def did (world : World) (event : Performed) : World :=
  { world with performed := world.performed ++ [event] }

def renamed (world : World) (record : QueueRef) (newName : String) : World :=
  { world with
    records := Function.update world.records record { world.records record with name := newName } }

end World

abbrev Call := Program World Failure

def createChannel (broker : Broker) (connection : Connection) : Call Channel := do
  let world ← get
  set world.opened
  if connection ∈ world.closed then throw Failure.runtimeException
  if broker.opens world.performed world.channelCount then pure (Channel.mk connection world.channelCount)
  else throw Failure.ioException

def perform (broker : Broker) (operation : BrokerOperation) (channel : Channel) : Call String := do
  let world ← get
  let reply := broker.reply world.performed operation
  set (world.did ⟨channel, operation, reply⟩)
  match reply with
  | .ok generatedName => pure generatedName
  | .failed failure => throw failure

def performEach (broker : Broker) (operations : List BrokerOperation) (channel : Channel) : Call Unit :=
  forM operations fun operation => do
    let _ ← perform broker operation channel

def declaredQueue (requested generatedName : String) : String :=
  if requested = "" then generatedName else requested

def queueDeclare (broker : Broker) (queue : String) (durable exclusive autoDelete : Bool)
    (arguments : Arguments) (channel : Channel) : Call String := do
  let generatedName ← perform broker (.queueDeclare queue durable exclusive autoDelete arguments) channel
  pure (declaredQueue queue generatedName)

/-- The names that are not to be declared are logged, and declared all the same. -/
def exchangeDeclare (broker : Broker) (exchange type : String) (channel : Channel) : Call Unit := do
  let _ ← perform broker (.exchangeDeclare exchange type true) channel

def queueBind (broker : Broker) (queue exchange routingKey : String) (channel : Channel) : Call Unit := do
  let _ ← perform broker (.queueBind queue exchange routingKey) channel

def readRecord (record : QueueRef) : Call RecordedQueue := do
  let world ← get
  pure (world.records record)

def rename (record : QueueRef) (newName : String) : Call Unit :=
  modify fun world => world.renamed record newName

/-- Closing a closed connection is an AlreadyClosedException. -/
def closeConnection (connection : Connection) : Call Unit := do
  let world ← get
  set { world with closed := world.closed ++ [connection] }
  if connection ∈ world.closed then throw Failure.runtimeException

end PerfTestModel
