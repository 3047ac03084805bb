import Mathlib.Data.List.AList

namespace PerfTestModel

/-- How a call fails. `notFound` is the IOException of a channel that the broker closed with the
    reply code NOT_FOUND; `ioException` is any other one, `runtimeException` an unchecked one. -/
inductive Failure where
  | notFound
  | ioException
  | runtimeException
  deriving DecidableEq, Repr

def Failure.isIOException : Failure → Bool
  | .notFound | .ioException => true
  | .runtimeException => false

abbrev NameMap (Value : Type) := AList fun _ : String => Value

def NameMap.putIfAbsent {Value : Type} (map : NameMap Value) (name : String) (value : Value) :
    NameMap Value :=
  if name ∈ map then map else map.insert name value

def NameMap.values {Value : Type} (map : NameMap Value) : List Value := map.entries.map Sigma.snd

inductive Argument where
  | text (value : String)
  | number (value : ℤ)
  | flag (value : Bool)
  deriving DecidableEq, Repr

abbrev Arguments := List (String × Argument)

structure RecordedExchange where
  name : String
  type : String
  deriving DecidableEq, Repr

structure RecordedQueue where
  name : String
  durable : Bool
  exclusive : Bool
  autoDelete : Bool
  arguments : Arguments
  serverNamed : Bool
  deriving DecidableEq, Repr

structure RecordedBinding where
  queue : String
  exchange : String
  routingKey : String
  deriving DecidableEq, Repr

def RecordedBinding.routingKeyIsQueue (binding : RecordedBinding) : Bool :=
  binding.queue == binding.routingKey

/-- Recordings share the records of queues, whose names change, so they hold references. -/
abbrev QueueRef := ℕ

structure TopologyRecording where
  polling : Bool
  cluster : Bool
  exchanges : NameMap RecordedExchange
  queues : NameMap QueueRef
  bindings : List RecordedBinding
  children : List TopologyRecording

namespace TopologyRecording

def empty (polling cluster : Bool) : TopologyRecording := ⟨polling, cluster, ∅, ∅, [], []⟩

def child (recording : TopologyRecording) : TopologyRecording := empty recording.polling recording.cluster

def addChild (recording child : TopologyRecording) : TopologyRecording :=
  { recording with children := recording.children ++ [child] }

def recordExchange (recording : TopologyRecording) (name type : String) : TopologyRecording :=
  { recording with exchanges := recording.exchanges.putIfAbsent name ⟨name, type⟩ }

/-- The record is a new object, which is dropped when the name is taken. -/
def recordQueue (recording : TopologyRecording) (name : String) (record : QueueRef) : TopologyRecording :=
  { recording with queues := recording.queues.putIfAbsent name record }

def recordBinding (recording : TopologyRecording) (queue exchange routingKey : String) :
    TopologyRecording :=
  { recording with bindings := recording.bindings ++ [⟨queue, exchange, routingKey⟩] }

def getBindingsFor (recording : TopologyRecording) (queue : String) : List RecordedBinding :=
  recording.bindings.filter fun binding => binding.queue == queue

mutual

def lookupQueueInHierarchy (queue : String) : TopologyRecording → Option QueueRef
  | ⟨_, _, _, queues, _, children⟩ =>
    match queues.lookup queue with
    | some record => some record
    | none => lookupQueueInChildren queue children

def lookupQueueInChildren (queue : String) : List TopologyRecording → Option QueueRef
  | [] => none
  | child :: children =>
    match lookupQueueInHierarchy queue child with
    | some record => some record
    | none => lookupQueueInChildren queue children

end

/-- A ConcurrentHashMap takes no null, so the binding of an exchange that is not recorded here is a
    NullPointerException. -/
def subRecordBinding (recording client : TopologyRecording) (binding : RecordedBinding) :
    Except Failure TopologyRecording :=
  match recording.exchanges.lookup binding.exchange with
  | some exchange => .ok { client with
      bindings := client.bindings ++ [binding]
      exchanges := client.exchanges.insert binding.exchange exchange }
  | none => .error .runtimeException

def subRecordQueue (recording client : TopologyRecording) (queue : String) :
    Except Failure TopologyRecording :=
  match (recording.addChild client).lookupQueueInHierarchy queue with
  | some recordedQueue =>
    (recording.getBindingsFor queue).foldlM recording.subRecordBinding
      { client with queues := client.queues.putIfAbsent queue recordedQueue }
  | none => .error .runtimeException

def subRecording (recording : TopologyRecording) (queues : List String) :
    Except Failure TopologyRecording :=
  queues.foldlM recording.subRecordQueue recording.child

end TopologyRecording

end PerfTestModel
