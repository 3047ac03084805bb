import PerfTest.Systems.Runs
import PerfTest.Systems.Tasks
import PerfTest.Topology.Recovery

namespace PerfTestModel

open Systems

namespace RecordedQueue

def isQuorum (queue : RecordedQueue) : Bool := queue.arguments.lookup "x-queue-type" == some (.text "quorum")

def isStream (queue : RecordedQueue) : Bool := queue.arguments.lookup "x-queue-type" == some (.text "stream")

def isClassic (queue : RecordedQueue) : Bool := !queue.isQuorum && !queue.isStream

end RecordedQueue

/-- How far an action that subscribes again has come. The names are those that it carries along. -/
inductive Stage where
  | cancelled
  | recovering
  | checking (queueName : String)
  | subscribing (queueName : String)
  | recreating (queueName : String)
  | subscribingToRecord (queueName : String)
  | resubscription (queueName : String) (retryCount : ℕ)
  | resubscribing (queueName : String)
  deriving DecidableEq, Repr

/-- An action for a subscription, and the entries that a recovery has still to go through. The queue is
    given by the name that it had when it was first consumed. -/
structure Action where
  consumerTag : String
  qName : String
  stage : Stage
  rest : List (String × String)
  deriving DecidableEq, Repr

namespace Action

def reaches (action : Action) (stage : Stage) : Action := { action with stage }

def ofEntries : List (String × String) → List Action
  | [] => []
  | (consumerTag, qName) :: rest => [⟨consumerTag, qName, .recovering, rest⟩]

def following (action : Action) : List Action := ofEntries action.rest

end Action

structure Subscriptions where
  records : QueueRef → RecordedQueue
  consumerTagBranchMap : NameMap String
  live : List String
  actions : List Action
  recoveriesDue : ℕ

def Subscriptions.start (records : QueueRef → RecordedQueue) (consumerTagBranchMap : NameMap String) :
    Subscriptions :=
  ⟨records, consumerTagBranchMap, consumerTagBranchMap.keys, [], 0⟩

inductive Answer where
  | continues
  | queueExists (found : Bool)
  | recreated (broker : Broker)
  | subscribed
  | fails

inductive ConsumerEvent where
  | handleCancel (consumerTag : String)
  | reconnected
  | recover
  | redeclared (record : QueueRef) (generatedName : String)
  | advance (index : ℕ) (answer : Answer)

def maxRetry : ℕ := 600 / 5

section

variable (recording : TopologyRecording) (connection : Connection)

def queueName (records : QueueRef → RecordedQueue) (queue : String) : String :=
  recording.recoveredName records queue

def queueMayBeDown (records : QueueRef → RecordedQueue) (qName : String) : Bool :=
  match recording.queues.lookup qName with
  | some queueRecord =>
    (records queueRecord).isClassic && (records queueRecord).durable && recording.cluster
  | none => false

def recreatedRecords (broker : Broker) (records : QueueRef → RecordedQueue) (qName : String) :
    QueueRef → RecordedQueue :=
  (recording.recoverQueueAndBindings broker connection (recording.queues.lookup qName)
    ⟨records, 0, [], 0, []⟩).2.records

def retry (action : Action) (queueName : String) (retryCount : ℕ) : List Action :=
  if retryCount ≤ maxRetry then [action.reaches (.resubscription queueName retryCount)] else []

/-- What the step of an action changes: the records, the tag it subscribed with if it did, and the
    actions that take its place. -/
structure Progress where
  records : QueueRef → RecordedQueue
  subscribed : List String
  successors : List Action

def proceed (records : QueueRef → RecordedQueue) (action : Action) : Stage → Answer → Option Progress
  | .cancelled, .continues => some ⟨records, [], [action.reaches (.checking action.qName)]⟩
  | .recovering, .continues =>
    some ⟨records, [], [action.reaches (.checking (queueName recording records action.qName))]⟩
  | .checking name, .queueExists true =>
    some ⟨records, [], [action.reaches
      (if queueMayBeDown recording records action.qName then .subscribing name else .subscribingToRecord name)]⟩
  | .checking name, .queueExists false => some ⟨records, [], [action.reaches (.recreating name)]⟩
  | .recreating name, .recreated broker =>
    some ⟨recreatedRecords recording connection broker records action.qName, [],
      if queueMayBeDown recording records action.qName then
        ⟨action.consumerTag, action.qName, .resubscription name 0, []⟩ :: action.following
      else [action.reaches (.subscribingToRecord name)]⟩
  | .resubscription name _, .queueExists true => some ⟨records, [], [action.reaches (.resubscribing name)]⟩
  | .resubscription name retryCount, .queueExists false =>
    some ⟨records, [], retry action name (retryCount + 1)⟩
  | .subscribing _, .subscribed | .subscribingToRecord _, .subscribed | .resubscribing _, .subscribed =>
    some ⟨records, [action.consumerTag], action.following⟩
  | .checking _, .fails | .resubscription _ _, .fails | .subscribing _, .fails | .subscribingToRecord _, .fails
  | .resubscribing _, .fails => some ⟨records, [], action.following⟩
  | _, _ => none

/-- A cancelled tag that is not in the map is only reported. -/
def cancelActions (consumerTagBranchMap : NameMap String) (consumerTag : String) : List Action :=
  match consumerTagBranchMap.lookup consumerTag with
  | some qName => [⟨consumerTag, qName, .cancelled, []⟩]
  | none => []

def redeclaredRecords (records : QueueRef → RecordedQueue) (record : QueueRef) (generatedName : String) :
    QueueRef → RecordedQueue :=
  Function.update records record { records record with
    name := declaredQueue (TopologyRecording.requestedName (records record)) generatedName }

/-- The broker cancels a subscription; the connection is back with a new channel, and then recovers;
    the record of a queue is changed by the recovery of some recording; an action goes on. -/
def Subscriptions.step (state : Subscriptions) : ConsumerEvent → Option Subscriptions
  | .handleCancel consumerTag =>
    if consumerTag ∈ state.live then
      some { state with
        live := state.live.erase consumerTag
        actions := state.actions ++ cancelActions state.consumerTagBranchMap consumerTag }
    else none
  | .reconnected => some { state with live := [], recoveriesDue := state.recoveriesDue + 1 }
  | .recover =>
    if state.recoveriesDue = 0 then none
    else some { state with
      actions := state.actions ++
        Action.ofEntries (state.consumerTagBranchMap.entries.map fun entry => (entry.1, entry.2))
      recoveriesDue := state.recoveriesDue - 1 }
  | .redeclared record generatedName =>
    some { state with records := redeclaredRecords state.records record generatedName }
  | .advance index answer =>
    match state.actions[index]? with
    | none => none
    | some action =>
      (proceed recording connection state.records action action.stage answer).map fun progress =>
        { state with
          records := progress.records
          live := progress.subscribed ++ state.live
          actions := replace state.actions index progress.successors }

structure Issue where
  qName : String
  queueName : String
  consumerTag : Option String
  deriving DecidableEq, Repr

def Action.issue (records : QueueRef → RecordedQueue) (action : Action) : Option Issue :=
  match action.stage with
  | .checking name | .resubscription name _ => some ⟨action.qName, name, none⟩
  | .subscribing name | .resubscribing name => some ⟨action.qName, name, some action.consumerTag⟩
  | .subscribingToRecord name =>
    match recording.queues.lookup action.qName with
    | some queueRecord => some ⟨action.qName, (records queueRecord).name, some action.consumerTag⟩
    | none => some ⟨action.qName, name, some action.consumerTag⟩
  | .cancelled | .recovering | .recreating _ => none

def Subscriptions.issued (state : Subscriptions) : ConsumerEvent → Option Issue
  | .advance index _ => (state.actions[index]?).bind (Action.issue recording state.records)
  | _ => none

end

end PerfTestModel
