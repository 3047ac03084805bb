import PerfTest.Topology.Broker

namespace PerfTestModel

open Systems

namespace TopologyRecording

/-- Any failure is swallowed, and a new channel takes the place of the one it closed. -/
def reliableWrite (broker : Broker) (connection : Connection) (channel : Channel)
    (operation : Channel → Call Unit) : Call Channel :=
  tryCatch (do operation channel; pure channel) fun _ => createChannel broker connection

/-- The queue may still be around, under its name: it would not be renamed. -/
def isChecked (queue : RecordedQueue) : Bool :=
  queue.durable && queue.serverNamed && !queue.autoDelete && !queue.exclusive

/-- A former server-named queue has no consumer that would make it go away when polling. -/
def isFormerDeleted (polling : Bool) (queue : RecordedQueue) : Bool :=
  polling && queue.autoDelete && queue.serverNamed && !queue.exclusive

/-- Whether the queue is declared again, and the channel to use from there. -/
def checkQueue (broker : Broker) (channel : Channel) (queue : RecordedQueue) : Call (Channel × Bool) :=
  if isChecked queue then
    tryCatch (do let _ ← perform broker (.queueDeclarePassive queue.name) channel; pure (channel, false))
      fun failure =>
        if failure.isIOException then do
          let channel ← createChannel broker channel.connection
          pure (channel, true)
        else throw failure
  else pure (channel, true)

def requestedName (queue : RecordedQueue) : String := if queue.serverNamed then "" else queue.name

def redeclareQueue (broker : Broker) (record : QueueRef) (channel : Channel) : Call Unit := do
  let queue ← readRecord record
  let newName ← queueDeclare broker (requestedName queue) queue.durable queue.exclusive queue.autoDelete
    queue.arguments channel
  rename record newName

def redeclareIfNeeded (broker : Broker) (connection : Connection) (channel : Channel) (record : QueueRef)
    (redeclare : Bool) : Call Channel :=
  if redeclare then reliableWrite broker connection channel (redeclareQueue broker record)
  else pure channel

def deleteFormer (broker : Broker) (polling : Bool) (connection : Connection) (channel : Channel)
    (queue : RecordedQueue) : Call Channel :=
  if isFormerDeleted polling queue then
    reliableWrite broker connection channel fun channel => do
      let _ ← perform broker (.queueDelete queue.name) channel
  else pure channel

def recoverQueue (broker : Broker) (polling : Bool) (channel : Channel) (record : QueueRef) :
    Call Channel := do
  let connection := channel.connection
  let original ← readRecord record
  let (channel, redeclare) ← checkQueue broker channel original
  let channel ← redeclareIfNeeded broker connection channel record redeclare
  deleteFormer broker polling connection channel original

def recoverExchange (broker : Broker) (connection : Connection) (channel : Channel)
    (exchange : RecordedExchange) : Call Channel :=
  reliableWrite broker connection channel (exchangeDeclare broker exchange.name exchange.type)

def recoveredName (recording : TopologyRecording) (records : QueueRef → RecordedQueue) (queue : String) :
    String :=
  match recording.queues.lookup queue with
  | some record => (records record).name
  | none => queue

def recoverBinding (broker : Broker) (recording : TopologyRecording) (connection : Connection)
    (channel : Channel) (binding : RecordedBinding) : Call Channel := do
  let world ← get
  let queueName := recording.recoveredName world.records binding.queue
  reliableWrite broker connection channel
    (queueBind broker queueName binding.exchange
      (if binding.routingKeyIsQueue then queueName else binding.routingKey))

def recover (recording : TopologyRecording) (broker : Broker) (connection : Connection) : Call Unit :=
  tryCatch (do
    let channel ← createChannel broker connection
    let channel ← recording.queues.values.foldlM (recoverQueue broker recording.polling) channel
    let channel ← recording.exchanges.values.foldlM (recoverExchange broker connection) channel
    let _ ← recording.bindings.foldlM (recoverBinding broker recording connection) channel)
    fun _ => pure ()

/-- The caller may have no record for the queue, which is then a NullPointerException. -/
def recoverQueueAndBindings (recording : TopologyRecording) (broker : Broker) (connection : Connection)
    (queueRecord : Option QueueRef) : Call Unit :=
  tryCatch (do
    let channel ← createChannel broker connection
    match queueRecord with
    | some record =>
      let oldQueue ← readRecord record
      let channel ← recoverQueue broker recording.polling channel record
      let newQueue ← readRecord record
      forM (recording.getBindingsFor oldQueue.name) fun binding =>
        queueBind broker newQueue.name binding.exchange
          (if binding.routingKeyIsQueue then newQueue.name else binding.routingKey) channel
    | none => throw Failure.runtimeException)
    fun _ => pure ()

inductive RecoveryCall where
  | recover
  | recoverQueueAndBindings (queueRecord : Option QueueRef)
  deriving DecidableEq, Repr

def RecoveryCall.execute (broker : Broker) (recording : TopologyRecording) (connection : Connection) :
    RecoveryCall → Call Unit
  | .recover => recording.recover broker connection
  | .recoverQueueAndBindings queueRecord => recording.recoverQueueAndBindings broker connection queueRecord

end TopologyRecording

end PerfTestModel
