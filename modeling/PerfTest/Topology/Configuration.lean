import PerfTest.Topology.Recovery

namespace PerfTestModel

open Systems

structure MulticastParams where
  exclusive : Bool
  autoDelete : Bool
  predeclared : Bool
  skipBindingQueues : Bool
  polling : Bool
  cluster : Bool
  exchangeName : String
  exchangeType : String
  queueArguments : Arguments
  consumerCount : ℕ
  consumerChannelCount : ℕ
  consumerTxSize : ℤ
  consumerPrefetch : ℤ
  channelPrefetch : ℤ
  deriving DecidableEq, Repr

/-- The fixed routing key is a random one when none was given. -/
inductive TopologyHandler where
  | fixedQueues (routingKey : String) (queueNames : List String)
  | sequence (queues : List String) (routingKey : Option String)
  deriving DecidableEq, Repr

structure CreatedConsumer where
  channel : Channel
  routingKey : String
  queueNames : List String
  topologyRecording : ℕ
  deriving DecidableEq, Repr

/-- What a run sets up before it starts its agents. The recordings that are handed out are children
    of one recording, told apart by their positions. -/
structure Setup where
  world : World
  topologyRecording : TopologyRecording
  connectionCache : NameMap Connection
  index : ℕ
  connectionCount : ℕ
  consumers : List CreatedConsumer

def Setup.init (params : MulticastParams) (world : World) : Setup :=
  ⟨world, .empty params.polling params.cluster, ∅, 0, 0, []⟩

def World.start : World := ⟨fun _ => ⟨"", false, false, false, [], false⟩, 0, [], 0, []⟩

abbrev Setting := Program Setup Failure

def onBroker {Value : Type} (call : Call Value) : Setting Value :=
  call.within Setup.world fun world setup => { setup with world }

structure TopologyHandlerResult where
  connection : Connection
  topologyRecording : ℕ
  configuredQueues : List String
  deriving DecidableEq, Repr

def newChild : Setting ℕ := do
  let setup ← get
  set { setup with
    topologyRecording := setup.topologyRecording.addChild setup.topologyRecording.child }
  pure setup.topologyRecording.children.length

def inChild (position : ℕ) (change : TopologyRecording → TopologyRecording) : Setting Unit :=
  modify fun setup =>
    { setup with topologyRecording :=
      { setup.topologyRecording with
        children := setup.topologyRecording.children.modify position change } }

def World.recorded (world : World) (queue : RecordedQueue) : World :=
  { world with
    records := Function.update world.records world.recordCount queue
    recordCount := world.recordCount + 1 }

def recordQueue (position : ℕ) (queue : RecordedQueue) : Setting Unit := do
  let setup ← get
  set { setup with world := setup.world.recorded queue }
  inChild position fun recording => recording.recordQueue queue.name setup.world.recordCount

namespace TopologyHandler

/-- The division by the size is an ArithmeticException when there is no queue. -/
def getQueueNamesForClient (queues : List String) : Setting (List String) := do
  let setup ← get
  match queues[setup.index % queues.length]? with
  | some queue => pure [queue]
  | none => throw Failure.runtimeException

def getRoutingKey : TopologyHandler → Setting String
  | .fixedQueues routingKey _ => pure routingKey
  | .sequence _ (some routingKey) => pure routingKey
  | .sequence queues none => do
    let names ← getQueueNamesForClient queues
    pure (names.headD "")

def next : TopologyHandler → Setting Unit
  | .fixedQueues .. => pure ()
  | .sequence .. => modify fun setup => { setup with index := setup.index + 1 }

def reset : TopologyHandler → Setting Unit
  | .fixedQueues .. => pure ()
  | .sequence .. => modify fun setup => { setup with index := 0 }

end TopologyHandler

def listToString (queues : List String) : String := "[" ++ String.intercalate ", " queues ++ "]"

/-- Server-named exclusive queues cannot share a connection. -/
def maybeUseCachedConnection (queues : List String) (connection : Connection) : Setting Connection := do
  if queues.isEmpty then pure connection
  else
    let setup ← get
    match setup.connectionCache.lookup (listToString queues) with
    | none =>
      set { setup with connectionCache := setup.connectionCache.insert (listToString queues) connection }
      pure connection
    | some connectionToUse =>
      -- with several channels for each consumer, both may be the same connection
      if connection ≠ connectionToUse then onBroker (closeConnection connection)
      pure connectionToUse

/-- A failure that is no NOT_FOUND is thrown again. -/
def existsAt (broker : Broker) (connection : Connection) (operation : BrokerOperation) : Call Bool :=
  tryCatch (do
    let channel ← createChannel broker connection
    let _ ← perform broker operation channel
    pure true)
    fun failure => if failure = .notFound then pure false else throw failure

/-- The default exchange exists, and those that cannot be created are taken to exist. -/
def exchangeExists (broker : Broker) (connection : Connection) (exchangeName : String) : Call Bool :=
  if exchangeName = "" ∨ "amq.".toList <+: exchangeName.toList then pure true
  else existsAt broker connection (.exchangeDeclarePassive exchangeName)

def queueExists (broker : Broker) (connection : Connection) (queueName : String) : Call Bool :=
  existsAt broker connection (.queueDeclarePassive queueName)

structure ConfigurationState where
  connection : Connection
  channel : Channel
  topologyRecording : ℕ
  generatedQueueNames : List String
  deriving DecidableEq, Repr

namespace ConfigurationState

def result (state : ConfigurationState) : TopologyHandlerResult :=
  ⟨state.connection, state.topologyRecording, state.generatedQueueNames⟩

def addQueue (qName : String) (state : ConfigurationState) : ConfigurationState :=
  { state with generatedQueueNames := state.generatedQueueNames ++ [qName] }

end ConfigurationState

section

variable (broker : Broker) (params : MulticastParams) (handler : TopologyHandler)

def openState (states : List ConfigurationState) (connection : Connection) :
    Setting (List ConfigurationState) := do
  let channel ← onBroker (createChannel broker connection)
  let topologyRecording ← newChild
  pure (states ++ [⟨connection, channel, topologyRecording, []⟩])

def declareExchange (state : ConfigurationState) : Setting Unit := do
  let found ← if params.predeclared then
      onBroker (exchangeExists broker state.connection params.exchangeName)
    else pure false
  if !found then
    onBroker (exchangeDeclare broker params.exchangeName params.exchangeType state.channel)
    inChild state.topologyRecording fun recording =>
      recording.recordExchange params.exchangeName params.exchangeType

/-- Non-durable non-exclusive queues are not supported by recent brokers. -/
def declareQueue (state : ConfigurationState) (qName : String) : Setting String := do
  let found ← if params.predeclared then onBroker (queueExists broker state.connection qName)
    else pure false
  if found then pure qName
  else
    let name ← onBroker (queueDeclare broker qName (!params.exclusive) params.exclusive params.autoDelete
      params.queueArguments state.channel)
    recordQueue state.topologyRecording
      ⟨name, !params.exclusive, params.exclusive, params.autoDelete, params.queueArguments, qName == ""⟩
    pure name

def bindsQueues : Bool :=
  params.exchangeName != "" && params.exchangeName != "amq.default" && !params.skipBindingQueues

def bindQueue (state : ConfigurationState) (qName : String) : Setting Unit :=
  if bindsQueues params then do
    let routingKey ← handler.getRoutingKey
    onBroker (queueBind broker qName params.exchangeName routingKey state.channel)
    inChild state.topologyRecording fun recording =>
      recording.recordBinding qName params.exchangeName routingKey
  else pure ()

def configureQueue (afterQueueConfigurationCallback : Setting Unit) (states : List ConfigurationState)
    (numbered : String × ℕ) : Setting (List ConfigurationState) :=
  match states[numbered.2 % states.length]? with
  | some state => do
    let qName ← declareQueue broker params state numbered.1
    bindQueue broker params handler state qName
    afterQueueConfigurationCallback
    pure (states.modify (numbered.2 % states.length) (ConfigurationState.addQueue qName))
  | none => throw Failure.runtimeException

/-- At least one queue is declared, unless they are there already. -/
def queuesToConfigure (queues : List String) : List String :=
  if !params.predeclared && queues.isEmpty then [""] else queues

def configureStates (afterQueueConfigurationCallback : Setting Unit) (queues : List String) :
    List ConfigurationState → Setting (List TopologyHandlerResult)
  | [] => throw Failure.runtimeException
  | firstState :: states => do
    declareExchange broker params firstState
    let configured ← (queuesToConfigure params queues).zipIdx.foldlM
      (configureQueue broker params handler afterQueueConfigurationCallback) (firstState :: states)
    pure (configured.map ConfigurationState.result)

def configureQueues (connections : List Connection) (queues : List String)
    (afterQueueConfigurationCallback : Setting Unit) : Setting (List TopologyHandlerResult) := do
  let states ← connections.foldlM (openState broker) []
  configureStates broker params handler afterQueueConfigurationCallback queues states

def firstResult : List TopologyHandlerResult → Setting TopologyHandlerResult
  | result :: _ => pure result
  | [] => throw Failure.runtimeException

def configureQueuesOver (connection : Connection) (queues : List String) :
    Setting TopologyHandlerResult := do
  let results ← configureQueues broker params handler [connection] queues (pure ())
  firstResult results

def subRecordingOf (queues : List String) : Setting ℕ := do
  let setup ← get
  match setup.topologyRecording.subRecording queues with
  | .ok client =>
    set { setup with topologyRecording := setup.topologyRecording.addChild client }
    pure setup.topologyRecording.children.length
  | .error failure => throw failure

/-- The consumer of a queue that was there before does not recover it, so its recording is empty. -/
def subRecordedQueues (queues : List String) : List String := if params.predeclared then [] else queues

def configureQueuesForClient (connection : Connection) : Setting TopologyHandlerResult :=
  match handler with
  | .fixedQueues _ queueNames => do
    let connectionToUse ←
      if params.exclusive then maybeUseCachedConnection queueNames connection else pure connection
    configureQueuesOver broker params handler connectionToUse queueNames
  | .sequence queues _ =>
    if params.exclusive then do
      let names ← TopologyHandler.getQueueNamesForClient queues
      let connectionToUse ← maybeUseCachedConnection names connection
      configureQueuesOver broker params handler connectionToUse names
    else do
      let names ← TopologyHandler.getQueueNamesForClient queues
      let topologyRecording ← subRecordingOf (subRecordedQueues params names)
      pure ⟨connection, topologyRecording, names⟩

def childFor (results : List TopologyHandlerResult) (connection : Connection) :
    Setting (List TopologyHandlerResult) := do
  let topologyRecording ← newChild
  pure (results ++ [⟨connection, topologyRecording, []⟩])

def configureAllQueues (connections : List Connection) : Setting (List TopologyHandlerResult) :=
  match handler with
  | .fixedQueues _ queueNames =>
    if params.consumerCount = 0 ∧ queueNames ≠ [] ∧ params.exclusive = false then
      configureQueues broker params handler connections queueNames (pure ())
    else connections.foldlM childFor []
  | .sequence queues _ =>
    if params.exclusive then connections.foldlM childFor []
    else configureQueues broker params handler connections queues handler.next

def createConnection : Setting Connection := do
  let setup ← get
  set { setup with connectionCount := setup.connectionCount + 1 }
  pure setup.connectionCount

def consumerModes : List BrokerOperation :=
  (if params.consumerTxSize > 0 then [.txSelect] else []) ++
  (if params.consumerPrefetch > 0 then [.basicQos params.consumerPrefetch false] else []) ++
  (if params.channelPrefetch > 0 then [.basicQos params.channelPrefetch true] else [])

def createConsumer (consumerConnection : Connection) : Setting Unit := do
  let result ← configureQueuesForClient broker params handler consumerConnection
  let channel ← onBroker (createChannel broker result.connection)
  onBroker (performEach broker (consumerModes params) channel)
  let routingKey ← handler.getRoutingKey
  modify fun setup =>
    { setup with consumers := setup.consumers ++
      [⟨channel, routingKey, result.configuredQueues, result.topologyRecording⟩] }
  handler.next

def createThreadConsumers : Setting Unit := do
  let consumerConnection ← createConnection
  (List.range params.consumerChannelCount).foldlM
    (fun _ _ => createConsumer broker params handler consumerConnection) ()

def createConsumers : Setting Unit :=
  (List.range params.consumerCount).foldlM (fun _ _ => createThreadConsumers broker params handler) ()

end

end PerfTestModel
