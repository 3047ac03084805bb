import PerfTest.Topology.Configuration

namespace PerfTestModel

open Systems

structure ProducerParams where
  randomRoutingKey : Bool
  routingKeyCacheSize : ℤ
  producerCount : ℕ
  producerChannelCount : ℕ
  producerTxSize : ℤ
  confirm : ℤ
  deriving DecidableEq, Repr

structure CreatedProducer where
  channel : Channel
  exchangeName : String
  routingKey : String
  randomRoutingKey : Bool
  routingKeyCacheSize : ℤ
  topologyRecording : TopologyRecording

def CreatedProducer.publishedRoutingKey (producer : CreatedProducer) (randomKey : String) : String :=
  if producer.randomRoutingKey ∨ producer.routingKeyCacheSize > 0 then randomKey
  else producer.routingKey

section

variable (broker : Broker) (params : MulticastParams) (producerParams : ProducerParams)
  (handler : TopologyHandler)

def declareProducerExchange (connection : Connection) (channel : Channel) : Setting TopologyRecording := do
  let topologyRecording := TopologyRecording.empty params.polling params.cluster
  let found ← if params.predeclared then onBroker (exchangeExists broker connection params.exchangeName)
    else pure false
  if !found then
    onBroker (exchangeDeclare broker params.exchangeName params.exchangeType channel)
    pure (topologyRecording.recordExchange params.exchangeName params.exchangeType)
  else pure topologyRecording

def producerModes : List BrokerOperation :=
  (if producerParams.producerTxSize > 0 then [.txSelect] else []) ++
  (if producerParams.confirm ≥ 0 then [.confirmSelect] else [])

def createProducer (connection : Connection) : Setting CreatedProducer := do
  let channel ← onBroker (createChannel broker connection)
  onBroker (performEach broker (producerModes producerParams) channel)
  let topologyRecording ← declareProducerExchange broker params connection channel
  let routingKey ← handler.getRoutingKey
  handler.next
  pure ⟨channel, params.exchangeName, routingKey, producerParams.randomRoutingKey,
    producerParams.routingKeyCacheSize, topologyRecording⟩

def createNextProducer (producerConnection : Connection) (producers : List CreatedProducer) (_ : ℕ) :
    Setting (List CreatedProducer) := do
  let producer ← createProducer broker params producerParams handler producerConnection
  pure (producers ++ [producer])

def createThreadProducers (producers : List CreatedProducer) (_ : ℕ) : Setting (List CreatedProducer) := do
  let producerConnection ← createConnection
  (List.range producerParams.producerChannelCount).foldlM
    (createNextProducer broker params producerParams handler producerConnection) producers

def createProducers : Setting (List CreatedProducer) :=
  (List.range producerParams.producerCount).foldlM
    (createThreadProducers broker params producerParams handler) []

def setUp (configurationConnections : List Connection) : Setting (List CreatedProducer) := do
  let _ ← configureAllQueues broker params handler configurationConnections
  handler.reset
  createConsumers broker params handler
  handler.reset
  createProducers broker params producerParams handler

end

end PerfTestModel
