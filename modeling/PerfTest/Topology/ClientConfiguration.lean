import PerfTest.Topology.ConfigurationSteps

namespace PerfTestProof

open Systems Program PerfTestModel TopologyHandler

def requested (handler : TopologyHandler) (index : ℕ) : List String :=
  match handler with
  | .fixedQueues _ queueNames => queueNames
  | .sequence queues _ => queues[index % queues.length]?.toList

def declarationName : BrokerOperation → Option String
  | .queueDeclare queue .. => some queue
  | _ => none

def generatedName (event : Performed) : Option String :=
  match event.operation, event.reply with
  | .queueDeclare queue .., .ok name => if queue = "" then some name else none
  | _, _ => none

def IssuedBy (connection : Connection) (queues : List String) (event : Performed) : Prop :=
  event.channel.connection = connection ∧
    ∀ queue, declarationName event.operation = some queue → queue = "" ∨ queue ∈ queues

def NameFor (connection : Connection) (queues : List String) (name : String) (world : World) : Prop :=
  name ∈ queues ∨
    ∃ event ∈ world.performed, event.channel.connection = connection ∧ generatedName event = some name

theorem NameFor.performs {broker : Broker} {allowed : Performed → Prop} {connection : Connection}
    {queues : List String} {name : String} {world after : World} (named : NameFor connection queues name world)
    (performs : Performs broker allowed world after) : NameFor connection queues name after := by
  obtain ⟨events, performed, _⟩ := performs.performed
  refine named.imp id fun ⟨event, member, generated⟩ => ⟨event, ?_, generated⟩
  rw [performed]
  exact List.mem_append_left _ member

structure Configures (broker : Broker) (connection : Connection) (queues : List String)
    (setup after : Setup) : Prop where
  world : Performs broker (IssuedBy connection queues) setup.world after.world
  connectionCache : after.connectionCache = setup.connectionCache
  index : after.index = setup.index
  connectionCount : after.connectionCount = setup.connectionCount
  consumers : after.consumers = setup.consumers

instance (broker : Broker) (connection : Connection) (queues : List String) :
    IsPreorder Setup (Configures broker connection queues) where
  refl _ := ⟨refl_of _ _, rfl, rfl, rfl, rfl⟩
  trans _ _ _ first second :=
    ⟨trans_of _ first.world second.world, second.connectionCache.trans first.connectionCache,
      second.index.trans first.index, second.connectionCount.trans first.connectionCount,
      second.consumers.trans first.consumers⟩

def Unserved (broker : Broker) (handler : TopologyHandler) (connection : Connection) (setup : Setup) : Prop :=
  broker.Accepts → connection ∈ setup.world.closed ∨ requested handler setup.index = []

abbrev ConfiguresOver {Value : Type} (broker : Broker) (handler : TopologyHandler) (connection : Connection)
    (queues : List String) (good : Value → Setup → Prop) (program : Setting Value) (setup : Setup) : Prop :=
  program.follows (Configures broker connection queues) (Unserved broker handler connection) good setup

section

variable {broker : Broker} {handler : TopologyHandler} {params : MulticastParams} {connection : Connection}
  {queues : List String} {setup : Setup} {state : ConfigurationState} {qName : String}

theorem onBroker_over {Value : Type} {call : Call Value} {good : Value → World → Prop}
    (followed : call.follows (Performs broker (IssuedBy connection queues)) (Refused broker connection) good
      setup.world) :
    ConfiguresOver broker handler connection queues (fun value after => good value after.world)
      (onBroker call) setup := by
  rw [ConfiguresOver, follows, onBroker, ends_within]
  refine ends_mono followed (fun _ _ => And.imp_left fun performs => ?_) fun _ _ => And.imp ?_ ?_
  · exact ⟨performs, rfl, rfl, rfl, rfl⟩
  · exact fun performs => ⟨performs, rfl, rfl, rfl, rfl⟩
  · exact fun refused accepts => .inl (refused accepts)

theorem performModes_over {channel : Channel} {operations : List BrokerOperation}
    (modes : ∀ operation ∈ operations, operation.setsMode = true) (on : channel.connection = connection) :
    ConfiguresOver broker handler connection queues (fun _ _ => True)
      (onBroker (performEach broker operations channel)) setup := by
  have issued : ∀ operation reply, operation.setsMode = true →
      IssuedBy connection queues ⟨channel, operation, reply⟩ := by
    intro operation reply mode
    refine ⟨on, fun queue declared => ?_⟩
    cases operation <;> cases mode <;> cases declared
  have performing : (performEach broker operations channel).follows (Performs broker (IssuedBy connection queues))
      (Refused broker connection) (fun _ _ => True) setup.world := by
    refine ends_mono (performEach_modes modes issued) (fun _ _ => And.imp_right fun _ => trivial) ?_
    rintro _ _ ⟨performs, refused⟩
    refine ⟨performs, fun accepts => ?_⟩
    rw [acceptsEach_of_accepts accepts modes] at refused
    cases refused
  exact onBroker_over performing

theorem inChild_over {position : ℕ} {change : TopologyRecording → TopologyRecording} :
    ConfiguresOver broker handler connection queues (fun _ _ => True) (inChild position change) setup :=
  ⟨⟨refl_of _ _, rfl, rfl, rfl, rfl⟩, trivial⟩

theorem newChild_over :
    ConfiguresOver broker handler connection queues (fun _ _ => True) newChild setup :=
  ⟨⟨refl_of _ _, rfl, rfl, rfl, rfl⟩, trivial⟩

theorem recordQueue_over {position : ℕ} {queue : RecordedQueue} :
    ConfiguresOver broker handler connection queues (fun _ _ => True) (recordQueue position queue) setup :=
  ⟨⟨⟨rfl, ⟨[], (List.append_nil _).symm, List.forall_mem_nil _⟩, id⟩, rfl, rfl, rfl, rfl⟩, trivial⟩

theorem getQueueNamesForClient_follows (names : List String) (routingKey : Option String)
    (relation : Setup → Setup → Prop) [IsPreorder Setup relation] (setup : Setup) :
    (getQueueNamesForClient names).follows relation
      (fun after => requested (.sequence names routingKey) after.index = [])
      (fun queues after => queues = requested (.sequence names routingKey) after.index) setup := by
  rw [getQueueNamesForClient, follows, ends_bind, ends_get]
  cases found : names[setup.index % names.length]? with
  | some queue => exact ⟨refl_of _ _, by rw [requested, found]; rfl⟩
  | none => exact ⟨refl_of _ _, by rw [requested, found]; rfl⟩

theorem getRoutingKey_over :
    ConfiguresOver broker handler connection queues (fun _ _ => True) handler.getRoutingKey setup := by
  cases handler with
  | fixedQueues routingKey queueNames => exact follows_pure trivial
  | sequence names routingKey =>
    cases routingKey with
    | some routingKey => exact follows_pure trivial
    | none =>
      have asked := getQueueNamesForClient_follows names none (Configures broker connection queues) setup
      refine follows_bind (follows_mono asked (fun _ _ _ => id) ?_) fun _ _ _ _ => follows_pure trivial
      exact fun after _ empty _ => .inr empty

theorem mem_queuesToConfigure (member : qName ∈ queuesToConfigure params queues) :
    qName ∈ queues ∨ qName = "" ∧ params.predeclared = false := by
  unfold queuesToConfigure at member
  split at member
  · rename_i none
    simp only [Bool.and_eq_true, Bool.not_eq_true'] at none
    exact .inr ⟨List.mem_singleton.mp member, none.1⟩
  · exact .inl member

structure ConfigurationAt (connection : Connection) (queues : List String) (state : ConfigurationState)
    (setup : Setup) : Prop where
  here : state.connection = connection
  channel : state.channel.connection = connection
  names : ∀ name ∈ state.generatedQueueNames, NameFor connection queues name setup.world

theorem ConfigurationAt.configures {after : Setup} (configuration : ConfigurationAt connection queues state setup)
    (configures : Configures broker connection queues setup after) :
    ConfigurationAt connection queues state after :=
  ⟨configuration.here, configuration.channel, fun name member =>
    (configuration.names name member).performs configures.world⟩

section

variable (configuration : ConfigurationAt connection queues state setup)

include configuration

theorem declareExchange_over :
    ConfiguresOver broker handler connection queues (fun _ _ => True) (declareExchange broker params state)
      setup := by
  have declares : ∀ (found : Bool) (setup : Setup), ConfiguresOver broker handler connection queues
      (fun _ _ => True) (if !found then do
        onBroker (exchangeDeclare broker params.exchangeName params.exchangeType state.channel)
        inChild state.topologyRecording fun recording =>
          recording.recordExchange params.exchangeName params.exchangeType
        else pure ()) setup := by
    intro found setup
    cases found with
    | true => exact follows_pure trivial
    | false =>
      have issued := configuration.channel
      subst issued
      refine follows_bind (onBroker_over (exchangeDeclare_follows fun _ => ⟨rfl, nofun⟩)) ?_
      exact fun _ _ _ _ => inChild_over
  unfold declareExchange
  split
  · rw [configuration.here]
    refine follows_bind (onBroker_over (exchangeExists_follows fun _ _ => ⟨rfl, nofun⟩)) ?_
    exact fun found after _ _ => declares found after
  · exact declares false setup

theorem declareQueue_over (member : qName ∈ queuesToConfigure params queues) :
    ConfiguresOver broker handler connection queues
      (fun name after => NameFor connection queues name after.world)
      (declareQueue broker params state qName) setup := by
  have declares : ∀ (found : Bool) (setup : Setup), (found = true → params.predeclared = true) →
      ConfiguresOver broker handler connection queues
        (fun name after => NameFor connection queues name after.world)
        (if found = true then pure qName else do
          let name ← onBroker (queueDeclare broker qName (!params.exclusive) params.exclusive
            params.autoDelete params.queueArguments state.channel)
          recordQueue state.topologyRecording ⟨name, !params.exclusive, params.exclusive, params.autoDelete,
            params.queueArguments, qName == ""⟩
          pure name) setup := by
    intro found setup predeclared
    cases found with
    | true =>
      refine follows_pure ((mem_queuesToConfigure member).elim .inl fun ⟨_, declared⟩ => ?_)
      rw [predeclared rfl] at declared
      cases declared
    | false =>
      have issued := configuration.channel
      subst issued
      refine follows_bind (onBroker_over (queueDeclare_follows fun _ => ⟨rfl, ?_⟩)) ?_
      · rintro _ ⟨⟩
        exact (mem_queuesToConfigure member).symm.imp And.left id
      · rintro _ declared _ ⟨generated, rfl, performed⟩
        have named : NameFor state.channel.connection queues (declaredQueue qName generated) declared.world := by
          by_cases unnamed : qName = ""
          · exact .inr ⟨_, performed, rfl, by simp [generatedName, declaredQueue, unnamed]⟩
          · rw [declaredQueue, if_neg unnamed]
            exact .inl ((mem_queuesToConfigure member).resolve_right fun ⟨empty, _⟩ => unnamed empty)
        refine follows_bind recordQueue_over fun _ recorded kept _ => follows_pure ?_
        exact named.performs kept.world
  unfold declareQueue
  split
  · rename_i predeclared
    rw [configuration.here]
    refine follows_bind (onBroker_over (existsAt_follows fun _ _ => ⟨rfl, nofun⟩)) ?_
    exact fun found after _ _ => declares found after fun _ => predeclared
  · exact declares false setup nofun

theorem bindQueue_over :
    ConfiguresOver broker handler connection queues (fun _ _ => True)
      (bindQueue broker params handler state qName) setup := by
  unfold bindQueue
  split
  · have issued := configuration.channel
    subst issued
    refine follows_bind getRoutingKey_over fun routingKey _ _ _ => ?_
    refine follows_bind (onBroker_over (queueBind_follows fun _ => ⟨rfl, nofun⟩)) ?_
    exact fun _ _ _ _ => inChild_over
  · exact follows_pure trivial

theorem configureQueue_over {numbered : String × ℕ} (member : numbered.1 ∈ queuesToConfigure params queues) :
    ConfiguresOver broker handler connection queues
      (fun states after => ∃ state, states = [state] ∧ ConfigurationAt connection queues state after)
      (configureQueue broker params handler (pure ()) [state] numbered) setup := by
  have only : numbered.2 % [state].length = 0 := Nat.mod_one _
  rw [configureQueue, only]
  refine follows_bind (declareQueue_over configuration member) fun qName declared first named => ?_
  refine follows_bind (bindQueue_over (configuration.configures first)) fun _ bound second _ => ?_
  change ConfiguresOver broker handler connection queues _ (pure _) bound
  refine follows_pure ⟨_, rfl, ?_⟩
  have configured := configuration.configures (trans_of _ first second)
  refine ⟨configured.here, configured.channel, fun name held => ?_⟩
  rcases List.mem_append.mp held with before | new
  · exact configured.names name before
  · rw [List.mem_singleton.mp new]
    exact named.performs second.world

end

def ResultAt (connection : Connection) (queues : List String) (result : TopologyHandlerResult)
    (setup : Setup) : Prop :=
  result.connection = connection ∧ ∀ name ∈ result.configuredQueues, NameFor connection queues name setup.world

theorem openState_over :
    ConfiguresOver broker handler connection queues
      (fun states after => ∃ state, states = [state] ∧ ConfigurationAt connection queues state after)
      (openState broker [] connection) setup := by
  refine follows_bind (onBroker_over createChannel_follows) fun channel _ _ on => ?_
  exact follows_bind newChild_over fun _ _ _ _ => follows_pure ⟨_, rfl, rfl, on, nofun⟩

theorem configureStates_over (configuration : ConfigurationAt connection queues state setup) :
    ConfiguresOver broker handler connection queues
      (fun results after => ∃ result, results = [result] ∧ ResultAt connection queues result after)
      (configureStates broker params handler (pure ()) queues [state]) setup := by
  rw [configureStates]
  refine follows_bind (declareExchange_over configuration) fun _ declared kept _ => ?_
  have configured : ConfiguresOver broker handler connection queues
      (fun states after => ∃ state, states = [state] ∧ ConfigurationAt connection queues state after)
      ((queuesToConfigure params queues).zipIdx.foldlM (configureQueue broker params handler (pure ()))
        [state]) declared := by
    refine follows_foldlM ⟨state, rfl, configuration.configures kept⟩ ?_
    rintro numbered member _ middle _ ⟨state, rfl, configuration⟩
    exact configureQueue_over configuration (List.fst_mem_of_mem_zipIdx member)
  refine follows_bind configured ?_
  rintro _ final _ ⟨state, rfl, configuration⟩
  exact follows_pure ⟨state.result, rfl, configuration.here, configuration.names⟩

theorem configureQueuesOver_over :
    ConfiguresOver broker handler connection queues (ResultAt connection queues)
      (configureQueuesOver broker params handler connection queues) setup := by
  have configured : ConfiguresOver broker handler connection queues
      (fun results after => ∃ result, results = [result] ∧ ResultAt connection queues result after)
      (configureQueues broker params handler [connection] queues (pure ())) setup := by
    refine follows_bind (follows_bind openState_over fun _ _ _ held => follows_pure held) ?_
    rintro _ after _ ⟨state, rfl, configuration⟩
    exact configureStates_over configuration
  refine follows_bind configured ?_
  rintro _ after _ ⟨result, rfl, held⟩
  exact follows_pure held

end

end PerfTestProof
