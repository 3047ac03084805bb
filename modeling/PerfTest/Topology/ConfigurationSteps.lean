import PerfTest.Topology.Producers
import PerfTest.Topology.RecoverySteps

namespace PerfTestModel

def reserved (exchange : String) : Bool := exchange = "" ∨ "amq.".toList <+: exchange.toList

def afterQueue (handler : TopologyHandler) (advances : Bool) : Setting Unit :=
  if advances then handler.next else pure ()

def opensEach (broker : Broker) (world : World) : List Connection → Bool
  | [] => true
  | connection :: connections =>
    connection ∉ world.closed && broker.opens world.performed world.channelCount &&
      opensEach broker world.opened connections

def acceptsEach (broker : Broker) (channel : Channel) : List BrokerOperation → List Performed → Bool
  | [], _ => true
  | operation :: operations, performed =>
    match broker.reply performed operation with
    | .ok name => acceptsEach broker channel operations (performed ++ [⟨channel, operation, .ok name⟩])
    | .failed _ => false

def BrokerOperation.setsMode : BrokerOperation → Bool
  | .txSelect | .confirmSelect | .basicQos .. => true
  | _ => false

def openedStates (number position : ℕ) : List Connection → List ConfigurationState
  | [] => []
  | connection :: connections =>
    ⟨connection, ⟨connection, number⟩, position, []⟩ :: openedStates (number + 1) (position + 1) connections

def Setup.opened (count : ℕ) (setup : Setup) : Setup :=
  { setup with
    world := { setup.world with channelCount := setup.world.channelCount + count }
    topologyRecording := { setup.topologyRecording with
      children := setup.topologyRecording.children ++ List.replicate count setup.topologyRecording.child } }

end PerfTestModel

namespace PerfTestProof

open Systems Program PerfTestModel TopologyHandler

inductive Truthful (broker : Broker) : List Performed → Prop where
  | nil : Truthful broker []
  | snoc {performed : List Performed} {event : Performed} :
      Truthful broker performed → event.reply = broker.reply performed event.operation →
      Truthful broker (performed ++ [event])

structure Performs (broker : Broker) (allowed : Performed → Prop) (world after : World) : Prop where
  closed : after.closed = world.closed
  performed : ∃ events, after.performed = world.performed ++ events ∧ ∀ event ∈ events, allowed event
  truthful : Truthful broker world.performed → Truthful broker after.performed

instance (broker : Broker) (allowed : Performed → Prop) : IsPreorder World (Performs broker allowed) where
  refl world := ⟨rfl, ⟨[], (List.append_nil _).symm, List.forall_mem_nil _⟩, id⟩
  trans := by
    rintro world middle after ⟨closed, ⟨first, reached, fits⟩, before⟩ ⟨still, ⟨second, continued, more⟩, later⟩
    refine ⟨still.trans closed, ⟨first ++ second, ?_, fun event member => ?_⟩, later ∘ before⟩
    · rw [continued, reached, List.append_assoc]
    · exact (List.mem_append.mp member).elim (fits event) (more event)

def Refused (broker : Broker) (connection : Connection) (world : World) : Prop :=
  broker.Accepts → connection ∈ world.closed

section

variable {broker : Broker} {allowed : Performed → Prop} {world : World} {connection : Connection}
  {channel : Channel} {operation : BrokerOperation}

theorem createChannel_follows :
    (createChannel broker connection).follows (Performs broker allowed) (Refused broker connection)
      (fun channel _ => channel.connection = connection) world := by
  have same : Performs broker allowed world world.opened :=
    ⟨rfl, ⟨[], (List.append_nil _).symm, List.forall_mem_nil _⟩, id⟩
  simp only [follows, createChannel, ends_bind, ends_get, ends_set, ends_ite, ends_pure, ends_throw]
  split
  · rename_i closed
    exact ⟨same, fun _ => closed⟩
  · split
    · exact ⟨same, trivial⟩
    · rename_i unopened
      exact ⟨same, fun accepts => absurd (accepts.opens _ _) unopened⟩

theorem did_performs {reply : Reply} (allows : allowed ⟨channel, operation, reply⟩)
    (answered : broker.reply world.performed operation = reply) :
    Performs broker allowed world (world.did ⟨channel, operation, reply⟩) :=
  ⟨rfl, ⟨[_], rfl, List.forall_mem_singleton.mpr allows⟩, fun truthful => truthful.snoc answered.symm⟩

theorem perform_follows (allows : ∀ reply, allowed ⟨channel, operation, reply⟩)
    (active : operation.isPassive = false) :
    (perform broker operation channel).follows (Performs broker allowed) (Refused broker channel.connection)
      (fun name after => ⟨channel, operation, .ok name⟩ ∈ after.performed) world := by
  rw [follows, perform_ends]
  cases answer : broker.reply world.performed operation with
  | ok name => exact ⟨did_performs (allows _) answer, List.mem_append_right _ (List.mem_singleton_self _)⟩
  | failed failure =>
    refine ⟨did_performs (allows _) answer, fun accepts => ?_⟩
    rw [(accepts.refuses _ _ _ answer).2] at active
    cases active

theorem performEach_ends {relation : World → World → Prop} [IsPreorder World relation]
    {operations : List BrokerOperation}
    (did : ∀ operation ∈ operations, ∀ world : World, relation world
      (world.did ⟨channel, operation, broker.reply world.performed operation⟩)) :
    (performEach broker operations channel).ends
      (fun _ after => relation world after ∧ acceptsEach broker channel operations world.performed = true)
      (fun _ after => relation world after ∧ acceptsEach broker channel operations world.performed = false) world := by
  induction operations generalizing world with
  | nil => exact ⟨refl_of relation world, rfl⟩
  | cons operation operations ih =>
    have related := did operation List.mem_cons_self world
    rw [performEach, List.forM_cons, ends_bind, ends_bind, perform_ends, acceptsEach]
    cases answer : broker.reply world.performed operation with
    | ok name =>
      rw [answer] at related
      have rest := @ih (world.did ⟨channel, operation, .ok name⟩) fun later member =>
        did later (List.mem_cons_of_mem _ member)
      simp only [ends_pure]
      exact ends_mono rest (fun _ _ => And.imp_left (trans_of relation related))
        fun _ _ => And.imp_left (trans_of relation related)
    | failed failure =>
      rw [answer] at related
      exact ⟨related, rfl⟩

theorem performEach_modes {operations : List BrokerOperation}
    (modes : ∀ operation ∈ operations, operation.setsMode = true)
    (allows : ∀ operation reply, operation.setsMode = true → allowed ⟨channel, operation, reply⟩) :
    (performEach broker operations channel).ends
      (fun _ after => Performs broker allowed world after ∧
        acceptsEach broker channel operations world.performed = true)
      (fun _ after => Performs broker allowed world after ∧
        acceptsEach broker channel operations world.performed = false) world :=
  performEach_ends fun operation member _ => did_performs (allows _ _ (modes operation member)) rfl

theorem acceptsEach_of_accepts {operations : List BrokerOperation} {performed : List Performed}
    (accepts : broker.Accepts) (modes : ∀ operation ∈ operations, operation.setsMode = true) :
    acceptsEach broker channel operations performed = true := by
  induction operations generalizing performed with
  | nil => rfl
  | cons operation operations ih =>
    rw [acceptsEach]
    cases answer : broker.reply performed operation with
    | ok name => exact ih fun later member => modes later (List.mem_cons_of_mem _ member)
    | failed failure =>
      have mode := modes operation List.mem_cons_self
      have passive := (accepts.refuses _ _ _ answer).2
      cases operation <;> cases mode <;> cases passive

theorem consumerModes_setMode (params : MulticastParams) :
    ∀ operation ∈ consumerModes params, operation.setsMode = true := by
  unfold consumerModes
  simp only [List.forall_mem_append]
  refine ⟨⟨?_, ?_⟩, ?_⟩
  all_goals split
  all_goals simp [BrokerOperation.setsMode]

theorem producerModes_setMode (producerParams : ProducerParams) :
    ∀ operation ∈ producerModes producerParams, operation.setsMode = true := by
  unfold producerModes
  simp only [List.forall_mem_append]
  refine ⟨?_, ?_⟩
  all_goals split
  all_goals simp [BrokerOperation.setsMode]

theorem existsAt_follows (allows : ∀ number reply, allowed ⟨⟨connection, number⟩, operation, reply⟩) :
    (existsAt broker connection operation).follows (Performs broker allowed) (Refused broker connection)
      (fun _ _ => True) world := by
  have handled : ∀ (failure : Failure) (after : World), Performs broker allowed world after →
      (failure ≠ .notFound → Refused broker connection after) →
      (if failure = .notFound then (pure false : Call Bool) else throw failure).ends
        (fun _ after => Performs broker allowed world after ∧ True)
        (fun _ after => Performs broker allowed world after ∧ Refused broker connection after) after := by
    intro failure after performs refused
    split
    · exact ⟨performs, trivial⟩
    · rename_i other
      exact ⟨performs, refused other⟩
  rw [follows, existsAt, ends_tryCatch, ends_bind]
  refine ends_mono createChannel_follows ?_ fun failure after ⟨performs, refused⟩ =>
    handled failure after performs fun _ => refused
  rintro ⟨connection, number⟩ opened ⟨performs, rfl⟩
  rw [ends_bind, perform_ends]
  cases answer : broker.reply opened.performed operation with
  | ok name => exact ⟨trans_of _ performs (did_performs (allows number _) answer), trivial⟩
  | failed failure =>
    refine handled failure _ (trans_of _ performs (did_performs (allows number _) answer)) fun other accepts => ?_
    exact absurd (accepts.refuses _ _ _ answer).1 other

theorem exchangeExists_follows {exchangeName : String}
    (allows : ∀ number reply, allowed ⟨⟨connection, number⟩, .exchangeDeclarePassive exchangeName, reply⟩) :
    (exchangeExists broker connection exchangeName).follows (Performs broker allowed)
      (Refused broker connection) (fun _ _ => True) world := by
  unfold exchangeExists
  split
  · exact follows_pure trivial
  · exact existsAt_follows allows

theorem exchangeDeclare_follows {exchange type : String}
    (allows : ∀ reply, allowed ⟨channel, .exchangeDeclare exchange type true, reply⟩) :
    (exchangeDeclare broker exchange type channel).follows (Performs broker allowed)
      (Refused broker channel.connection) (fun _ _ => True) world :=
  follows_bind (perform_follows allows rfl) fun _ _ _ _ => follows_pure trivial

theorem queueBind_follows {queue exchange routingKey : String}
    (allows : ∀ reply, allowed ⟨channel, .queueBind queue exchange routingKey, reply⟩) :
    (queueBind broker queue exchange routingKey channel).follows (Performs broker allowed)
      (Refused broker channel.connection) (fun _ _ => True) world :=
  follows_bind (perform_follows allows rfl) fun _ _ _ _ => follows_pure trivial

theorem queueDeclare_follows {queue : String} {durable exclusive autoDelete : Bool} {arguments : Arguments}
    (allows : ∀ reply, allowed ⟨channel, .queueDeclare queue durable exclusive autoDelete arguments, reply⟩) :
    (queueDeclare broker queue durable exclusive autoDelete arguments channel).follows
      (Performs broker allowed) (Refused broker channel.connection)
      (fun name after => ∃ generatedName, name = declaredQueue queue generatedName ∧
        ⟨channel, .queueDeclare queue durable exclusive autoDelete arguments, .ok generatedName⟩ ∈
          after.performed) world :=
  follows_bind (perform_follows allows rfl) fun generatedName _ _ member =>
    follows_pure ⟨generatedName, rfl, member⟩

end

section

variable {setup : Setup} {thrown : Failure → Setup → Prop}

theorem getQueueNamesForClient_ends (queues : List String) {returned : List String → Setup → Prop} :
    (getQueueNamesForClient queues).ends returned thrown setup ↔
      match queues[setup.index % queues.length]? with
      | some queue => returned [queue] setup
      | none => thrown .runtimeException setup := by
  simp only [getQueueNamesForClient, ends_bind, ends_get]
  cases queues[setup.index % queues.length]? <;> rfl

def routingKeyAt (index : ℕ) : TopologyHandler → Option String
  | .fixedQueues routingKey _ => some routingKey
  | .sequence _ (some routingKey) => some routingKey
  | .sequence queues none => queues[index % queues.length]?

theorem getRoutingKey_ends (handler : TopologyHandler) {returned : String → Setup → Prop} :
    handler.getRoutingKey.ends returned thrown setup ↔
      match routingKeyAt setup.index handler with
      | some routingKey => returned routingKey setup
      | none => thrown .runtimeException setup := by
  cases handler with
  | fixedQueues routingKey queueNames => exact Iff.rfl
  | sequence queues routingKey =>
    cases routingKey with
    | some routingKey => exact Iff.rfl
    | none =>
      simp only [getRoutingKey, ends_bind, getQueueNamesForClient_ends, routingKeyAt]
      cases queues[setup.index % queues.length]? <;> rfl

end

def askFirst (params : MulticastParams) (asks : Call Bool) : Setting Bool :=
  if params.predeclared then onBroker asks else pure false

def declareNewExchange (broker : Broker) (params : MulticastParams) (state : ConfigurationState) :
    Setting Unit := do
  onBroker (exchangeDeclare broker params.exchangeName params.exchangeType state.channel)
  inChild state.topologyRecording fun recording =>
    recording.recordExchange params.exchangeName params.exchangeType

def declareNewQueue (broker : Broker) (params : MulticastParams) (state : ConfigurationState)
    (qName : String) : Setting String := do
  let name ← onBroker (queueDeclare broker qName (!params.exclusive) params.exclusive params.autoDelete
    params.queueArguments state.channel)
  recordQueue state.topologyRecording
    ⟨name, !params.exclusive, params.exclusive, params.autoDelete, params.queueArguments, qName == ""⟩
  pure name

theorem declareExchange_eq (broker : Broker) (params : MulticastParams) (state : ConfigurationState) :
    declareExchange broker params state =
      askFirst params (exchangeExists broker state.connection params.exchangeName) >>= fun found =>
        if !found then declareNewExchange broker params state else pure () := by
  unfold declareExchange askFirst
  split <;> rfl

theorem declareQueue_eq (broker : Broker) (params : MulticastParams) (state : ConfigurationState)
    (qName : String) :
    declareQueue broker params state qName =
      askFirst params (queueExists broker state.connection qName) >>= fun found =>
        if found then pure qName else declareNewQueue broker params state qName := by
  unfold declareQueue askFirst
  split <;> rfl

def declareProducersNewExchange (broker : Broker) (params : MulticastParams) (channel : Channel) :
    Setting TopologyRecording := do
  onBroker (exchangeDeclare broker params.exchangeName params.exchangeType channel)
  pure ((TopologyRecording.empty params.polling params.cluster).recordExchange params.exchangeName params.exchangeType)

theorem declareProducerExchange_eq (broker : Broker) (params : MulticastParams) (connection : Connection)
    (channel : Channel) :
    declareProducerExchange broker params connection channel =
      askFirst params (exchangeExists broker connection params.exchangeName) >>= fun found =>
        if !found then declareProducersNewExchange broker params channel
        else pure (.empty params.polling params.cluster) := by
  unfold declareProducerExchange askFirst
  split <;> rfl

theorem openedStates_getElem? (number position : ℕ) (connections : List Connection) (index : ℕ) :
    (openedStates number position connections)[index]? = connections[index]?.map fun connection =>
      ⟨connection, ⟨connection, number + index⟩, position + index, []⟩ := by
  induction connections generalizing number position index with
  | nil => rfl
  | cons connection connections ih =>
    cases index with
    | zero => rfl
    | succ index =>
      rw [openedStates, List.getElem?_cons_succ, List.getElem?_cons_succ, ih, Nat.add_right_comm number,
        Nat.add_right_comm position]
      rfl

theorem openedStates_length (number position : ℕ) (connections : List Connection) :
    (openedStates number position connections).length = connections.length := by
  induction connections generalizing number position with
  | nil => rfl
  | cons connection connections ih => rw [openedStates, List.length_cons, ih, List.length_cons]

theorem opened_zero (setup : Setup) : setup.opened 0 = setup := by
  obtain ⟨world, ⟨polling, cluster, exchanges, queues, bindings, children⟩, cache, index, count, consumers⟩ := setup
  rw [Setup.opened, List.replicate_zero, List.append_nil]
  rfl

theorem opened_opened (first second : ℕ) (setup : Setup) :
    (setup.opened first).opened second = setup.opened (first + second) := by
  simp only [Setup.opened, List.replicate_add, List.append_assoc, Nat.add_assoc]
  rfl

theorem createChannel_opens (broker : Broker) (connection : Connection) (world : World) :
    (createChannel broker connection).ends
      (fun channel after => opensEach broker world [connection] = true ∧
        channel = ⟨connection, world.channelCount⟩ ∧ after = world.opened)
      (fun failure after => opensEach broker world [connection] = false ∧ after = world.opened ∧
        failure ≠ .notFound) world := by
  rw [createChannel, ends_bind, ends_get, ends_bind, ends_set]
  by_cases closed : connection ∈ world.closed
  · simp [closed, opensEach]
  · by_cases opens : broker.opens world.performed world.channelCount = true
    · simp [closed, opens, opensEach]
    · simp [closed, opens, opensEach]

theorem openState_ends (broker : Broker) (connection : Connection) (states : List ConfigurationState)
    (setup : Setup) :
    (openState broker states connection).ends
      (fun opened after => opensEach broker setup.world [connection] = true ∧
        opened = states ++ openedStates setup.world.channelCount setup.topologyRecording.children.length
          [connection] ∧
        after = setup.opened 1)
      (fun _ after => opensEach broker setup.world [connection] = false ∧
        after.world.performed = setup.world.performed) setup := by
  rw [openState, ends_bind, onBroker, ends_within]
  apply ends_mono (createChannel_opens broker connection setup.world)
  · rintro _ _ ⟨opens, rfl, rfl⟩
    exact ⟨opens, rfl, rfl⟩
  · rintro _ _ ⟨closed, rfl, _⟩
    exact ⟨closed, rfl⟩

/-- The loop over the connections performs nothing, and fails only where a channel is not opened. -/
theorem openStates_ends (broker : Broker) (connections : List Connection) (states : List ConfigurationState)
    (setup : Setup) :
    (connections.foldlM (openState broker) states).ends
      (fun opened after => opensEach broker setup.world connections = true ∧
        opened = states ++ openedStates setup.world.channelCount setup.topologyRecording.children.length
          connections ∧
        after = setup.opened connections.length)
      (fun _ after => opensEach broker setup.world connections = false ∧
        after.world.performed = setup.world.performed) setup := by
  induction connections generalizing states setup with
  | nil => exact ⟨rfl, (List.append_nil _).symm, (opened_zero setup).symm⟩
  | cons connection connections ih =>
    have split : opensEach broker setup.world (connection :: connections) =
        (opensEach broker setup.world [connection] && opensEach broker setup.world.opened connections) := by
      simp [opensEach]
    rw [List.foldlM_cons, ends_bind, split]
    apply ends_mono (openState_ends broker connection states setup)
    · rintro _ _ ⟨opens, rfl, rfl⟩
      have rest := ih (states ++ openedStates setup.world.channelCount
        setup.topologyRecording.children.length [connection]) (setup.opened 1)
      apply ends_mono rest
      · rintro _ _ ⟨others, rfl, rfl⟩
        refine ⟨by rw [opens]; exact others, ?_, ?_⟩
        · rw [List.append_assoc]
          simp [openedStates, Setup.opened]
        · rw [opened_opened, List.length_cons, Nat.add_comm]
      · rintro _ after ⟨closed, same⟩
        exact ⟨by rw [opens]; exact closed, same⟩
    · rintro _ after ⟨closed, same⟩
      exact ⟨by rw [closed, Bool.false_and], same⟩

abbrev Performing {Value : Type} (broker : Broker) (allowed : Performed → Prop) (call : Call Value)
    (world : World) : Prop :=
  call.follows (Performs broker allowed) (fun _ => True) (fun _ _ => True) world

section

variable {broker : Broker} {allowed : Performed → Prop} {world : World} {connection : Connection}
  {channel : Channel} {Value Other : Type}

theorem performing_pure (value : Value) : Performing broker allowed (pure value) world :=
  follows_pure trivial

theorem performing_throw (failure : Failure) :
    Performing broker allowed (throw failure : Call Value) world :=
  follows_throw trivial

theorem performing_get : Performing broker allowed (get : Call World) world :=
  ⟨refl_of _ _, trivial⟩

theorem performing_createChannel : Performing broker allowed (createChannel broker connection) world :=
  follows_mono createChannel_follows (fun _ _ _ _ => trivial) fun _ _ _ => trivial

theorem performing_perform {operation : BrokerOperation}
    (allows : ∀ reply, allowed ⟨channel, operation, reply⟩) :
    Performing broker allowed (perform broker operation channel) world := by
  rw [Performing, follows, perform_ends]
  cases answer : broker.reply world.performed operation with
  | ok name => exact ⟨did_performs (allows _) answer, trivial⟩
  | failed failure => exact ⟨did_performs (allows _) answer, trivial⟩

end

def PerformsIn (broker : Broker) (allowed : Performed → Prop) (setup after : Setup) : Prop :=
  Performs broker allowed setup.world after.world

instance (broker : Broker) (allowed : Performed → Prop) : IsPreorder Setup (PerformsIn broker allowed) where
  refl setup := refl_of (Performs broker allowed) setup.world
  trans _ _ _ first second := trans_of (Performs broker allowed) first second

abbrev Arranging {Value : Type} (broker : Broker) (allowed : Performed → Prop) (program : Setting Value)
    (setup : Setup) : Prop :=
  program.follows (PerformsIn broker allowed) (fun _ => True) (fun _ _ => True) setup

section

variable {broker : Broker} {allowed : Performed → Prop} {setup : Setup} {params : MulticastParams}
  {handler : TopologyHandler} {connection : Connection} {Value Other : Type}

theorem arranging_pure (value : Value) : Arranging broker allowed (pure value) setup :=
  follows_pure trivial

theorem follows_onBroker {call : Call Value} {good : Value → World → Prop}
    (followed : call.follows (Performs broker allowed) (fun _ => True) good setup.world) :
    (onBroker call).follows (PerformsIn broker allowed) (fun _ => True)
      (fun value after => good value after.world) setup := by
  rw [follows, onBroker, ends_within]
  exact followed

theorem arranging_inChild {position : ℕ} {change : TopologyRecording → TopologyRecording} :
    Arranging broker allowed (inChild position change) setup :=
  ⟨refl_of _ _, trivial⟩

theorem arranging_recordQueue {position : ℕ} {queue : RecordedQueue} :
    Arranging broker allowed (recordQueue position queue) setup :=
  ⟨⟨rfl, ⟨[], (List.append_nil _).symm, List.forall_mem_nil _⟩, id⟩, trivial⟩

theorem arranging_getRoutingKey : Arranging broker allowed handler.getRoutingKey setup := by
  rw [Arranging, follows, getRoutingKey_ends]
  split
  · exact ⟨refl_of _ _, trivial⟩
  · exact ⟨refl_of _ _, trivial⟩

theorem arranging_next : Arranging broker allowed handler.next setup := by
  cases handler with
  | fixedQueues routingKey queueNames => exact arranging_pure _
  | sequence queues routingKey => exact ⟨refl_of (Performs broker allowed) setup.world, trivial⟩

theorem arranging_existsAt {operation : BrokerOperation}
    (allows : ∀ channel reply, allowed ⟨channel, operation, reply⟩) :
    Arranging broker allowed (onBroker (existsAt broker connection operation)) setup := by
  have asked : (existsAt broker connection operation).follows (Performs broker allowed)
      (Refused broker connection) (fun _ _ => True) setup.world := existsAt_follows fun _ _ => allows _ _
  exact follows_onBroker (follows_mono asked (fun _ _ _ => id) fun _ _ _ => trivial)

structure AllowsQueue (allowed : Performed → Prop) (params : MulticastParams) (state : ConfigurationState)
    (qName : String) : Prop where
  asks : ∀ channel reply, allowed ⟨channel, .queueDeclarePassive qName, reply⟩
  declares : ∀ reply, allowed ⟨state.channel, .queueDeclare qName (!params.exclusive) params.exclusive
    params.autoDelete params.queueArguments, reply⟩
  binds : ∀ queue routingKey reply, allowed ⟨state.channel, .queueBind queue params.exchangeName routingKey, reply⟩

theorem arranging_declareQueue {state : ConfigurationState} {qName : String}
    (allows : AllowsQueue allowed params state qName) :
    Arranging broker allowed (declareQueue broker params state qName) setup := by
  have asks : Arranging broker allowed
      (askFirst params (queueExists broker state.connection qName)) setup := by
    unfold askFirst
    split
    · exact arranging_existsAt allows.asks
    · exact arranging_pure _
  rw [declareQueue_eq]
  refine asks.bind fun found asked => ?_
  split
  · exact arranging_pure _
  · have declares : Performing broker allowed (queueDeclare broker qName (!params.exclusive) params.exclusive
        params.autoDelete params.queueArguments state.channel) asked.world :=
      (performing_perform allows.declares).bind fun _ _ => performing_pure _
    apply follows.bind (follows_onBroker declares)
    exact fun name _ => arranging_recordQueue.bind fun _ _ => arranging_pure _

theorem arranging_bindQueue {state : ConfigurationState} {qName : String}
    (allows : AllowsQueue allowed params state qName) (queue : String) :
    Arranging broker allowed (bindQueue broker params handler state queue) setup := by
  unfold bindQueue
  split
  · refine arranging_getRoutingKey.bind fun routingKey keyed => ?_
    have binds : Performing broker allowed
        (queueBind broker queue params.exchangeName routingKey state.channel) keyed.world :=
      (performing_perform (allows.binds queue routingKey)).bind fun _ _ => performing_pure _
    exact follows.bind (follows_onBroker binds) fun _ _ => arranging_inChild
  · exact arranging_pure _

theorem arranging_configureQueue (advances : Bool) (states : List ConfigurationState) (numbered : String × ℕ)
    (allows : ∀ state, states[numbered.2 % states.length]? = some state →
      AllowsQueue allowed params state numbered.1) :
    Arranging broker allowed
      (configureQueue broker params handler (afterQueue handler advances) states numbered) setup := by
  unfold configureQueue
  split
  · rename_i state found
    apply (arranging_declareQueue (allows state found)).bind
    intro qName _
    apply (arranging_bindQueue (allows state found) qName).bind
    intro _ bound
    have advanced : Arranging broker allowed (afterQueue handler advances) bound := by
      cases advances with
      | true => exact arranging_next
      | false => exact arranging_pure _
    exact advanced.bind fun _ _ => arranging_pure _
  · exact follows_throw trivial

end

end PerfTestProof
