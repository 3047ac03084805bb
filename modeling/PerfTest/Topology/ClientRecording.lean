import PerfTest.Topology.BestEffort
import PerfTest.Topology.ConfigurationSteps
import PerfTest.Topology.SubRecording

namespace PerfTestProof

open Systems Program PerfTestModel TopologyRecording TopologyHandler

def Binds (performed : List Performed) (queue : String) : Prop :=
  ∃ exchange routingKey, .queueBind queue exchange routingKey ∈ performed.map Performed.operation

def BindsNothing (event : Performed) : Prop := boundQueue event.operation = none

structure Configured (params : MulticastParams) (pending : Option String) (setup : Setup) : Prop where
  queues : setup.topologyRecording.queues = ∅
  bindings : setup.topologyRecording.bindings = []
  flat : ∀ child ∈ setup.topologyRecording.children, child.children = []
  bound : bindsQueues params = true → ∀ child ∈ setup.topologyRecording.children,
    ∀ queue ∈ child.queues, pending = some queue ∨ Binds setup.world.performed queue
  unbound : bindsQueues params = false → ∀ event ∈ setup.world.performed,
    boundQueue event.operation = none

theorem mem_modify {Item : Type} {change : Item → Item} {items : List Item} {position : ℕ} {item : Item}
    (member : item ∈ items.modify position change) :
    item ∈ items ∨ ∃ original ∈ items, item = change original := by
  induction items generalizing position with
  | nil => rw [List.modify_nil] at member; exact .inl member
  | cons first rest ih =>
    cases position with
    | zero =>
      rw [List.modify_zero_cons] at member
      rcases List.mem_cons.mp member with rfl | later
      · exact .inr ⟨first, List.mem_cons_self, rfl⟩
      · exact .inl (List.mem_cons_of_mem _ later)
    | succ position =>
      rw [List.modify_succ_cons] at member
      rcases List.mem_cons.mp member with rfl | later
      · exact .inl List.mem_cons_self
      · refine (ih later).imp (List.mem_cons_of_mem _) ?_
        exact fun ⟨original, held, same⟩ => ⟨original, List.mem_cons_of_mem _ held, same⟩

namespace Configured

variable {params : MulticastParams} {pending : Option String} {setup : Setup}

theorem world (configured : Configured params pending setup) {after : World}
    (performs : ∃ events, after.performed = setup.world.performed ++ events ∧
      ∀ event ∈ events, BindsNothing event) : Configured params pending { setup with world := after } := by
  obtain ⟨events, performed, none⟩ := performs
  refine ⟨configured.queues, configured.bindings, configured.flat, fun binding child member queue held => ?_,
    fun binding event member => ?_⟩
  · refine (configured.bound binding child member queue held).imp id ?_
    rintro ⟨exchange, routingKey, bound⟩
    refine ⟨exchange, routingKey, ?_⟩
    change _ ∈ after.performed.map Performed.operation
    rw [performed, List.map_append]
    exact List.mem_append_left _ bound
  · change event ∈ after.performed at member
    rw [performed] at member
    exact (List.mem_append.mp member).elim (configured.unbound binding event) (none event)

theorem onBroker {Value : Type} {call : Call Value} {broker : Broker} {connection : Connection}
    {good : Value → World → Prop} (configured : Configured params pending setup)
    (followed : call.follows (Performs broker BindsNothing) (Refused broker connection) good setup.world) :
    (PerfTestModel.onBroker call).ends (fun _ => Configured params pending) (fun _ _ => True) setup := by
  rw [PerfTestModel.onBroker, ends_within]
  apply ends_mono followed _ fun _ _ _ => trivial
  intro _ _ performs
  exact configured.world performs.1.performed

theorem binds (configured : Configured params none setup) (binding : bindsQueues params = true)
    {child : TopologyRecording} {queue : String} (member : child ∈ setup.topologyRecording.children)
    (held : queue ∈ child.queues) : Binds setup.world.performed queue :=
  (configured.bound binding child member queue held).resolve_left (Option.some_ne_none queue).symm

theorem inChild (configured : Configured params none setup) (position : ℕ)
    {change : TopologyRecording → TopologyRecording}
    (children : ∀ recording, (change recording).children = recording.children)
    (added : ∀ recording, ∀ queue ∈ (change recording).queues,
      pending = some queue ∨ queue ∈ recording.queues) :
    (PerfTestModel.inChild position change).ends (fun _ => Configured params pending) (fun _ _ => True)
      setup := by
  refine ⟨configured.queues, configured.bindings, fun child member => ?_, fun binding child member => ?_,
    configured.unbound⟩
  · rcases mem_modify member with before | ⟨original, before, rfl⟩
    · exact configured.flat child before
    · rw [children]
      exact configured.flat original before
  · rcases mem_modify member with before | ⟨original, before, rfl⟩
    · exact fun queue held => .inr (configured.binds binding before held)
    · intro queue held
      refine (added original queue held).imp id fun earlier => ?_
      exact configured.binds binding before earlier

theorem newChild (configured : Configured params pending setup) :
    PerfTestModel.newChild.ends (fun _ => Configured params pending) (fun _ _ => True) setup := by
  refine ⟨configured.queues, configured.bindings, fun child member => ?_, fun binding child member => ?_,
    configured.unbound⟩
  · rcases List.mem_append.mp member with before | last
    · exact configured.flat child before
    · rw [List.mem_singleton.mp last]; rfl
  · rcases List.mem_append.mp member with before | last
    · exact configured.bound binding child before
    · rw [List.mem_singleton.mp last]
      exact fun queue held => absurd held (AList.notMem_empty queue)

theorem pend (configured : Configured params none setup) (qName : String) :
    Configured params (some qName) setup :=
  ⟨configured.queues, configured.bindings, configured.flat, fun binding _ member _ held =>
    .inr (configured.binds binding member held), configured.unbound⟩

theorem with_index (configured : Configured params pending setup) (index : ℕ) :
    Configured params pending { setup with index } :=
  ⟨configured.queues, configured.bindings, configured.flat, configured.bound, configured.unbound⟩

variable (broker : Broker) (handler : TopologyHandler)

theorem openState (configured : Configured params pending setup) (states : List ConfigurationState)
    (connection : Connection) :
    (PerfTestModel.openState broker states connection).ends (fun _ => Configured params pending)
      (fun _ _ => True) setup := by
  rw [PerfTestModel.openState, ends_bind]
  refine ends_mono (configured.onBroker createChannel_follows) ?_ fun _ _ => id
  intro channel opened still
  rw [ends_bind]
  exact ends_mono still.newChild (fun _ _ => id) fun _ _ => id

theorem declareExchange (configured : Configured params none setup) (state : ConfigurationState) :
    (PerfTestModel.declareExchange broker params state).ends (fun _ => Configured params none)
      (fun _ _ => True) setup := by
  have declares : ∀ (found : Bool) (setup : Setup), Configured params none setup →
      (if !found then do
        PerfTestModel.onBroker (exchangeDeclare broker params.exchangeName params.exchangeType state.channel)
        PerfTestModel.inChild state.topologyRecording fun recording =>
          recording.recordExchange params.exchangeName params.exchangeType
        else pure ()).ends (fun _ => Configured params none) (fun _ _ => True) setup := by
    intro found setup configured
    cases found with
    | true => exact configured
    | false =>
      simp only [Bool.not_false, if_true, ends_bind]
      refine ends_mono (configured.onBroker (exchangeDeclare_follows fun _ => rfl)) ?_ fun _ _ => id
      intro _ declared still
      exact still.inChild _ (fun _ => rfl) fun _ _ => .inr
  unfold PerfTestModel.declareExchange
  split
  · rw [ends_bind]
    refine ends_mono (configured.onBroker (exchangeExists_follows fun _ _ => rfl)) ?_ fun _ _ => id
    exact fun found after => declares found after
  · exact declares false setup configured

theorem recordQueue (configured : Configured params none setup) (position : ℕ) (queue : RecordedQueue) :
    (PerfTestModel.recordQueue position queue).ends (fun _ => Configured params (some queue.name))
      (fun _ _ => True) setup := by
  simp only [PerfTestModel.recordQueue, ends_bind, ends_get, ends_set]
  have still : Configured params none { setup with world := setup.world.recorded queue } :=
    configured.world ⟨[], (List.append_nil _).symm, List.forall_mem_nil _⟩
  refine still.inChild position (fun _ => rfl) fun recording other held => ?_
  rcases mem_putIfAbsent.mp held with rfl | earlier
  · exact .inl rfl
  · exact .inr earlier

theorem declareQueue (configured : Configured params none setup) (state : ConfigurationState)
    (qName : String) :
    (PerfTestModel.declareQueue broker params state qName).ends (fun name => Configured params (some name))
      (fun _ _ => True) setup := by
  have declares : ∀ (found : Bool) (setup : Setup), Configured params none setup →
      (if found = true then pure qName else do
        let name ← PerfTestModel.onBroker (queueDeclare broker qName (!params.exclusive) params.exclusive
          params.autoDelete params.queueArguments state.channel)
        PerfTestModel.recordQueue state.topologyRecording ⟨name, !params.exclusive, params.exclusive,
          params.autoDelete, params.queueArguments, qName == ""⟩
        pure name).ends (fun name => Configured params (some name)) (fun _ _ => True) setup := by
    intro found setup configured
    cases found with
    | true => exact configured.pend qName
    | false =>
      simp only [Bool.false_eq_true, if_false, ends_bind, ends_pure]
      refine ends_mono (configured.onBroker (queueDeclare_follows fun _ => rfl)) ?_ fun _ _ => id
      exact fun name declared still => still.recordQueue _ _
  unfold PerfTestModel.declareQueue
  split
  · rw [ends_bind]
    refine ends_mono (configured.onBroker (existsAt_follows fun _ _ => rfl)) ?_ fun _ _ => id
    exact fun found after => declares found after
  · exact declares false setup configured

/-- Once the queue that was still to be bound is bound, none is. -/
theorem bind {qName exchange routingKey : String} {channel : Channel} {reply : Reply}
    (configured : Configured params (some qName) setup) (binding : bindsQueues params = true) :
    Configured params none
      { setup with world := setup.world.did ⟨channel, .queueBind qName exchange routingKey, reply⟩ } := by
  refine ⟨configured.queues, configured.bindings, configured.flat, fun _ child member queue held => .inr ?_,
    fun unbound => ?_⟩
  · rcases configured.bound binding child member queue held with same | ⟨exchange, routingKey, bound⟩
    · cases same
      refine ⟨exchange, routingKey, ?_⟩
      rw [World.did, List.map_append]
      exact List.mem_append_right _ List.mem_cons_self
    · refine ⟨exchange, routingKey, ?_⟩
      rw [World.did, List.map_append]
      exact List.mem_append_left _ bound
  · rw [binding] at unbound
    cases unbound

theorem bindQueue {qName : String} (configured : Configured params (some qName) setup)
    (state : ConfigurationState) :
    (PerfTestModel.bindQueue broker params handler state qName).ends (fun _ => Configured params none)
      (fun _ _ => True) setup := by
  unfold PerfTestModel.bindQueue
  cases binding : bindsQueues params with
  | false =>
    refine ⟨configured.queues, configured.bindings, configured.flat, fun bound => ?_, configured.unbound⟩
    rw [binding] at bound
    cases bound
  | true =>
    rw [if_pos rfl, ends_bind]
    rw [getRoutingKey_ends]
    split
    · rw [ends_bind, PerfTestModel.onBroker, ends_within, queueBind, ends_bind, perform_ends]
      split
      · exact (configured.bind binding).inChild _ (fun _ => rfl) fun _ _ => .inr
      · trivial
    · trivial

theorem next (configured : Configured params pending setup) :
    handler.next.ends (fun _ => Configured params pending) (fun _ _ => True) setup := by
  cases handler with
  | fixedQueues routingKey queueNames => exact configured
  | sequence queues routingKey => exact configured.with_index _

theorem configureQueue (configured : Configured params none setup) (states : List ConfigurationState)
    (numbered : String × ℕ) :
    (PerfTestModel.configureQueue broker params handler handler.next states numbered).ends
      (fun _ => Configured params none) (fun _ _ => True) setup := by
  unfold PerfTestModel.configureQueue
  split
  · rename_i state found
    rw [ends_bind]
    refine ends_mono (configured.declareQueue broker state numbered.1) ?_ fun _ _ => id
    intro qName declared pending
    rw [ends_bind]
    refine ends_mono (pending.bindQueue broker handler state) ?_ fun _ _ => id
    intro _ bound still
    rw [ends_bind]
    exact ends_mono (still.next handler) (fun _ _ => id) fun _ _ => id
  · trivial

theorem configureQueues (configured : Configured params none setup) (connections : List Connection)
    (queues : List String) :
    (PerfTestModel.configureQueues broker params handler connections queues handler.next).ends
      (fun _ => Configured params none) (fun _ _ => True) setup := by
  have opened : (connections.foldlM (PerfTestModel.openState broker) []).ends
      (fun _ => Configured params none) (fun _ _ => True) setup := by
    refine ends_foldlM (fun _ _ => Configured params none) ?_ configured connections
    exact fun _ connection states setup configured => configured.openState broker states connection
  rw [PerfTestModel.configureQueues, ends_bind]
  refine ends_mono opened ?_ fun _ _ => id
  intro states after still
  cases states with
  | nil => trivial
  | cons first states =>
    rw [configureStates, ends_bind]
    refine ends_mono (still.declareExchange broker first) ?_ fun _ _ => id
    intro _ declared still
    rw [ends_bind]
    refine ends_mono (ends_foldlM (fun _ _ => Configured params none) ?_ still _) ?_ fun _ _ => id
    · exact fun _ numbered states setup configured =>
        configured.configureQueue broker handler states numbered
    · exact fun _ _ => id

end Configured

theorem nodesOf_flat {children : List TopologyRecording}
    (flat : ∀ child ∈ children, child.children = []) : nodesOf children = children := by
  induction children with
  | nil => rw [nodesOf]
  | cons child children ih =>
    obtain ⟨leaf, rest⟩ := List.forall_mem_cons.mp flat
    rw [nodesOf, nodes_cons, leaf, nodesOf, ih rest, List.singleton_append]

def queueOnly (recording : TopologyRecording) (queue : String) (record : QueueRef) : TopologyRecording :=
  recording.child.recordQueue queue record

theorem subRecording_single {recording client : TopologyRecording} {queue : String}
    (none : recording.bindings = []) (ran : recording.subRecording [queue] = .ok client) :
    ∃ record, client = queueOnly recording queue record ∧
      (recording.addChild recording.child).lookupQueueInHierarchy queue = some record := by
  have unbound : recording.getBindingsFor queue = [] := by rw [getBindingsFor, none]; rfl
  rw [subRecording, List.foldlM_cons, subRecordQueue, unbound] at ran
  cases found : (recording.addChild recording.child).lookupQueueInHierarchy queue with
  | none => rw [found] at ran; cases ran
  | some record =>
    rw [found] at ran
    cases ran
    exact ⟨record, rfl, rfl⟩

/-- What a client asks for is found in a child when the recording itself holds nothing. -/
theorem child_of_lookup {recording : TopologyRecording} {queue : String} {record : QueueRef}
    (none : recording.queues = ∅) (flat : ∀ child ∈ recording.children, child.children = [])
    (found : (recording.addChild recording.child).lookupQueueInHierarchy queue = some record) :
    ∃ child ∈ recording.children, child.queues.lookup queue = some record := by
  rw [lookup_eq_findSome, nodes_cons, addChild_children, nodesOf_append, nodesOf_flat flat,
    nodesOf_flat (List.forall_mem_singleton.mpr rfl)] at found
  obtain ⟨node, member, has⟩ := List.exists_of_findSome?_eq_some found
  rcases List.mem_cons.mp member with rfl | below
  · rw [addChild_queues, none] at has
    cases has
  · rcases List.mem_append.mp below with child | new
    · exact ⟨node, child, has⟩
    · rw [List.mem_singleton.mp new] at has
      cases has

theorem Configured.addClient {params : MulticastParams} {setup : Setup}
    (configured : Configured params none setup) {queue : String} {record : QueueRef}
    (found : (setup.topologyRecording.addChild setup.topologyRecording.child).lookupQueueInHierarchy queue =
      some record) :
    Configured params none { setup with
      topologyRecording := setup.topologyRecording.addChild (queueOnly setup.topologyRecording queue record) } := by
  obtain ⟨holder, below, has⟩ := child_of_lookup configured.queues configured.flat found
  have held : queue ∈ holder.queues := AList.lookup_isSome.mp (by rw [has]; rfl)
  refine ⟨configured.queues, configured.bindings, fun child member => ?_, fun binding child member => ?_,
    configured.unbound⟩
  · rcases List.mem_append.mp member with before | last
    · exact configured.flat child before
    · rw [List.mem_singleton.mp last]; rfl
  · rcases List.mem_append.mp member with before | last
    · exact configured.bound binding child before
    · intro other present
      rw [List.mem_singleton.mp last] at present
      rcases mem_putIfAbsent.mp present with rfl | none
      · exact configured.bound binding holder below other held
      · exact absurd none (AList.notMem_empty other)

structure GivenQueue (params : MulticastParams) (result : TopologyHandlerResult) (setup : Setup)
    (queue : String) (client : TopologyRecording) : Prop where
  configured : Configured params none setup
  name : result.configuredQueues = [queue]
  position : setup.topologyRecording.children[result.topologyRecording]? = some client
  only : ∃ recording record, client = queueOnly recording queue record

theorem configureQueuesForClient_ends (broker : Broker) {params : MulticastParams} {setup : Setup}
    (shared : params.exclusive = false) (declared : params.predeclared = false) (queues : List String)
    (routingKey : Option String) (connection : Connection) (configured : Configured params none setup) :
    (configureQueuesForClient broker params (.sequence queues routingKey) connection).ends
      (fun result after => ∃ queue client, GivenQueue params result after queue client)
      (fun _ _ => True) setup := by
  simp only [configureQueuesForClient, shared, Bool.false_eq_true, if_false, ends_bind]
  rw [getQueueNamesForClient_ends]
  split
  · rename_i queue _
    simp only [subRecordingOf, subRecordedQueues, declared, Bool.false_eq_true, if_false, ends_bind, ends_get]
    split
    · rename_i client ran
      obtain ⟨record, rfl, found⟩ := subRecording_single configured.bindings ran
      refine ⟨queue, queueOnly setup.topologyRecording queue record, configured.addClient found, rfl, ?_,
        setup.topologyRecording, record, rfl⟩
      exact List.getElem?_concat_length
    · trivial
  · trivial

def clientAt (broker : Broker) (params : MulticastParams) (handler : TopologyHandler)
    (client : ℕ × Connection) : Setting TopologyHandlerResult := do
  modify fun setup => { setup with index := client.1 }
  configureQueuesForClient broker params handler client.2

def clientRun (broker : Broker) (params : MulticastParams) (handler : TopologyHandler)
    (connections : List Connection) (earlier : List (ℕ × Connection)) (client : ℕ × Connection) :
    Setting TopologyHandlerResult := do
  let _ ← configureAllQueues broker params handler connections
  earlier.foldlM (fun _ client => do let _ ← clientAt broker params handler client) ()
  clientAt broker params handler client

theorem clientRun_ends (broker : Broker) {params : MulticastParams} {setup : Setup}
    (shared : params.exclusive = false) (declared : params.predeclared = false) (queues : List String)
    (routingKey : Option String) (connections : List Connection) (earlier : List (ℕ × Connection))
    (client : ℕ × Connection) (configured : Configured params none setup) :
    (clientRun broker params (.sequence queues routingKey) connections earlier client).ends
      (fun result after => ∃ queue client, GivenQueue params result after queue client)
      (fun _ _ => True) setup := by
  have asks : ∀ (client : ℕ × Connection) (setup : Setup), Configured params none setup →
      (clientAt broker params (.sequence queues routingKey) client).ends
        (fun result after => ∃ queue client, GivenQueue params result after queue client)
        (fun _ _ => True) setup := fun client setup configured =>
    configureQueuesForClient_ends broker shared declared queues routingKey client.2
      (configured.with_index client.1)
  simp only [clientRun, configureAllQueues, shared, Bool.false_eq_true, if_false, ends_bind]
  refine ends_mono (configured.configureQueues broker _ connections queues) ?_ fun _ _ => id
  intro _ after still
  refine ends_mono (ends_foldlM (fun _ _ => Configured params none) ?_ still earlier) ?_ fun _ _ => id
  · intro _ client _ setup configured
    rw [ends_bind]
    refine ends_mono (asks client setup configured) ?_ fun _ _ => id
    rintro result after ⟨queue, client, given⟩
    exact given.configured
  · exact fun _ after configured => asks client after configured

def Restores (broker : Broker) (connection : Connection) (world : World) (client : TopologyRecording)
    (queue : String) : Prop :=
  (∃ record, client.queues.lookup queue = some record ∧ redeclaration (world.records record) ∈
      ((client.recover broker connection world).2.performed.drop world.performed.length).map
        Performed.operation) ∧
    ∀ exchange routingKey,
      .queueBind queue exchange routingKey ∈ world.performed.map Performed.operation →
      .queueBind queue exchange routingKey ∈
        ((client.recover broker connection world).2.performed.drop world.performed.length).map
          Performed.operation

structure HasNoQueues (broker : Broker) : Prop where
  opens : broker.AlwaysOpens
  empty : ∀ performed queue, broker.reply performed (.queueDeclarePassive queue) = .failed .notFound

theorem HasNoQueues.checks {broker : Broker} (empty : HasNoQueues broker) : broker.ChecksQueues :=
  fun performed queue unchecked => by rw [empty.empty] at unchecked; cases unchecked

theorem queueOnly_values (recording : TopologyRecording) (queue : String) (record : QueueRef) :
    (queueOnly recording queue record).queues.values = [record] := rfl

theorem Completes.redeclared {broker : Broker} {polling : Bool} {call : QueueCall} {last : Channel}
    {turn : QueueTurn} {name : String} (empty : HasNoQueues broker)
    (completes : Completes broker polling call last turn name) :
    redeclaration call.queue ∈ (call.events broker polling).map Performed.operation := by
  have failed : turn.check.any (fun event => !event.failed) = false := by
    refine List.any_eq_false.mpr fun event member => ?_
    rw [Performed.failed, completes.recovers.answers event member, empty.empty]
    decide
  have declared : redeclaration call.queue ∈ turn.declaration.map Performed.operation := by
    rcases completes.recovers.redeclares.declared failed with ⟨event, same, operation⟩
    rw [same, List.map_singleton, operation]
    exact List.mem_singleton_self _
  rw [completes.events, QueueTurn.events, List.map_append, List.map_append]
  exact List.mem_append_left _ (List.mem_append_right _ declared)

/-- A client's recording brings its queue back, and the bindings exactly when there were none. -/
theorem GivenQueue.restores_iff {broker : Broker} {connection : Connection} {params : MulticastParams}
    {result : TopologyHandlerResult} {setup : Setup} {queue : String} {client : TopologyRecording}
    (given : GivenQueue params result setup queue client) (empty : HasNoQueues broker)
    (live : connection ∉ setup.world.closed)
    (member : client ∈ setup.topologyRecording.children) :
    Restores broker connection setup.world client queue ↔ bindsQueues params = false := by
  obtain ⟨recording, record, rfl⟩ := given.only
  obtain ⟨exchanges, bindings, all⟩ :=
    recover_best_effort (queueOnly recording queue record) empty.opens empty.checks live
  have calls : RecoveryCall.recover.queueCalls broker (queueOnly recording queue record) connection
      setup.world = [⟨⟨connection, setup.world.channelCount⟩, record, setup.world.opened⟩] := by
    rw [RecoveryCall.queueCalls, createChannel_ran empty.opens live, queueOnly_values]
    simp only [queueCalls]
    split <;> rfl
  have performed := all.performed
  rw [List.map_eq_nil_iff.mp all.declared, List.map_eq_nil_iff.mp all.bound, calls,
    List.flatMap_singleton, List.append_nil, List.append_nil] at performed
  rcases queueCall_outcome empty.opens recording.polling
    ⟨⟨connection, setup.world.channelCount⟩, record, setup.world.opened⟩ live with
    ⟨last, turn, name, completes⟩ | ⟨failure, aborts⟩
  · rw [Restores, performed, List.drop_left]
    constructor
    · rintro ⟨_, restored⟩
      by_contra binding
      rw [Bool.not_eq_false] at binding
      have present : queue ∈ (queueOnly recording queue record).queues := mem_putIfAbsent.mpr (.inl rfl)
      obtain ⟨exchange, routingKey, bound⟩ :=
        given.configured.binds binding member present
      cases completes.no_binding (restored exchange routingKey bound)
    · intro unbound
      refine ⟨⟨record, AList.lookup_insert _, completes.redeclared empty⟩, fun exchange routingKey bound => ?_⟩
      obtain ⟨event, held, operation⟩ := List.mem_map.mp bound
      have none := given.configured.unbound unbound event held
      rw [operation] at none
      cases none
  · exact absurd aborts.answer (empty.checks _ _)

theorem start_configured (params : MulticastParams) :
    Configured params none (Setup.init params World.start) :=
  ⟨rfl, rfl, List.forall_mem_nil _, fun _ => List.forall_mem_nil _,
    fun _ => List.forall_mem_nil _⟩

theorem bindsQueues_eq_false {params : MulticastParams} (bound : params.skipBindingQueues = false) :
    bindsQueues params = false ↔ params.exchangeName = "" ∨ params.exchangeName = "amq.default" := by
  simp [bindsQueues, bound, or_iff_not_imp_left]

def ClientRestored (broker : Broker) (connection : Connection) (result : TopologyHandlerResult)
    (setup : Setup) : Prop :=
  ∃ queue recording, result.configuredQueues = [queue] ∧
    setup.topologyRecording.children[result.topologyRecording]? = some recording ∧
    Restores broker connection setup.world recording queue

/-- Sub-recordings are complete exactly when what they need is recorded where they are asked for. In a
    run it is recorded in the children, so the recording of a client of a sequence of queues restores
    its bindings exactly when there are none, which is for the default exchange. -/
theorem sub_recordings_iff (recording : TopologyRecording) (recorded : List String)
    (broker restored : Broker) (params : MulticastParams) (queues : List String)
    (routingKey : Option String) (connections : List Connection) (earlier : List (ℕ × Connection))
    (client : ℕ × Connection) (result : TopologyHandlerResult) (setup : Setup) (connection : Connection) :
    ((∀ queue ∈ recorded, ∃ node ∈ nodes recording, queue ∈ node.queues) →
      (SubRecordsAll recording recorded ↔ ∀ queue ∈ recorded, HoldsBindings recording queue)) ∧
    (params.exclusive = false → params.predeclared = false → params.skipBindingQueues = false →
      clientRun broker params (.sequence queues routingKey) connections earlier client
        (Setup.init params World.start) = (.ok result, setup) →
      HasNoQueues restored → connection ∉ setup.world.closed →
      (ClientRestored restored connection result setup ↔
        params.exchangeName = "" ∨ params.exchangeName = "amq.default")) := by
  refine ⟨subRecordsAll_iff recording, ?_⟩
  intro shared declared bound ran empty live
  have ends := clientRun_ends broker shared declared queues routingKey connections earlier client
    (start_configured params)
  rw [ends_of_return ran] at ends
  obtain ⟨queue, recording, given⟩ := ends
  rw [← bindsQueues_eq_false bound,
    ← given.restores_iff empty live (List.mem_of_getElem? given.position)]
  constructor
  · rintro ⟨other, held, name, position, restores⟩
    rw [given.name, List.singleton_inj] at name
    rw [given.position, Option.some_inj] at position
    rwa [name, position]
  · exact fun restores => ⟨queue, recording, given.name, given.position, restores⟩

def acceptingBroker : Broker := ⟨fun _ _ => .ok "", fun _ _ => true⟩

def restartedBroker : Broker :=
  ⟨fun _ operation =>
    match operation with
    | .queueDeclarePassive _ => .failed .notFound
    | _ => .ok "",
    fun _ _ => true⟩

theorem restartedBroker_empty : HasNoQueues restartedBroker := ⟨fun _ _ => rfl, fun _ _ => rfl⟩

def ordersParams (exchangeName : String) : MulticastParams :=
  ⟨false, false, false, false, false, false, exchangeName, "direct", [], 1, 1, 0, 0, 0⟩

def ordersRun (exchangeName : String) : Except Failure TopologyHandlerResult × Setup :=
  clientRun acceptingBroker (ordersParams exchangeName) (.sequence ["orders"] none) [0] [] (0, 1)
    (Setup.init (ordersParams exchangeName) World.start)

theorem ordersRun_returns {exchangeName : String}
    (returns : (ordersRun exchangeName).1.toOption.isSome = true) :
    ∃ result, ordersRun exchangeName = (.ok result, (ordersRun exchangeName).2) := by
  rcases ran : ordersRun exchangeName with ⟨failure | result, setup⟩
  · rw [ran] at returns; cases returns
  · exact ⟨result, rfl⟩

theorem polledRecording_nodes : nodes polledRecording = [polledRecording] := by
  rw [nodes_cons, show polledRecording.children = [] from rfl, nodesOf]

theorem own_exchange_client_incomplete : SubRecordsAll polledRecording ["amq.gen-1"] ∧
    ∃ result setup, ordersRun "orders" = (.ok result, setup) ∧
      ¬ ClientRestored restartedBroker 2 result setup := by
  obtain ⟨result, ran⟩ := ordersRun_returns (show (ordersRun "orders").1.toOption.isSome = true by decide)
  have live : 2 ∉ (ordersRun "orders").2.world.closed := by decide
  obtain ⟨complete, restored⟩ := sub_recordings_iff polledRecording ["amq.gen-1"] acceptingBroker
    restartedBroker (ordersParams "orders") ["orders"] none [0] [] (0, 1) result _ 2
  have recorded : ∃ node ∈ nodes polledRecording, "amq.gen-1" ∈ node.queues :=
    ⟨polledRecording, self_mem_nodes polledRecording, by decide⟩
  have holds : HoldsBindings polledRecording "amq.gen-1" := by
    rw [HoldsBindings, polledRecording_nodes]
    decide
  refine ⟨(complete (List.forall_mem_singleton.mpr recorded)).mpr (List.forall_mem_singleton.mpr holds),
    result, _, ran, fun complete => ?_⟩
  have unbound := (restored rfl rfl rfl ran restartedBroker_empty live).mp complete
  exact absurd unbound (by decide)

/-- A binding recorded in a child is not found in the parent, nor in the run of a client of a queue that
    is bound to an exchange of its own. -/
theorem sub_recordings_incomplete :
    (¬ ∀ (recording : TopologyRecording) (queues : List String),
      (∀ queue ∈ queues, ∃ node ∈ nodes recording, queue ∈ node.queues) →
      SubRecordsAll recording queues) ∧
    ¬ ∀ (broker restored : Broker) (params : MulticastParams) (queues : List String)
      (routingKey : Option String) (connections : List Connection) (earlier : List (ℕ × Connection))
      (client : ℕ × Connection) (result : TopologyHandlerResult) (setup : Setup) (connection : Connection),
      params.exclusive = false → params.predeclared = false → params.skipBindingQueues = false →
      clientRun broker params (.sequence queues routingKey) connections earlier client
        (Setup.init params World.start) = (.ok result, setup) →
      HasNoQueues restored → connection ∉ setup.world.closed →
      ClientRestored restored connection result setup := by
  constructor
  · intro complete
    have node : polledRecording ∈ nodes ((empty true false).addChild polledRecording) := by
      have flat : ∀ child ∈ [polledRecording], child.children = [] := List.forall_mem_singleton.mpr rfl
      rw [nodes_cons, addChild_children, show (empty true false).children = [] from rfl, List.nil_append,
        nodesOf_flat flat]
      exact List.mem_cons_of_mem _ (List.mem_singleton_self _)
    have all := complete ((empty true false).addChild polledRecording) ["amq.gen-1"]
      (List.forall_mem_singleton.mpr ⟨polledRecording, node, by decide⟩)
    obtain ⟨client, ran, held⟩ := all
    have bound := (held "amq.gen-1" (List.mem_singleton_self _)).bindings polledRecording node
      ⟨"amq.gen-1", "orders", "amq.gen-1"⟩ (by decide)
    obtain ⟨record, rfl, _⟩ := subRecording_single rfl ran
    cases bound
  · intro restored
    obtain ⟨result, ran⟩ :=
      ordersRun_returns (show (ordersRun "orders").1.toOption.isSome = true by decide)
    have live : 2 ∉ (ordersRun "orders").2.world.closed := by decide
    have configured := start_configured (ordersParams "orders")
    have ends := clientRun_ends acceptingBroker rfl rfl ["orders"] none [0] [] (0, 1) configured
    rw [ends_of_return (show clientRun _ _ _ _ _ _ _ = _ from ran)] at ends
    obtain ⟨queue, recording, given⟩ := ends
    obtain ⟨other, held, name, position, restores⟩ := restored acceptingBroker restartedBroker
      (ordersParams "orders") ["orders"] none [0] [] (0, 1) result _ 2 rfl rfl rfl ran
      restartedBroker_empty live
    rw [given.name, List.singleton_inj] at name
    rw [given.position, Option.some_inj] at position
    rw [← name, ← position] at restores
    exact absurd ((given.restores_iff restartedBroker_empty live (List.mem_of_getElem? given.position)).mp
      restores) (by decide)

end PerfTestProof
