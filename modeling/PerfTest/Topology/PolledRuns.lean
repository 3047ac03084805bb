import PerfTest.Systems.Runs
import PerfTest.Topology.ClientRecording
import PerfTest.Topology.PolledQueues
import PerfTest.Topology.RecoveryOrder
import PerfTest.Topology.SharedConnections

namespace PerfTestModel

open Systems

structure PolledRun where
  setup : Setup
  producers : List CreatedProducer

def PolledRun.init (params : MulticastParams) : PolledRun := ⟨Setup.init params World.start, []⟩

/-- What is recovered on some connection: the recordings of consumers and of the configuration are all in one
    tree, and each producer has one. -/
def PolledRun.recordings (polled : PolledRun) : List TopologyRecording :=
  PerfTestProof.nodes polled.setup.topologyRecording ++ polled.producers.map CreatedProducer.topologyRecording

def PolledRun.recordedNames (polled : PolledRun) : List String :=
  polled.setup.topologyRecording.allQueues.map fun record => (polled.setup.world.records record).name

inductive PolledCall where
  | configureAllQueues (connections : List Connection)
  | resetTopologyHandler
  | createConsumer (connection : Connection)
  | createProducer (connection : Connection)
  | recovery (recording : ℕ) (connection : Connection) (call : TopologyRecording.RecoveryCall)
  deriving DecidableEq, Repr

def TopologyRecording.RecoveryCall.isFor (recording : TopologyRecording) : TopologyRecording.RecoveryCall → Bool
  | .recover => true
  | .recoverQueueAndBindings queueRecord => queueRecord.all fun record => record ∈ recording.queues.values

def writtenRecovery (broker : Broker) (polled : PolledRun) (recording : TopologyRecording) (connection : Connection)
    (call : TopologyRecording.RecoveryCall) : Option PolledRun :=
  let world := (call.execute broker recording connection polled.setup.world).2
  if call.isFor recording &&
      (world.performed.drop polled.setup.world.performed.length).all fun event => !event.writeFailed then
    some { polled with setup := { polled.setup with world } }
  else none

def polledStep (broker : Broker) (params : MulticastParams) (producerParams : ProducerParams)
    (handler : TopologyHandler) (polled : PolledRun) : PolledCall → Option PolledRun
  | .configureAllQueues connections =>
    some { polled with setup := (configureAllQueues broker params handler connections polled.setup).2 }
  | .resetTopologyHandler => some { polled with setup := (handler.reset polled.setup).2 }
  | .createConsumer connection =>
    some { polled with setup := (createConsumer broker params handler connection polled.setup).2 }
  | .createProducer connection =>
    match createProducer broker params producerParams handler connection polled.setup with
    | (.ok producer, setup) => some ⟨setup, polled.producers ++ [producer]⟩
    | (.error _, setup) => some { polled with setup }
  | .recovery position connection call =>
    polled.recordings[position]?.bind fun recording => writtenRecovery broker polled recording connection call

end PerfTestModel

namespace PerfTestProof

open Systems Program PerfTestModel TopologyRecording TopologyHandler

def heldIn (recordings : List TopologyRecording) (name : String) (record : QueueRef) : Prop :=
  ∃ recording ∈ recordings, recording.queues.lookup name = some record

structure PolledSetup (listed : List String) (setup : Setup) : Prop where
  queues : setup.topologyRecording.queues = ∅
  bindings : setup.topologyRecording.bindings = []
  polling : setup.topologyRecording.polling = true
  children : ∀ child ∈ setup.topologyRecording.children, child.polling = true ∧ child.children = []
  tracked : TracksQueues listed (heldIn setup.topologyRecording.children) setup.world

section

variable {children : List TopologyRecording} {change : TopologyRecording → TopologyRecording} {position : ℕ}
  {name : String} {record : QueueRef}

theorem heldIn_append {others : List TopologyRecording} :
    heldIn (children ++ others) name record ↔ heldIn children name record ∨ heldIn others name record := by
  simp only [heldIn, List.mem_append, or_and_right, exists_or]

theorem heldIn_child {recording : TopologyRecording} : ¬ heldIn [recording.child] name record := by
  rintro ⟨child, member, found⟩
  rw [List.mem_singleton.mp member] at found
  cases found

theorem heldIn_modify_same (same : ∀ recording, (change recording).queues = recording.queues) :
    heldIn (children.modify position change) = heldIn children := by
  induction children generalizing position with
  | nil => rw [List.modify_nil]
  | cons child children ih =>
    funext name record
    cases position with
    | zero => simp only [List.modify_zero_cons, heldIn, List.exists_mem_cons_iff, same]
    | succ position =>
      have rest := congrFun (congrFun (@ih position) name) record
      simp only [heldIn] at rest
      simp only [List.modify_succ_cons, heldIn, List.exists_mem_cons_iff, rest]

/-- A record is held under its name from then on, unless the name is taken. -/
theorem heldIn_recordQueue {child : TopologyRecording} (found : children[position]? = some child) (queue : String)
    (new : QueueRef) :
    heldIn (children.modify position fun recording => recording.recordQueue queue new) name record ↔
      heldIn children name record ∨ queue ∉ child.queues ∧ name = queue ∧ record = new := by
  induction children generalizing position with
  | nil => cases found
  | cons first children ih =>
    cases position with
    | zero =>
      cases found
      simp only [List.modify_zero_cons, heldIn, List.exists_mem_cons_iff, or_right_comm, TopologyRecording.recordQueue]
      apply or_congr_left
      by_cases taken : queue ∈ child.queues
      · simp [NameMap.putIfAbsent, taken]
      · by_cases same : name = queue
        · subst same
          simp [NameMap.putIfAbsent, taken, AList.lookup_eq_none.mpr taken, eq_comm]
        · simp [NameMap.putIfAbsent, taken, AList.lookup_insert_ne same, same]
    | succ position =>
      have rest := ih found
      simp only [heldIn] at rest
      simp only [List.modify_succ_cons, heldIn, List.exists_mem_cons_iff, rest, or_assoc]

end

def KeepsPolled (listed : List String) (setup after : Setup) : Prop :=
  setup.topologyRecording.children.length ≤ after.topologyRecording.children.length ∧
    (PolledSetup listed setup → PolledSetup listed after)

instance (listed : List String) : IsPreorder Setup (KeepsPolled listed) where
  refl _ := ⟨Nat.le_refl _, id⟩
  trans _ _ _ first second := ⟨first.1.trans second.1, second.2 ∘ first.2⟩

abbrev Keeping {Value : Type} (listed : List String) (program : Setting Value) (setup : Setup) : Prop :=
  program.follows (KeepsPolled listed) (fun _ => True) (fun _ _ => True) setup

section

variable {listed : List String} {broker : Broker} {params : MulticastParams} {handler : TopologyHandler}
  {setup : Setup} {Value Other : Type}

theorem keeping_pure (value : Value) : Keeping listed (pure value) setup := follows_pure trivial

theorem keeping_throw (failure : Failure) : Keeping listed (throw failure : Setting Value) setup :=
  follows_throw trivial

theorem Idles.keeps {after : World} (idles : Idles setup.world after) :
    KeepsPolled listed setup { setup with world := after } :=
  ⟨Nat.le_refl _, fun polled =>
    ⟨polled.queues, polled.bindings, polled.polling, polled.children, idles.tracked polled.tracked⟩⟩

theorem keeping_onBroker {call : Call Value} (idle : Idling call setup.world) :
    Keeping listed (onBroker call) setup := by
  rw [Keeping, follows, onBroker, ends_within]
  exact ends_mono idle (fun _ _ => And.imp_left Idles.keeps) fun _ _ => And.imp_left Idles.keeps

theorem keeping_newChild :
    newChild.follows (KeepsPolled listed) (fun _ => True)
      (fun position after => position < after.topologyRecording.children.length) setup := by
  refine ⟨⟨?_, fun polled => ⟨polled.queues, polled.bindings, polled.polling, ?_, ?_⟩⟩, ?_⟩
  · rw [addChild_children, List.length_append]
    exact Nat.le_add_right _ _
  · rw [addChild_children, List.forall_mem_append, List.forall_mem_singleton]
    exact ⟨polled.children, polled.polling, rfl⟩
  · have same : heldIn (setup.topologyRecording.addChild setup.topologyRecording.child).children =
        heldIn setup.topologyRecording.children := by
      funext name record
      rw [addChild_children, heldIn_append, or_iff_left heldIn_child]
    rw [same]
    exact polled.tracked
  · change _ < (setup.topologyRecording.addChild setup.topologyRecording.child).children.length
    rw [addChild_children, List.length_append]
    exact Nat.lt_succ_self _

theorem keeping_inChild {position : ℕ} {change : TopologyRecording → TopologyRecording}
    (queues : ∀ recording, (change recording).queues = recording.queues)
    (polling : ∀ recording, (change recording).polling = recording.polling)
    (children : ∀ recording, (change recording).children = recording.children) :
    Keeping listed (inChild position change) setup := by
  refine ⟨⟨?_, fun polled => ⟨polled.queues, polled.bindings, polled.polling, fun child member => ?_, ?_⟩⟩, trivial⟩
  · exact Nat.le_of_eq (List.length_modify _ _ _).symm
  · rcases mem_modify member with before | ⟨original, before, rfl⟩
    · exact polled.children child before
    · rw [polling, children]
      exact polled.children original before
  · change TracksQueues listed (heldIn (List.modify _ _ _)) _
    rw [heldIn_modify_same queues]
    exact polled.tracked

theorem keeping_getRoutingKey : Keeping listed handler.getRoutingKey setup := by
  rw [Keeping, follows, getRoutingKey_ends]
  split
  · exact ⟨refl_of _ _, trivial⟩
  · exact ⟨refl_of _ _, trivial⟩

theorem keeping_next : Keeping listed handler.next setup := by
  cases handler with
  | fixedQueues routingKey queueNames => exact keeping_pure _
  | sequence queues routingKey =>
    exact ⟨⟨Nat.le_refl _, fun polled =>
      ⟨polled.queues, polled.bindings, polled.polling, polled.children, polled.tracked⟩⟩, trivial⟩

theorem keeping_reset : Keeping listed handler.reset setup := by
  cases handler with
  | fixedQueues routingKey queueNames => exact keeping_pure _
  | sequence queues routingKey =>
    exact ⟨⟨Nat.le_refl _, fun polled =>
      ⟨polled.queues, polled.bindings, polled.polling, polled.children, polled.tracked⟩⟩, trivial⟩

theorem keeping_askFirst {asks : Call Bool} (idle : ∀ world, Idling asks world) :
    Keeping listed (askFirst params asks) setup := by
  unfold askFirst
  split
  · exact keeping_onBroker (idle _)
  · exact keeping_pure _

theorem keeping_declareExchange (state : ConfigurationState) :
    Keeping listed (declareExchange broker params state) setup := by
  rw [declareExchange_eq]
  refine (keeping_askFirst fun _ => idling_exchangeExists).bind fun found asked => ?_
  split
  · apply (keeping_onBroker idling_exchangeDeclare).bind
    exact fun _ _ => keeping_inChild (fun _ => rfl) (fun _ => rfl) fun _ => rfl
  · exact keeping_pure _

theorem keeping_bindQueue (state : ConfigurationState) (qName : String) :
    Keeping listed (bindQueue broker params handler state qName) setup := by
  unfold bindQueue
  split
  · refine keeping_getRoutingKey.bind fun routingKey _ => ?_
    apply (keeping_onBroker idling_queueBind).bind
    exact fun _ _ => keeping_inChild (fun _ => rfl) (fun _ => rfl) fun _ => rfl
  · exact keeping_pure _

def newQueue (params : MulticastParams) (qName name : String) : RecordedQueue :=
  ⟨name, !params.exclusive, params.exclusive, params.autoDelete, params.queueArguments, qName == ""⟩

theorem recordable_newQueue {holds : String → QueueRef → Prop} {world after : World} {qName generatedName : String}
    {added : Prop} {declaration : Performed} {durable exclusive autoDelete : Bool} {arguments : Arguments}
    (fresh : broker.NamesAfresh listed) (shared : params.exclusive = false) (deleted : params.autoDelete = true)
    (asked : qName = "" ∨ qName ∈ listed) (tracked : TracksQueues listed holds world)
    (operation : declaration.operation = .queueDeclare qName durable exclusive autoDelete arguments)
    (answer : broker.reply world.performed declaration.operation = .ok generatedName)
    (reply : declaration.reply = .ok generatedName) (performed : after.performed = world.performed ++ [declaration])
    (either : added ∨ ∃ record, holds (declaredQueue qName generatedName) record) :
    Recordable listed holds world after (newQueue params qName (declaredQueue qName generatedName)) added := by
  refine ⟨deleted, shared, fun client => ?_, fun server => ?_⟩
  · have requested : qName ≠ "" := beq_eq_false_iff_ne.mp client
    have named : declaredQueue qName generatedName = qName := if_neg requested
    rw [named] at either ⊢
    exact ⟨asked.resolve_left requested, requested, either⟩
  · have requested : qName = "" := beq_iff_eq.mp server
    subst requested
    rw [operation] at answer
    obtain ⟨unlisted, undeclared⟩ := fresh _ _ _ _ _ _ answer
    have unknown : ¬ Known world.performed generatedName := by
      rintro ⟨event, member, same⟩
      exact undeclared event member same
    have declares : declaration.declaredName = some generatedName := by
      rw [Performed.declaredName, operation, reply]
      rfl
    refine ⟨unlisted, unknown, ?_, either.resolve_right ?_⟩
    · rw [performed]
      exact ⟨declaration, List.mem_append_right _ (List.mem_singleton_self _), declares⟩
    · rintro ⟨record, held⟩
      change holds generatedName record at held
      cases kind : (world.records record).serverNamed with
      | true => exact unknown (tracked.serverKeys _ _ held kind).2
      | false =>
        have named := tracked.clientKeys _ _ held kind
        exact unlisted (named ▸ (tracked.named.client record ⟨_, held⟩ kind).1)

theorem keeping_declareNewQueue (fresh : broker.NamesAfresh listed) (shared : params.exclusive = false)
    (deleted : params.autoDelete = true) {state : ConfigurationState} {qName : String}
    (asked : qName = "" ∨ qName ∈ listed)
    (inside : state.topologyRecording < setup.topologyRecording.children.length) :
    Keeping listed (declareNewQueue broker params state qName) setup := by
  simp only [Keeping, follows, declareNewQueue, PerfTestModel.recordQueue, inChild, queueDeclare, onBroker, ends_bind,
    ends_within, perform_ends, ends_pure, ends_get, ends_set, ends_modify]
  split
  · rename_i generatedName answer
    refine ⟨⟨?_, fun polled => ⟨polled.queues, polled.bindings, polled.polling, fun child member => ?_, ?_⟩⟩, trivial⟩
    · exact Nat.le_of_eq (List.length_modify _ _ _).symm
    · rcases mem_modify member with before | ⟨original, before, rfl⟩
      · exact polled.children child before
      · exact polled.children original before
    · have found := List.getElem?_eq_getElem inside
      refine polled.tracked.recorded ?_ ⟨fun _ _ => heldIn_recordQueue found _ _, rfl, rfl, rfl⟩ ?_
      · refine recordable_newQueue fresh shared deleted asked polled.tracked rfl answer rfl rfl ?_
        by_cases taken : declaredQueue qName generatedName ∈
            setup.topologyRecording.children[state.topologyRecording].queues
        · obtain ⟨record, held⟩ := Option.isSome_iff_exists.mp (AList.lookup_isSome.mpr taken)
          exact .inr ⟨record, _, List.getElem_mem inside, held⟩
        · exact .inl taken
      · change autoDeleteQueues (setup.world.performed ++ [_]) = _
        rw [autoDeleteQueues_append, deleted]
        rfl
  · refine ⟨Idles.keeps ?_, trivial⟩
    exact ⟨rfl, rfl, [_], rfl, List.forall_mem_singleton.mpr (.inl rfl)⟩

def Inside (states : List ConfigurationState) (setup : Setup) : Prop :=
  ∀ state ∈ states, state.topologyRecording < setup.topologyRecording.children.length

section

variable (fresh : broker.NamesAfresh listed) (shared : params.exclusive = false)
  (deleted : params.autoDelete = true)

include fresh shared deleted

theorem keeping_declareQueue {state : ConfigurationState} {qName : String} (asked : qName = "" ∨ qName ∈ listed)
    (inside : state.topologyRecording < setup.topologyRecording.children.length) :
    Keeping listed (declareQueue broker params state qName) setup := by
  rw [declareQueue_eq]
  refine follows_bind (keeping_askFirst fun _ => idling_existsAt rfl) fun found middle kept _ => ?_
  split
  · exact keeping_pure _
  · exact keeping_declareNewQueue fresh shared deleted asked (inside.trans_le kept.1)

theorem keeping_configureQueue {callback : Setting Unit} (after : ∀ setup, Keeping listed callback setup)
    {states : List ConfigurationState} {numbered : String × ℕ} (asked : numbered.1 = "" ∨ numbered.1 ∈ listed)
    (inside : Inside states setup) :
    (configureQueue broker params handler callback states numbered).follows (KeepsPolled listed) (fun _ => True) Inside
      setup := by
  unfold configureQueue
  split
  · rename_i state found
    have here := inside state (List.mem_of_getElem? found)
    refine follows_bind (keeping_declareQueue fresh shared deleted asked here) fun qName declared first _ => ?_
    refine follows_bind (keeping_bindQueue state qName) fun _ bound second _ => ?_
    refine follows_bind (after bound) fun _ last third _ => follows_pure ?_
    intro other member
    have longer := (first.1.trans second.1).trans third.1
    rcases mem_modify member with before | ⟨original, before, rfl⟩
    · exact (inside other before).trans_le longer
    · exact (inside original before).trans_le longer
  · exact follows_throw trivial

theorem keeping_configureQueues {callback : Setting Unit} (after : ∀ setup, Keeping listed callback setup)
    (connections : List Connection) {queues : List String} (asked : ∀ queue ∈ queues, queue ∈ listed) :
    Keeping listed (configureQueues broker params handler connections queues callback) setup := by
  have opened : (connections.foldlM (openState broker) []).follows (KeepsPolled listed) (fun _ => True) Inside
      setup := by
    refine follows_foldlM (List.forall_mem_nil _) fun connection _ states middle _ inside => ?_
    refine follows_bind (keeping_onBroker idling_createChannel) fun channel opened first _ => ?_
    refine follows_bind keeping_newChild fun position made second here => follows_pure ?_
    rw [Inside, List.forall_mem_append, List.forall_mem_singleton]
    exact ⟨fun state held => (inside state held).trans_le (first.1.trans second.1), here⟩
  refine follows_bind opened fun states middle _ inside => ?_
  cases states with
  | nil => exact follows_throw trivial
  | cons firstState states =>
    refine follows_bind (keeping_declareExchange firstState) fun _ declared kept _ => ?_
    have configured : ((queuesToConfigure params queues).zipIdx.foldlM
        (configureQueue broker params handler callback) (firstState :: states)).follows (KeepsPolled listed)
        (fun _ => True) Inside declared := by
      refine follows_foldlM (fun state held => (inside state held).trans_le kept.1) ?_
      intro numbered member states _ _ inside
      have asks := mem_queuesToConfigure (List.fst_mem_of_mem_zipIdx member)
      exact keeping_configureQueue fresh shared deleted after (asks.symm.imp And.left (asked _)) inside
    exact follows_bind configured fun _ _ _ _ => follows_pure trivial

theorem keeping_configureAllQueues (asked : ∀ queue ∈ listedQueues handler, queue ∈ listed)
    (connections : List Connection) : Keeping listed (configureAllQueues broker params handler connections) setup := by
  have children : ∀ setup, Keeping listed (connections.foldlM childFor []) setup := by
    intro setup
    refine follows_foldlM trivial fun connection _ results _ _ _ => ?_
    exact follows_bind keeping_newChild fun _ _ _ _ => follows_pure trivial
  cases handler with
  | fixedQueues routingKey queueNames =>
    unfold configureAllQueues
    dsimp only
    split
    · exact keeping_configureQueues fresh shared deleted (fun _ => keeping_pure _) connections asked
    · exact children setup
  | sequence queues routingKey =>
    unfold configureAllQueues
    dsimp only
    rw [shared, if_neg Bool.false_ne_true]
    exact keeping_configureQueues fresh shared deleted (fun _ => keeping_next) connections asked

end

theorem PolledSetup.addChild (polled : PolledSetup listed setup) {client : TopologyRecording}
    (polling : client.polling = true) (leaf : client.children = [])
    (held : ∀ name record, client.queues.lookup name = some record →
      heldIn setup.topologyRecording.children name record) :
    PolledSetup listed { setup with topologyRecording := setup.topologyRecording.addChild client } := by
  have same : heldIn (setup.topologyRecording.children ++ [client]) = heldIn setup.topologyRecording.children := by
    funext name record
    rw [heldIn_append, or_iff_left_of_imp]
    rintro ⟨child, member, found⟩
    rw [List.mem_singleton.mp member] at found
    exact held name record found
  refine ⟨polled.queues, polled.bindings, polled.polling, ?_, ?_⟩
  · rw [addChild_children, List.forall_mem_append, List.forall_mem_singleton]
    exact ⟨polled.children, polling, leaf⟩
  · rw [addChild_children, same]
    exact polled.tracked

theorem keeping_subRecordingOf {queues : List String} (single : queues = [] ∨ ∃ queue, queues = [queue]) :
    Keeping listed (subRecordingOf queues) setup := by
  rw [Keeping, follows, subRecordingOf, ends_bind, ends_get]
  cases ran : setup.topologyRecording.subRecording queues with
  | error failure => exact ⟨refl_of _ _, trivial⟩
  | ok client =>
    refine ⟨⟨?_, fun polled => ?_⟩, trivial⟩
    · rw [addChild_children, List.length_append]
      exact Nat.le_add_right _ _
    · rcases single with rfl | ⟨queue, rfl⟩
      · cases ran
        refine polled.addChild polled.polling rfl fun name record none => ?_
        cases none
      · obtain ⟨record, rfl, found⟩ := subRecording_single polled.bindings ran
        refine polled.addChild polled.polling rfl fun name other held => ?_
        rcases lookup_putIfAbsent held with none | ⟨rfl, rfl⟩
        · cases none
        · exact child_of_lookup polled.queues (fun child member => (polled.children child member).2) found

section

variable (fresh : broker.NamesAfresh listed) (shared : params.exclusive = false)
  (deleted : params.autoDelete = true) (asked : ∀ queue ∈ listedQueues handler, queue ∈ listed)

include fresh shared deleted asked

theorem keeping_configureQueuesForClient (connection : Connection) :
    Keeping listed (configureQueuesForClient broker params handler connection) setup := by
  unfold configureQueuesForClient
  cases handler with
  | fixedQueues routingKey queueNames =>
    dsimp only
    rw [shared, if_neg Bool.false_ne_true]
    refine follows.bind (keeping_pure _) fun _ _ => ?_
    refine (keeping_configureQueues fresh shared deleted (fun _ => keeping_pure _) _ asked).bind fun results _ => ?_
    cases results with
    | nil => exact keeping_throw _
    | cons result results => exact keeping_pure _
  | sequence queues routingKey =>
    dsimp only
    rw [shared, if_neg Bool.false_ne_true]
    have names := getQueueNamesForClient_follows queues routingKey (KeepsPolled listed) setup
    refine follows_bind (follows_mono names (fun _ _ _ => id) fun _ _ _ => trivial) ?_
    rintro _ middle _ rfl
    refine (keeping_subRecordingOf ?_).bind fun _ _ => keeping_pure _
    unfold subRecordedQueues requested
    split
    · exact .inl rfl
    · dsimp only
      cases queues[middle.index % queues.length]? with
      | none => exact .inl rfl
      | some queue => exact .inr ⟨queue, rfl⟩

theorem keeping_createConsumer (connection : Connection) :
    Keeping listed (createConsumer broker params handler connection) setup := by
  refine (keeping_configureQueuesForClient fresh shared deleted asked connection).bind fun result _ => ?_
  refine (keeping_onBroker idling_createChannel).bind fun channel _ => ?_
  refine (keeping_onBroker (idling_performEach (consumerModes_setMode params))).bind fun _ _ => ?_
  refine keeping_getRoutingKey.bind fun routingKey keyed => ?_
  have listed : Keeping listed (modify fun setup : Setup => { setup with consumers := setup.consumers ++
      [⟨channel, routingKey, result.configuredQueues, result.topologyRecording⟩] }) keyed :=
    ⟨⟨Nat.le_refl _, fun polled =>
      ⟨polled.queues, polled.bindings, polled.polling, polled.children, polled.tracked⟩⟩, trivial⟩
  exact listed.bind fun _ _ => keeping_next

end

theorem keeping_createProducer (producerParams : ProducerParams) (connection : Connection) :
    (createProducer broker params producerParams handler connection).follows (KeepsPolled listed) (fun _ => True)
      (fun producer _ => producer.topologyRecording.queues = ∅ ∧
        producer.topologyRecording.polling = params.polling) setup := by
  refine follows_bind (keeping_onBroker idling_createChannel) fun channel _ _ _ => ?_
  refine follows_bind (keeping_onBroker (idling_performEach (producerModes_setMode producerParams))) fun _ _ _ _ => ?_
  have declares : ∀ setup, (declareProducerExchange broker params connection channel).follows (KeepsPolled listed)
      (fun _ => True) (fun recording _ => recording.queues = ∅ ∧ recording.polling = params.polling) setup := by
    intro setup
    rw [declareProducerExchange_eq]
    refine follows_bind (keeping_askFirst fun _ => idling_exchangeExists) fun found _ _ _ => ?_
    split
    · exact follows_bind (keeping_onBroker idling_exchangeDeclare) fun _ _ _ _ => follows_pure ⟨rfl, rfl⟩
    · exact follows_pure ⟨rfl, rfl⟩
  refine follows_bind (declares _) fun recording _ _ holds => ?_
  refine follows_bind keeping_getRoutingKey fun routingKey _ _ _ => ?_
  exact follows_bind keeping_next fun _ _ _ _ => follows_pure holds

end

structure Tracks (listed : List String) (polled : PolledRun) : Prop where
  setup : PolledSetup listed polled.setup
  producers : ∀ producer ∈ polled.producers,
    producer.topologyRecording.queues = ∅ ∧ producer.topologyRecording.polling = true

section

variable {listed : List String} {broker : Broker} {params : MulticastParams} {producerParams : ProducerParams}
  {handler : TopologyHandler} {polled next : PolledRun} {recording : TopologyRecording} {connection : Connection}

theorem Tracks.members (tracks : Tracks listed polled) (member : recording ∈ polled.recordings) :
    recording.polling = true ∧
      ∀ record ∈ recording.queues.values, record ∈ heldBy (heldIn polled.setup.topologyRecording.children) := by
  rw [PolledRun.recordings, List.mem_append, nodes_cons,
    nodesOf_flat fun child member => (tracks.setup.children child member).2] at member
  rcases member with inTree | own
  · rcases List.mem_cons.mp inTree with rfl | child
    · rw [tracks.setup.queues]
      exact ⟨tracks.setup.polling, List.forall_mem_nil _⟩
    · refine ⟨(tracks.setup.children recording child).1, fun record held => ?_⟩
      obtain ⟨name, found⟩ := mem_values_iff.mp held
      exact ⟨name, recording, child, found⟩
  · obtain ⟨producer, created, rfl⟩ := List.mem_map.mp own
    obtain ⟨queues, polling⟩ := tracks.producers producer created
    rw [queues]
    exact ⟨polling, List.forall_mem_nil _⟩

theorem Tracks.recovered (tracks : Tracks listed polled) (fresh : broker.NamesAfresh listed)
    (member : recording ∈ polled.recordings) {call : RecoveryCall}
    (recovered : writtenRecovery broker polled recording connection call = some next) : Tracks listed next := by
  unfold writtenRecovery at recovered
  dsimp only at recovered
  split at recovered
  · rename_i passed
    cases recovered
    rw [Bool.and_eq_true, List.all_eq_true] at passed
    obtain ⟨own, written⟩ := passed
    obtain ⟨polling, members⟩ := tracks.members member
    have executed : (call.execute broker recording connection).follows
        (Recovering listed (heldIn polled.setup.topologyRecording.children)) (fun _ => True) (fun _ _ => True)
        polled.setup.world := by
      cases call with
      | recover => exact recover_recovering recording fresh polling members
      | recoverQueueAndBindings queueRecord =>
        refine recoverQueueAndBindings_recovering recording fresh polling queueRecord fun record held => ?_
        rw [Option.mem_def.mp held] at own
        exact members record (of_decide_eq_true own)
    have related := after_of_ends (ends_mono executed (fun _ _ => And.left) fun _ _ => And.left)
    obtain ⟨events, performed, kept⟩ := related
    rw [performed, List.drop_left] at written
    have tracked := kept (fun event held => Bool.not_eq_true' _ ▸ written event held) tracks.setup.tracked
    exact ⟨⟨tracks.setup.queues, tracks.setup.bindings, tracks.setup.polling, tracks.setup.children, tracked⟩,
      tracks.producers⟩
  · cases recovered

theorem Tracks.kept {Value : Type} {program : Setting Value} (tracks : Tracks listed polled)
    (keeping : Keeping listed program polled.setup) :
    Tracks listed { polled with setup := (program polled.setup).2 } :=
  ⟨(after_of_ends (ends_mono keeping (fun _ _ => And.left) fun _ _ => And.left)).2 tracks.setup, tracks.producers⟩

theorem Tracks.step (fresh : broker.NamesAfresh (listedQueues handler)) (polling : params.polling = true)
    (shared : params.exclusive = false) (deleted : params.autoDelete = true)
    (tracks : Tracks (listedQueues handler) polled) {call : PolledCall}
    (stepped : polledStep broker params producerParams handler polled call = some next) :
    Tracks (listedQueues handler) next := by
  have asked : ∀ queue ∈ listedQueues handler, queue ∈ listedQueues handler := fun _ => id
  cases call with
  | configureAllQueues connections =>
    cases stepped
    exact tracks.kept (keeping_configureAllQueues fresh shared deleted asked connections)
  | resetTopologyHandler =>
    cases stepped
    exact tracks.kept keeping_reset
  | createConsumer connection =>
    cases stepped
    exact tracks.kept (keeping_createConsumer fresh shared deleted asked connection)
  | createProducer connection =>
    have created : (createProducer broker params producerParams handler connection).follows
        (KeepsPolled (listedQueues handler)) _ _ polled.setup := keeping_createProducer producerParams connection
    unfold polledStep at stepped
    dsimp only at stepped
    rcases ends_cases created with ⟨producer, after, ran, kept, queues, samePolling⟩ | ⟨failure, after, ran, kept, _⟩
    · rw [ran] at stepped
      cases stepped
      refine ⟨kept.2 tracks.setup, ?_⟩
      rw [List.forall_mem_append, List.forall_mem_singleton]
      exact ⟨tracks.producers, queues, samePolling.trans polling⟩
    · rw [ran] at stepped
      cases stepped
      exact ⟨kept.2 tracks.setup, tracks.producers⟩
  | recovery position connection call =>
    obtain ⟨recording, found, recovered⟩ := Option.bind_eq_some_iff.mp stepped
    exact tracks.recovered fresh (List.mem_of_getElem? found) recovered

theorem tracks_init (listed : List String) (polling : params.polling = true) :
    Tracks listed (PolledRun.init params) := by
  have none : ∀ name record, ¬ heldIn [] name record := fun _ _ ⟨_, member, _⟩ => List.not_mem_nil member
  have empty : ∀ record, record ∉ heldBy (heldIn []) := fun record ⟨name, held⟩ => none name record held
  have named : Named listed (heldBy (heldIn [])) World.start :=
    ⟨fun record held => absurd held (empty record), fun record held => absurd held (empty record),
      fun record held => absurd held (empty record)⟩
  refine ⟨⟨rfl, rfl, polling, List.forall_mem_nil _, named, ?_, ?_, ?_, ?_, fun name => ?_⟩, List.forall_mem_nil _⟩
  · exact fun name record held => absurd held (none name record)
  · exact fun name record held => absurd held (none name record)
  · exact fun record held => absurd held (empty record)
  · exact fun record held => absurd held (empty record)
  · exact iff_of_false (Finset.notMem_empty name) fun ⟨record, held, _⟩ => empty record held

mutual

theorem allQueues_eq : ∀ recording : TopologyRecording,
    recording.allQueues = (nodes recording).flatMap fun node => node.queues.values
  | ⟨_, _, _, _, _, children⟩ => by rw [allQueues, nodes, List.flatMap_cons, allQueuesOf_eq children]

theorem allQueuesOf_eq : ∀ children : List TopologyRecording,
    allQueuesOf children = (nodesOf children).flatMap fun node => node.queues.values
  | [] => by rw [allQueuesOf, nodesOf, List.flatMap_nil]
  | child :: children => by
    rw [allQueuesOf, nodesOf, List.flatMap_append, allQueues_eq child, allQueuesOf_eq children]

end

theorem PolledSetup.mem_allQueues {setup : Setup} (polled : PolledSetup listed setup) {record : QueueRef} :
    record ∈ setup.topologyRecording.allQueues ↔ record ∈ heldBy (heldIn setup.topologyRecording.children) := by
  have own : setup.topologyRecording.queues.values = [] := by
    rw [polled.queues]
    rfl
  rw [allQueues_eq, nodes_cons, nodesOf_flat fun child member => (polled.children child member).2, List.flatMap_cons,
    own, List.nil_append, List.mem_flatMap]
  simp only [mem_values_iff]
  constructor
  · rintro ⟨child, member, name, found⟩
    exact ⟨name, child, member, found⟩
  · rintro ⟨name, child, member, found⟩
    exact ⟨child, member, name, found⟩

structure DeletesOnly (queues : Finset String) (before after : World) (events : List Performed) : Prop where
  performed : after.performed = before.performed ++ events
  deletions : ∀ event ∈ events,
    (∃ name ∈ queues, event.operation = .queueDelete name) ∨ event.operation = .channelClose

theorem Deletes.only {before after : World} {records : List QueueRef} {events : List Performed}
    (deletes : Deletes before.opened records events after) {queues : Finset String}
    (named : ∀ record ∈ records, (before.records record).name ∈ queues) : DeletesOnly queues before after events := by
  refine ⟨deletes.performed, fun event member => ?_⟩
  have operation := deletes.operations.subset (List.mem_map_of_mem member)
  obtain ⟨record, listed, same⟩ := List.mem_map.mp operation
  exact .inl ⟨_, named record listed, same.symm⟩

theorem DeletesOnly.closed {queues : Finset String} {before after : World} {events : List Performed} {event : Performed}
    (only : DeletesOnly queues before after events) (closes : event.operation = .channelClose) :
    DeletesOnly queues before (after.did event) (events ++ [event]) := by
  apply DeletesOnly.mk
  · rw [World.did, only.performed, List.append_assoc]
  · rw [List.forall_mem_append, List.forall_mem_singleton]
    exact ⟨only.deletions, .inr closes⟩

theorem autoDeleteQueues_closed {world : World} {event : Performed} (closes : event.operation = .channelClose) :
    autoDeleteQueues (world.did event).performed = autoDeleteQueues world.performed := by
  rw [World.did, autoDeleteQueues_append, List.foldl_cons, List.foldl_nil, autoDeleteAfter, closes]

theorem accepted_before {events later : List Performed} {operation : BrokerOperation}
    (accepted : Accepted events operation) : Accepted (events ++ later) operation := by
  obtain ⟨event, member, issued⟩ := accepted
  exact ⟨event, List.mem_append_left _ member, issued⟩

theorem Deletes.all {opened after : World} {records : List QueueRef} {events : List Performed}
    (deletes : Deletes opened records events after) (passed : ∀ event ∈ events, event.failed = false)
    (whole : events.length = records.length) :
    autoDeleteQueues after.performed =
      autoDeleteQueues opened.performed \ (records.map fun record => (opened.records record).name).toFinset ∧
    ∀ record ∈ records, Accepted events (.queueDelete (opened.records record).name) := by
  have operations : events.map Performed.operation =
      records.map fun record => .queueDelete (opened.records record).name :=
    deletes.operations.eq_of_length (by rw [List.length_map, List.length_map, whole])
  apply And.intro
  · rw [deletes.performed, autoDeleteQueues_deletes passed]
    rw [operations, List.map_map]
    rfl
  · intro record member
    have issued : .queueDelete (opened.records record).name ∈ events.map Performed.operation := by
      rw [operations]
      exact List.mem_map_of_mem member
    obtain ⟨event, held, same⟩ := List.mem_map.mp issued
    exact ⟨event, held, same, passed event held⟩

/-- Deletions of records that name the auto-delete queues delete them all, unless they are interrupted or one fails. -/
theorem closing_deletes {interrupted : World → Bool} {channel : Channel} {before : World} {records : List QueueRef}
    (polled : ∀ record ∈ records, (before.records record).autoDelete = true ∧ (before.records record).exclusive = false)
    (names : ∀ name, name ∈ autoDeleteQueues before.performed ↔
      name ∈ records.map fun record => (before.records record).name) :
    ((deleteAutoDeleteQueues broker interrupted channel records).closing (closeChannel broker channel)).ends
      (fun _ after => ∃ events, DeletesOnly (autoDeleteQueues before.performed) before after events ∧
        ((∀ world, interrupted world = false) → autoDeleteQueues after.performed = ∅ ∧
          ∀ name ∈ autoDeleteQueues before.performed, Accepted events (.queueDelete name)))
      (fun _ after => ∃ events, DeletesOnly (autoDeleteQueues before.performed) before after events ∧
        ∃ event ∈ events, event.failed = true) before.opened := by
  have named : ∀ record ∈ records, (before.records record).name ∈ autoDeleteQueues before.performed :=
    fun record member => (names _).mpr (List.mem_map_of_mem member)
  have opened : ∀ record ∈ records,
      (before.opened.records record).autoDelete = true ∧ (before.opened.records record).exclusive = false := polled
  rw [ends_closing]
  apply ends_mono (deleteAutoDeleteQueues_ends opened)
  · rintro _ after ⟨events, deletes, passed, whole⟩
    apply ends_mono (closeChannel_ends broker channel after)
    · rintro _ _ ⟨event, closes, rfl⟩
      refine ⟨_, (deletes.only named).closed closes, fun never => ?_⟩
      obtain ⟨left, accepted⟩ := deletes.all passed (whole never)
      refine ⟨?_, fun name member => ?_⟩
      · rw [autoDeleteQueues_closed closes, left, Finset.sdiff_eq_empty_iff_subset]
        exact fun name member => List.mem_toFinset.mpr ((names name).mp member)
      · obtain ⟨record, listed, rfl⟩ := List.mem_map.mp ((names name).mp member)
        exact accepted_before (accepted record listed)
    · rintro _ _ ⟨event, closes, failed, rfl⟩
      have last : event ∈ events ++ [event] := List.mem_append_right _ (List.mem_singleton_self _)
      exact ⟨_, (deletes.only named).closed closes, event, last, failed⟩
  · -- the failure of the deletion is thrown, also when the channel cannot be closed
    rintro _ after ⟨events, deletes, event, member, failed⟩
    apply ends_mono (closeChannel_ends broker channel after)
    · rintro _ _ ⟨close, closes, rfl⟩
      exact ⟨_, (deletes.only named).closed closes, event, List.mem_append_left _ member, failed⟩
    · rintro _ _ ⟨close, closes, -, rfl⟩
      exact ⟨_, (deletes.only named).closed closes, event, List.mem_append_left _ member, failed⟩

/-- At any moment of a run without failures to write in its recoveries, the auto-delete queues that it left on the
    broker are those that its records name. They are deleted in the end, unless the thread is interrupted. -/
theorem polling_leaves_no_queue (fresh : broker.NamesAfresh (listedQueues handler)) (polling : params.polling = true)
    (shared : params.exclusive = false) (deleted : params.autoDelete = true) {calls : List PolledCall}
    (ran : run (polledStep broker params producerParams handler) (PolledRun.init params) calls = some polled) :
    (∀ name, name ∈ autoDeleteQueues polled.setup.world.performed ↔ name ∈ polled.recordedNames) ∧
    ∀ interrupted connection, (deleteAutoDeleteQueuesIfNecessary broker interrupted params connection).ends
      (fun _ after => ∃ events,
        DeletesOnly (autoDeleteQueues polled.setup.world.performed) polled.setup.world after.world events ∧
        ((∀ world, interrupted world = false) → autoDeleteQueues after.world.performed = ∅ ∧
          ∀ name ∈ autoDeleteQueues polled.setup.world.performed, Accepted events (.queueDelete name)))
      (fun _ after => ∃ events,
        DeletesOnly (autoDeleteQueues polled.setup.world.performed) polled.setup.world after.world events ∧
        (opensEach broker polled.setup.world [connection] = false ∨ ∃ event ∈ events, event.failed = true))
      polled.setup := by
  have tracks : Tracks (listedQueues handler) polled :=
    run_invariant (Tracks (listedQueues handler)) (fun _ _ _ tracks stepped =>
      tracks.step fresh polling shared deleted stepped) (tracks_init _ polling) ran
  have tracked := tracks.setup.tracked
  have names : ∀ name, name ∈ autoDeleteQueues polled.setup.world.performed ↔ name ∈ polled.recordedNames := by
    intro name
    rw [tracked.queues, PolledRun.recordedNames, List.mem_map]
    simp only [tracks.setup.mem_allQueues]
  refine ⟨names, fun interrupted connection => ?_⟩
  rw [deleteAutoDeleteQueuesIfNecessary, if_pos polling, ends_bind, onBroker, ends_within]
  apply ends_mono (createChannel_opens broker connection polled.setup.world)
  · rintro channel _ ⟨_, _, rfl⟩
    rw [ends_bind, ends_get, onBroker, ends_within]
    have each : ∀ record ∈ polled.setup.topologyRecording.allQueues,
        (polled.setup.world.records record).autoDelete = true ∧ (polled.setup.world.records record).exclusive = false :=
      fun record member => tracked.polled record (tracks.setup.mem_allQueues.mp member)
    apply ends_mono (closing_deletes each names) fun _ _ => id
    rintro _ after ⟨events, only, failed⟩
    exact ⟨events, only, .inr failed⟩
  · rintro _ _ ⟨closed, rfl, _⟩
    exact ⟨[], ⟨(List.append_nil _).symm, List.forall_mem_nil _⟩, .inl closed⟩

end

def polledParams : MulticastParams := { ordersParams "direct" with autoDelete := true, polling := true }

def polledBroker : Broker := keepingBroker [] ⟨∅, ∅⟩ []

def polledRun (calls : List PolledCall) : Option PolledRun :=
  run (polledStep polledBroker polledParams ⟨false, 0, 0, 0, 0, -1⟩ (.fixedQueues "key" [])) (.init polledParams) calls

theorem polledBroker_afresh : polledBroker.NamesAfresh [] := by
  intro performed durable exclusive autoDelete arguments name answer
  have answers : polledBroker.AnswersBy [] ⟨∅, ∅⟩ [] := keepingBroker_answers [] nofun
  obtain ⟨_, unlisted, _, undeclared⟩ := answers.fresh performed _ _ _ _ _ answer
  exact ⟨unlisted, undeclared⟩

def deletion (interrupted : World → Bool) (polled : PolledRun) : Except Failure Unit × Finset String :=
  let ended := deleteAutoDeleteQueuesIfNecessary polledBroker interrupted polledParams 2 polled.setup
  (ended.1, autoDeleteQueues ended.2.world.performed)

/-- The queue of the second consumer is renamed when its connection recovers. -/
theorem renamed_queue_deleted :
    ∃ polled, polledRun [.createConsumer 0, .createConsumer 1, .recovery 2 1 .recover] = some polled ∧
      polled.recordedNames = ["q", "qqqq"] ∧
      (∀ name, name ∈ autoDeleteQueues polled.setup.world.performed ↔ name ∈ polled.recordedNames) ∧
      (deleteAutoDeleteQueuesIfNecessary polledBroker (fun _ => false) polledParams 2).ends
        (fun _ after => autoDeleteQueues after.world.performed = ∅) (fun _ _ => False) polled.setup := by
  have renamed : (polledRun [.createConsumer 0, .createConsumer 1, .recovery 2 1 .recover]).map
      PolledRun.recordedNames = some ["q", "qqqq"] := by decide +kernel
  have returned : (polledRun [.createConsumer 0, .createConsumer 1, .recovery 2 1 .recover]).map
      (fun polled => (deletion (fun _ => false) polled).1) = some (.ok ()) := by decide +kernel
  cases reached : polledRun [.createConsumer 0, .createConsumer 1, .recovery 2 1 .recover] with
  | none =>
    rw [reached] at renamed
    cases renamed
  | some polled =>
    rw [reached, Option.map_some, Option.some_inj] at renamed returned
    obtain ⟨names, deletes⟩ := polling_leaves_no_queue polledBroker_afresh rfl rfl rfl reached
    refine ⟨polled, rfl, renamed, names, ?_⟩
    rcases ends_cases (deletes (fun _ => false) 2) with ⟨_, after, ran, events, _, cleared⟩ | ⟨failure, after, ran, _⟩
    · rw [ends_of_return ran]
      exact (cleared fun _ => rfl).1
    · rw [deletion, ran] at returned
      cases returned

/-- The thread is interrupted before the first deletion, as the shutdown took too long. -/
theorem interrupted_queue_left :
    ¬ ∀ (broker : Broker) (params : MulticastParams) (producerParams : ProducerParams) (handler : TopologyHandler)
      (calls : List PolledCall) (polled : PolledRun) (interrupted : World → Bool) (connection : Connection),
      broker.NamesAfresh (listedQueues handler) → params.polling = true → params.exclusive = false →
      params.autoDelete = true →
      run (polledStep broker params producerParams handler) (.init params) calls = some polled →
      (deleteAutoDeleteQueuesIfNecessary broker interrupted params connection).ends
        (fun _ after => autoDeleteQueues after.world.performed = ∅) (fun _ _ => True) polled.setup := by
  intro always
  have left : (polledRun [.createConsumer 0]).map (deletion fun _ => true) = some (.ok (), {"q"}) := by decide +kernel
  cases reached : polledRun [.createConsumer 0] with
  | none =>
    rw [reached] at left
    cases left
  | some polled =>
    rw [reached, Option.map_some, Option.some_inj] at left
    have cleared := always polledBroker polledParams ⟨false, 0, 0, 0, 0, -1⟩ (.fixedQueues "key" [])
      [.createConsumer 0] polled (fun _ => true) 2 polledBroker_afresh rfl rfl rfl reached
    rcases ends_cases cleared with ⟨_, after, ran, none⟩ | ⟨failure, after, ran, _⟩
    · rw [deletion, ran] at left
      exact absurd (none.symm.trans (congrArg Prod.snd left)) (by decide)
    · rw [deletion, ran] at left
      cases congrArg Prod.fst left

end PerfTestProof
