import Mathlib.Data.List.TakeWhile
import PerfTest.Topology.ClientRecording

namespace PerfTestModel

open Systems TopologyRecording

def declaredExchange : BrokerOperation → Option String
  | .exchangeDeclare exchange _ _ => some exchange
  | _ => none

def declaresReserved (event : Performed) : Bool := (declaredExchange event.operation).any reserved

def TopologyRecording.recoverUnreserved (recording : TopologyRecording) (broker : Broker)
    (connection : Connection) : Call Channel := do
  let channel ← createChannel broker connection
  let channel ← recording.queues.values.foldlM (recoverQueue broker recording.polling) channel
  (recording.exchanges.values.takeWhile fun exchange => !reserved exchange.name).foldlM
    (recoverExchange broker connection) channel

end PerfTestModel

namespace PerfTestProof

open Systems Program PerfTestModel TopologyRecording TopologyHandler

section

variable {broker : Broker} {allowed : Performed → Prop} {world : World} {connection : Connection}
  {channel : Channel}

theorem Performing.write {write : Channel → Call Unit}
    (performs : Performing broker allowed (write channel) world) :
    Performing broker allowed (reliableWrite broker connection channel write) world :=
  (performs.bind fun _ _ => performing_pure _).tryCatch fun _ _ => performing_createChannel

theorem performing_checkQueue (queue : RecordedQueue)
    (allows : ∀ reply, allowed ⟨channel, .queueDeclarePassive queue.name, reply⟩) :
    Performing broker allowed (checkQueue broker channel queue) world := by
  unfold checkQueue
  split
  · apply follows.tryCatch
    · exact (performing_perform allows).bind fun _ _ => performing_pure _
    · intro failure middle
      split
      · exact performing_createChannel.bind fun _ _ => performing_pure _
      · exact performing_throw failure
  · exact performing_pure _

section

variable (others : ∀ event, declaredExchange event.operation = none → allowed event)

include others

theorem performing_recoverQueue (polling : Bool) (record : QueueRef) :
    Performing broker allowed (recoverQueue broker polling channel record) world := by
  refine performing_get.bind fun _ middle => ?_
  apply (performing_checkQueue _ fun _ => others _ rfl).bind
  rintro ⟨next, redeclare⟩ checked
  have redeclares : Performing broker allowed
      (redeclareIfNeeded broker channel.connection next record redeclare) checked := by
    unfold redeclareIfNeeded
    split
    · apply Performing.write
      refine performing_get.bind fun queue _ => ?_
      apply ((performing_perform fun _ => others _ rfl).bind fun _ _ => performing_pure _).bind
      exact fun newName renamed => ⟨⟨rfl, ⟨[], (List.append_nil _).symm, List.forall_mem_nil _⟩, id⟩, trivial⟩
    · exact performing_pure _
  refine redeclares.bind fun last declared => ?_
  unfold deleteFormer
  split
  · apply Performing.write
    exact (performing_perform fun _ => others _ rfl).bind fun _ _ => performing_pure _
  · exact performing_pure _

theorem performing_recoverBinding (recording : TopologyRecording) (binding : RecordedBinding) :
    Performing broker allowed (recoverBinding broker recording connection channel binding) world := by
  refine performing_get.bind fun _ _ => Performing.write ?_
  exact (performing_perform fun _ => others _ rfl).bind fun _ _ => performing_pure _

end

theorem performing_recoverExchange (exchange : RecordedExchange)
    (allows : ∀ channel reply, allowed ⟨channel, exchangeDeclaration exchange, reply⟩) :
    Performing broker allowed (recoverExchange broker connection channel exchange) world :=
  Performing.write ((performing_perform fun _ => allows _ _).bind fun _ _ => performing_pure _)

end

section

variable {broker : Broker} {allowed : Performed → Prop} {setup : Setup} {params : MulticastParams}
  {handler : TopologyHandler} {connection : Connection}

/-- What is asked before an exchange is declared. With `predeclared`, one that is reserved is found. -/
theorem exchangeFound_follows (others : ∀ event, declaredExchange event.operation = none → allowed event) :
    (askFirst params (exchangeExists broker connection params.exchangeName)).follows
      (PerformsIn broker allowed) (fun _ => True)
      (fun found _ => found = false → params.predeclared = true → reserved params.exchangeName = false)
      setup := by
  unfold askFirst
  split
  · by_cases isReserved : reserved params.exchangeName = true
    · have skipped := isReserved
      rw [reserved, decide_eq_true_eq] at skipped
      rw [exchangeExists, if_pos skipped]
      exact ⟨refl_of (Performs broker allowed) setup.world, nofun⟩
    · have asked : (exchangeExists broker connection params.exchangeName).follows (Performs broker allowed)
          (Refused broker connection) (fun _ _ => True) setup.world :=
        exchangeExists_follows fun _ _ => others _ rfl
      apply follows_mono (follows_onBroker (follows_mono asked (fun _ _ _ => id) fun _ _ _ => trivial))
      · exact fun _ _ _ _ _ _ => Bool.eq_false_iff.mpr isReserved
      · exact fun _ _ => id
  · rename_i declared
    exact follows_pure fun _ predeclared => absurd predeclared declared

theorem arranging_queues (others : ∀ event, declaredExchange event.operation = none → allowed event)
    (advances : Bool) (queues : List String) (states : List ConfigurationState) : Arranging broker allowed (do
      let configured ← (queuesToConfigure params queues).zipIdx.foldlM
        (configureQueue broker params handler (afterQueue handler advances)) states
      pure (configured.map ConfigurationState.result)) setup := by
  apply follows.bind (follows.foldlM ?_) fun _ _ => arranging_pure _
  intro numbered _ states middle
  apply arranging_configureQueue
  exact fun state _ => ⟨fun _ _ => others _ rfl, fun _ => others _ rfl, fun _ _ _ => others _ rfl⟩

end

def Spared (event : Performed) : Prop := declaresReserved event = false

theorem spared_others (event : Performed) (other : declaredExchange event.operation = none) : Spared event := by
  rw [Spared, declaresReserved, other]
  rfl

section

variable {broker : Broker} {setup : Setup} {params : MulticastParams} {handler : TopologyHandler}
  {connection : Connection}
  (spares : params.predeclared = true ∨ reserved params.exchangeName = false)

include spares

theorem declareExchange_spared (state : ConfigurationState) :
    Arranging broker Spared (declareExchange broker params state) setup := by
  rw [declareExchange_eq]
  apply follows_bind (exchangeFound_follows spared_others)
  intro found asked _ unreserved
  cases found with
  | true => exact arranging_pure _
  | false =>
    have fine : reserved params.exchangeName = false := spares.elim (unreserved rfl) id
    have declares : Performing broker Spared
        (exchangeDeclare broker params.exchangeName params.exchangeType state.channel) asked.world :=
      (performing_perform fun _ => fine).bind fun _ _ => performing_pure _
    exact follows.bind (follows_onBroker declares) fun _ _ => arranging_inChild

theorem declareProducerExchange_spared (channel : Channel) :
    Arranging broker Spared (declareProducerExchange broker params connection channel) setup := by
  rw [declareProducerExchange_eq]
  apply follows_bind (exchangeFound_follows spared_others)
  intro found asked _ unreserved
  cases found with
  | true => exact arranging_pure _
  | false =>
    have fine : reserved params.exchangeName = false := spares.elim (unreserved rfl) id
    have declares : Performing broker Spared
        (exchangeDeclare broker params.exchangeName params.exchangeType channel) asked.world :=
      (performing_perform fun _ => fine).bind fun _ _ => performing_pure _
    exact follows.bind (follows_onBroker declares) fun _ _ => arranging_pure _

end

def SparesReserved (world after : World) : Prop :=
  ∀ event ∈ after.performed.drop world.performed.length, declaresReserved event = false

theorem Performs.sparesReserved {broker : Broker} {world after : World}
    (performs : Performs broker Spared world after) : SparesReserved world after := by
  obtain ⟨events, performed, spared⟩ := performs.performed
  intro event member
  rw [performed, List.drop_left] at member
  exact spared event member

theorem sparesReserved_of_same {world after : World} (same : after.performed = world.performed) :
    SparesReserved world after := by
  intro event member
  rw [same, List.drop_length] at member
  exact absurd member List.not_mem_nil

theorem not_sparesReserved {broker : Broker} {allowed : Performed → Prop} {world middle after : World}
    {event : Performed} (earlier : ∃ events, middle.performed = world.performed ++ events)
    (declares : declaresReserved event = true) (later : Performs broker allowed (middle.did event) after) :
    ¬ SparesReserved world after := by
  intro spares
  obtain ⟨before, grown⟩ := earlier
  obtain ⟨events, performed, _⟩ := later.performed
  have held : event ∈ after.performed.drop world.performed.length := by
    rw [performed, World.did, grown, List.append_assoc, List.append_assoc, List.drop_left]
    exact List.mem_append_right _ List.mem_cons_self
  rw [spares event held] at declares
  cases declares

section

variable {broker : Broker} {params : MulticastParams} {handler : TopologyHandler} {world : World}
  {setup : Setup} {Value : Type}

/-- The declaration of a reserved exchange is sent, whatever comes of it. -/
theorem exchangeDeclare_not_spared {channel : Channel} {rest : Unit → Setting Value}
    (isReserved : reserved params.exchangeName = true)
    (earlier : ∃ events, setup.world.performed = world.performed ++ events)
    (continues : ∀ value middle, Arranging broker (fun _ => True) (rest value) middle) :
    (onBroker (exchangeDeclare broker params.exchangeName params.exchangeType channel) >>= rest).ends
      (fun _ after => ¬ SparesReserved world after.world) (fun _ after => ¬ SparesReserved world after.world)
      setup := by
  have declares : ∀ reply, declaresReserved
      ⟨channel, .exchangeDeclare params.exchangeName params.exchangeType true, reply⟩ = true :=
    fun _ => isReserved
  rw [ends_bind, onBroker, ends_within, exchangeDeclare, ends_bind, perform_ends]
  cases broker.reply setup.world.performed (.exchangeDeclare params.exchangeName params.exchangeType true) with
  | ok name =>
    simp only [ends_pure]
    apply ends_mono (continues () _)
    · exact fun _ after continued => not_sparesReserved earlier (declares _) continued.1
    · exact fun _ after continued => not_sparesReserved earlier (declares _) continued.1
  | failed failure =>
    exact not_sparesReserved earlier (declares _) (refl_of (Performs broker fun _ => True) _)

abbrev EndsSpared (world : World) (condition : Prop) (program : Setting Value) (setup : Setup) : Prop :=
  program.ends (fun _ after => SparesReserved world after.world ↔ condition)
    (fun _ after => SparesReserved world after.world ↔ condition) setup

theorem endsSpared_of_arranging {condition : Prop} {program : Setting Value}
    (before : Performs broker Spared world setup.world) (holds : condition)
    (arranging : Arranging broker Spared program setup) : EndsSpared world condition program setup := by
  have spares : ∀ after : Setup, PerformsIn broker Spared setup after → SparesReserved world after.world :=
    fun after performs => (trans_of (Performs broker Spared) before performs).sparesReserved
  apply ends_mono arranging
  · exact fun _ after ⟨performs, _⟩ => iff_of_true (spares after performs) holds
  · exact fun _ after ⟨performs, _⟩ => iff_of_true (spares after performs) holds

theorem configureStates_spared (advances : Bool) (queues : List String) (first : ConfigurationState)
    (states : List ConfigurationState) (before : Performs broker Spared world setup.world) :
    EndsSpared world (reserved params.exchangeName = false ∨ params.predeclared = true)
      (configureStates broker params handler (afterQueue handler advances) queues (first :: states)) setup := by
  by_cases spares : params.predeclared = true ∨ reserved params.exchangeName = false
  · apply endsSpared_of_arranging before spares.symm
    exact (declareExchange_spared spares first).bind fun _ _ =>
      arranging_queues spared_others advances queues (first :: states)
  · obtain ⟨declared, isReserved⟩ := not_or.mp spares
    rw [Bool.not_eq_false] at isReserved
    have rest : ∀ (value : Unit) (middle : Setup), Arranging broker (fun _ => True) (do
        inChild first.topologyRecording fun recording =>
          recording.recordExchange params.exchangeName params.exchangeType
        let configured ← (queuesToConfigure params queues).zipIdx.foldlM
          (configureQueue broker params handler (afterQueue handler advances)) (first :: states)
        pure (configured.map ConfigurationState.result)) middle := fun _ _ =>
      arranging_inChild.bind fun _ _ =>
        arranging_queues (fun _ _ => trivial) advances queues (first :: states)
    have asked : askFirst params (exchangeExists broker first.connection params.exchangeName) = pure false := by
      rw [askFirst, if_neg declared]
    rw [configureStates, declareExchange_eq, asked, pure_bind, Bool.not_false, if_pos rfl, declareNewExchange,
      bind_assoc]
    obtain ⟨events, grown, _⟩ := before.performed
    apply ends_mono (exchangeDeclare_not_spared isReserved ⟨events, grown⟩ rest)
    · exact fun _ _ notSpared => iff_of_false notSpared fun holds => spares holds.symm
    · exact fun _ _ notSpared => iff_of_false notSpared fun holds => spares holds.symm

theorem configureQueues_spared (broker : Broker) (params : MulticastParams) (handler : TopologyHandler)
    (advances : Bool) (connections : List Connection) (queues : List String) (setup : Setup) :
    EndsSpared setup.world (reserved params.exchangeName = false ∨ params.predeclared = true ∨
        connections = [] ∨ opensEach broker setup.world connections = false)
      (configureQueues broker params handler connections queues (afterQueue handler advances)) setup := by
  rw [EndsSpared, configureQueues, ends_bind]
  apply ends_mono (openStates_ends broker connections [] setup)
  · rintro _ _ ⟨opens, rfl, rfl⟩
    cases connections with
    | nil => exact iff_of_true (sparesReserved_of_same rfl) (.inr (.inr (.inl rfl)))
    | cons connection connections =>
      simp only [opens, List.nil_append, openedStates, List.cons_ne_nil, Bool.true_eq_false, or_false]
      refine configureStates_spared advances queues _ _ ?_
      exact ⟨rfl, ⟨[], (List.append_nil _).symm, List.forall_mem_nil _⟩, id⟩
  · rintro _ after ⟨closed, same⟩
    exact iff_of_true (sparesReserved_of_same same) (.inr (.inr (.inr closed)))

/-- Past the opening of its channel, a producer declares its exchange. -/
theorem declareForProducer_spared {channel : Channel} {rest : TopologyRecording → Setting Value}
    (before : Performs broker Spared world setup.world)
    (continues : ∀ allowed topologyRecording middle, Arranging broker allowed (rest topologyRecording) middle) :
    EndsSpared world (reserved params.exchangeName = false ∨ params.predeclared = true)
      (declareProducerExchange broker params channel.connection channel >>= rest) setup := by
  by_cases spares : params.predeclared = true ∨ reserved params.exchangeName = false
  · apply endsSpared_of_arranging before spares.symm
    exact (declareProducerExchange_spared spares channel).bind (continues Spared)
  · obtain ⟨declared, isReserved⟩ := not_or.mp spares
    rw [Bool.not_eq_false] at isReserved
    have asked : askFirst params (exchangeExists broker channel.connection params.exchangeName) = pure false := by
      rw [askFirst, if_neg declared]
    obtain ⟨events, grown, _⟩ := before.performed
    rw [declareProducerExchange_eq, asked, pure_bind, Bool.not_false, if_pos rfl,
      declareProducersNewExchange, bind_assoc]
    apply ends_mono (exchangeDeclare_not_spared isReserved ⟨events, grown⟩
      fun _ middle => continues (fun _ => True) _ middle)
    · exact fun _ _ notSpared => iff_of_false notSpared fun holds => spares holds.symm
    · exact fun _ _ notSpared => iff_of_false notSpared fun holds => spares holds.symm

theorem createProducer_spared (broker : Broker) (params : MulticastParams) (producerParams : ProducerParams)
    (handler : TopologyHandler) (connection : Connection) (setup : Setup) :
    EndsSpared setup.world (reserved params.exchangeName = false ∨ params.predeclared = true ∨
        opensEach broker setup.world [connection] = false ∨
        acceptsEach broker ⟨connection, setup.world.channelCount⟩ (producerModes producerParams)
          setup.world.performed = false)
      (createProducer broker params producerParams handler connection) setup := by
  rw [EndsSpared, createProducer, ends_bind, onBroker, ends_within]
  apply ends_mono (createChannel_opens broker connection setup.world)
  · rintro _ _ ⟨opens, rfl, rfl⟩
    have opened : Performs broker Spared setup.world setup.world.opened :=
      ⟨rfl, ⟨[], (List.append_nil _).symm, List.forall_mem_nil _⟩, id⟩
    have spares : ∀ operation reply, operation.setsMode = true →
        Spared ⟨⟨connection, setup.world.channelCount⟩, operation, reply⟩ := by
      intro operation reply mode
      apply spared_others
      cases operation <;> first | rfl | cases mode
    have rest : ∀ (allowed : Performed → Prop) (topologyRecording : TopologyRecording) (middle : Setup),
        Arranging broker allowed (do
          let routingKey ← handler.getRoutingKey
          handler.next
          pure (CreatedProducer.mk ⟨connection, setup.world.channelCount⟩ params.exchangeName routingKey
            producerParams.randomRoutingKey producerParams.routingKeyCacheSize topologyRecording)) middle :=
      fun _ _ _ => arranging_getRoutingKey.bind fun _ _ => arranging_next.bind fun _ _ => arranging_pure _
    rw [ends_bind, onBroker, ends_within]
    apply ends_mono (performEach_modes (producerModes_setMode producerParams) spares)
    · rintro _ moded ⟨performs, accepted⟩
      change acceptsEach _ _ _ setup.world.performed = true at accepted
      simp only [opens, accepted, Bool.true_eq_false, or_false]
      exact declareForProducer_spared (trans_of (Performs broker Spared) opened performs) rest
    · rintro _ moded ⟨performs, refused⟩
      exact iff_of_true (trans_of (Performs broker Spared) opened performs).sparesReserved
        (.inr (.inr (.inr refused)))
  · rintro _ _ ⟨closed, rfl, _⟩
    exact iff_of_true (sparesReserved_of_same rfl) (.inr (.inr (.inl closed)))

end

def recoverReserved (recording : TopologyRecording) (broker : Broker) (connection : Connection)
    (channel : Channel) : Call Unit := do
  let channel ← (recording.exchanges.values.dropWhile fun exchange => !reserved exchange.name).foldlM
    (recoverExchange broker connection) channel
  let _ ← recording.bindings.foldlM (recoverBinding broker recording connection) channel

theorem recover_eq (recording : TopologyRecording) (broker : Broker) (connection : Connection) :
    recording.recover broker connection = tryCatch (do
      let channel ← recording.recoverUnreserved broker connection
      recoverReserved recording broker connection channel) fun _ => pure () := by
  have exchanges : ∀ channel, recording.exchanges.values.foldlM (recoverExchange broker connection) channel =
      (do
        let channel ← (recording.exchanges.values.takeWhile fun exchange => !reserved exchange.name).foldlM
          (recoverExchange broker connection) channel
        (recording.exchanges.values.dropWhile fun exchange => !reserved exchange.name).foldlM
          (recoverExchange broker connection) channel) := by
    intro channel
    rw [← List.foldlM_append, List.takeWhile_append_dropWhile]
  simp only [recover, recoverUnreserved, recoverReserved, exchanges, bind_assoc]

theorem recoverUnreserved_spared (recording : TopologyRecording) (broker : Broker) (connection : Connection)
    (world : World) : Performing broker Spared (recording.recoverUnreserved broker connection) world := by
  apply performing_createChannel.bind
  intro channel opened
  apply follows.bind
  · exact follows.foldlM fun record _ _ _ => performing_recoverQueue spared_others recording.polling record
  · intro last queued
    apply follows.foldlM
    intro exchange member _ _
    apply performing_recoverExchange exchange
    intro _ _
    have unreserved := List.mem_takeWhile_imp member
    rwa [Bool.not_eq_true'] at unreserved

section

variable {recording : TopologyRecording} {broker : Broker} {connection : Connection} {channel : Channel}
  {world : World}

theorem recoverReserved_spared (spares : ∀ exchange ∈ recording.exchanges.values, reserved exchange.name = false) :
    Performing broker Spared (recoverReserved recording broker connection channel) world := by
  have none : (recording.exchanges.values.dropWhile fun exchange => !reserved exchange.name) = [] := by
    rw [List.dropWhile_eq_nil_iff]
    intro exchange member
    rw [spares exchange member, Bool.not_false]
  rw [recoverReserved, none]
  apply follows.bind (performing_pure _)
  intro last declared
  apply follows.bind (follows.foldlM ?_) fun _ _ => performing_pure _
  exact fun binding _ _ _ => performing_recoverBinding spared_others recording binding

theorem recoverExchange_declares (exchange : RecordedExchange) :
    (recoverExchange broker connection channel exchange).ends
      (fun _ after => ∃ reply, Performs broker (fun _ => True)
        (world.did ⟨channel, exchangeDeclaration exchange, reply⟩) after)
      (fun _ after => ∃ reply, Performs broker (fun _ => True)
        (world.did ⟨channel, exchangeDeclaration exchange, reply⟩) after) world := by
  rw [recoverExchange, reliableWrite, ends_tryCatch, ends_bind, exchangeDeclare, ends_bind, perform_ends]
  cases broker.reply world.performed (.exchangeDeclare exchange.name exchange.type true) with
  | ok name => exact ⟨.ok name, refl_of (Performs broker fun _ => True) _⟩
  | failed failure =>
    apply ends_mono performing_createChannel
    · intro _ after performs
      exact ⟨.failed failure, performs.1⟩
    · intro _ after performs
      exact ⟨.failed failure, performs.1⟩

/-- The first exchange that is reserved is declared, whatever comes of it. -/
theorem recoverReserved_not_spared {start : World} (earlier : ∃ events, world.performed = start.performed ++ events)
    (found : ¬ ∀ exchange ∈ recording.exchanges.values, reserved exchange.name = false) :
    (recoverReserved recording broker connection channel).ends (fun _ after => ¬ SparesReserved start after)
      (fun _ after => ¬ SparesReserved start after) world := by
  cases left : recording.exchanges.values.dropWhile fun exchange => !reserved exchange.name with
  | nil =>
    rw [List.dropWhile_eq_nil_iff] at left
    exact absurd (fun exchange member => by simpa using left exchange member) found
  | cons exchange exchanges =>
    have isReserved : reserved exchange.name = true := by
      have first := List.head?_dropWhile_not (fun exchange => !reserved exchange.name) recording.exchanges.values
      rw [left] at first
      simpa using first
    have declared : ∀ (reply : Reply) (after : World),
        Performs broker (fun _ => True) (world.did ⟨channel, exchangeDeclaration exchange, reply⟩) after →
        ¬ SparesReserved start after := by
      intro reply after later
      have declares : declaresReserved ⟨channel, exchangeDeclaration exchange, reply⟩ = true := isReserved
      exact not_sparesReserved earlier declares later
    rw [recoverReserved, left, List.foldlM_cons, bind_assoc, ends_bind]
    apply ends_mono (recoverExchange_declares exchange)
    · rintro last middle ⟨reply, sent⟩
      have rest : Performing broker (fun _ => True) (do
          let channel ← exchanges.foldlM (recoverExchange broker connection) last
          let _ ← recording.bindings.foldlM (recoverBinding broker recording connection) channel) middle := by
        apply follows.bind
        · exact follows.foldlM fun exchange _ _ _ => performing_recoverExchange exchange fun _ _ => trivial
        · intro next _
          apply follows.bind (follows.foldlM ?_) fun _ _ => performing_pure _
          exact fun binding _ _ _ => performing_recoverBinding (fun _ _ => trivial) recording binding
      apply ends_mono rest
      · exact fun _ after ⟨later, _⟩ => declared reply after (trans_of _ sent later)
      · exact fun _ after ⟨later, _⟩ => declared reply after (trans_of _ sent later)
    · rintro _ after ⟨reply, sent⟩
      exact declared reply after sent

end

theorem recover_spared (recording : TopologyRecording) (broker : Broker) (connection : Connection)
    (world : World) :
    SparesReserved world (recording.recover broker connection world).2 ↔
      (∀ exchange ∈ recording.exchanges.values, reserved exchange.name = false) ∨
        (recording.recoverUnreserved broker connection world).1.isOk = false := by
  suffices spared : ∀ condition, condition = ((∀ exchange ∈ recording.exchanges.values,
      reserved exchange.name = false) ∨ (recording.recoverUnreserved broker connection world).1.isOk = false) →
      (recording.recover broker connection).ends (fun _ after => SparesReserved world after ↔ condition)
        (fun _ after => SparesReserved world after ↔ condition) world from after_of_ends (spared _ rfl)
  rintro _ rfl
  rw [recover_eq, ends_tryCatch, ends_bind]
  rcases ends_cases (recoverUnreserved_spared recording broker connection world) with
    ⟨channel, middle, ran, performs, _⟩ | ⟨failure, middle, ran, performs, _⟩
  · rw [ends_of_return ran]
    have reached : (recording.recoverUnreserved broker connection world).1.isOk = true := by rw [ran]; rfl
    simp only [reached, Bool.true_eq_false, or_false, ends_pure]
    by_cases spares : ∀ exchange ∈ recording.exchanges.values, reserved exchange.name = false
    · apply ends_mono (recoverReserved_spared spares)
      · intro _ after later
        exact iff_of_true (trans_of _ performs later.1).sparesReserved spares
      · intro _ after later
        exact iff_of_true (trans_of _ performs later.1).sparesReserved spares
    · obtain ⟨events, grown, _⟩ := performs.performed
      apply ends_mono (recoverReserved_not_spared ⟨events, grown⟩ spares)
      · exact fun _ _ notSpared => iff_of_false notSpared spares
      · exact fun _ _ notSpared => iff_of_false notSpared spares
  · rw [ends_of_throw ran]
    exact iff_of_true performs.sparesReserved (.inr (by rw [ran]; rfl))

/-- Reserved exchanges are declared unless they are said to be there before, in any recording, and
    whatever is logged about it. -/
theorem spares_reserved_iff (broker : Broker) (params : MulticastParams) (producerParams : ProducerParams)
    (handler : TopologyHandler) (advances : Bool) (connections : List Connection) (queues : List String)
    (connection : Connection) (setup : Setup) (recording : TopologyRecording) (world : World) :
    (SparesReserved setup.world
        (configureQueues broker params handler connections queues (afterQueue handler advances) setup).2.world ↔
      reserved params.exchangeName = false ∨ params.predeclared = true ∨ connections = [] ∨
        opensEach broker setup.world connections = false) ∧
    (SparesReserved setup.world (createProducer broker params producerParams handler connection setup).2.world ↔
      reserved params.exchangeName = false ∨ params.predeclared = true ∨
        opensEach broker setup.world [connection] = false ∨
        acceptsEach broker ⟨connection, setup.world.channelCount⟩ (producerModes producerParams)
          setup.world.performed = false) ∧
    (SparesReserved world (recording.recover broker connection world).2 ↔
      (∀ exchange ∈ recording.exchanges.values, reserved exchange.name = false) ∨
        (recording.recoverUnreserved broker connection world).1.isOk = false) := by
  refine ⟨?_, ?_, recover_spared recording broker connection world⟩
  · exact after_of_ends (configureQueues_spared broker params handler advances connections queues setup)
  · exact after_of_ends (createProducer_spared broker params producerParams handler connection setup)

/-- The queues of a run whose exchange is one that the broker has. -/
theorem reserved_exchange_declared :
    ¬ ∀ (broker : Broker) (params : MulticastParams) (producerParams : ProducerParams)
      (handler : TopologyHandler) (advances : Bool) (connections : List Connection) (queues : List String)
      (connection : Connection) (setup : Setup) (recording : TopologyRecording) (world : World),
      SparesReserved setup.world
        (configureQueues broker params handler connections queues (afterQueue handler advances) setup).2.world ∧
      SparesReserved setup.world
        (createProducer broker params producerParams handler connection setup).2.world ∧
      SparesReserved world (recording.recover broker connection world).2 := by
  intro spares
  have configured := (spares acceptingBroker (ordersParams "amq.direct") ⟨false, 0, 1, 1, 0, -1⟩
    (.fixedQueues "orders" ["orders"]) false [0] ["orders"] 0
    (Setup.init (ordersParams "amq.direct") World.start) (.empty false false) World.start).1
  revert configured
  unfold SparesReserved
  decide

end PerfTestProof
