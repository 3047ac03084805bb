import PerfTest.Topology.Dealing

namespace PerfTestModel

open Systems

def BrokerOperation.queueOf : BrokerOperation → Option String
  | .queueDeclare queue .. | .queueDeclarePassive queue | .queueBind queue .. | .queueDelete queue => some queue
  | .exchangeDeclare .. | .exchangeDeclarePassive _ | .txSelect | .confirmSelect | .basicQos .. | .channelClose => none

def eventsFor (queue : String) (events : List Performed) : List Performed :=
  events.filter fun event => event.operation.queueOf = some queue

def existed (queue : String) (events : List Performed) : Bool :=
  (eventsFor queue events).any fun event => event.operation.isPassive && !event.failed

structure Distributed (params : MulticastParams) (producerParams : ProducerParams) (queues : List String)
    (routingKey : Option String) (events : List Performed) (consumers : List CreatedConsumer)
    (producers : List CreatedProducer) : Prop where
  operations : ∀ queue ∈ queues, (eventsFor queue events).map Performed.operation =
    (if params.predeclared then [.queueDeclarePassive queue] else []) ++
    (if existed queue events then [] else [queueDeclaration params queue]) ++
    (if bindsQueues params then [.queueBind queue params.exchangeName (routingKey.getD queue)] else [])
  consumerCount : consumers.length = params.consumerCount * params.consumerChannelCount
  consumed : ∀ position consumer, consumers[position]? = some consumer →
    ∃ queue, queues[position % queues.length]? = some queue ∧ consumer.queueNames = [queue]
  producerCount : producers.length = producerParams.producerCount * producerParams.producerChannelCount
  published : ∀ position producer, producers[position]? = some producer →
    ∃ queue, queues[position % queues.length]? = some queue ∧ producer.exchangeName = params.exchangeName ∧
      ∀ randomKey, producer.publishedRoutingKey randomKey =
        if producerParams.randomRoutingKey ∨ producerParams.routingKeyCacheSize > 0 then randomKey
        else routingKey.getD queue
  consumersBalanced : ∀ queue ∈ queues, ∀ other ∈ queues,
    consumers.countP (fun consumer => consumer.queueNames = [queue]) ≤
      consumers.countP (fun consumer => consumer.queueNames = [other]) + 1
  producersBalanced : ∀ queue ∈ queues, ∀ other ∈ queues,
    producers.countP (fun producer => producer.routingKey = routingKey.getD queue) ≤
      producers.countP (fun producer => producer.routingKey = routingKey.getD other) + 1

end PerfTestModel

namespace PerfTestProof

open Systems Program PerfTestModel TopologyHandler

theorem eventsFor_append (queue : String) (first second : List Performed) :
    eventsFor queue (first ++ second) = eventsFor queue first ++ eventsFor queue second :=
  List.filter_append ..

theorem eventsFor_own {queue : String} {events : List Performed}
    (own : ∀ event ∈ events, event.operation.queueOf = some queue) : eventsFor queue events = events := by
  apply List.filter_eq_self.mpr
  exact fun event member => decide_eq_true (own event member)

theorem eventsFor_other {queue : String} {events : List Performed}
    (other : ∀ event ∈ events, event.operation.queueOf ≠ some queue) : eventsFor queue events = [] := by
  apply List.filter_eq_nil_iff.mpr
  intro event member
  rw [decide_eq_true_eq]
  exact other event member

theorem eventsFor_dealt {queue : String} {dealt : List DealtQueue}
    (distinct : (dealt.map DealtQueue.requested).Nodup)
    (own : ∀ dealtQueue ∈ dealt, ∀ event ∈ dealtQueue.events, event.operation.queueOf = some dealtQueue.requested)
    (member : queue ∈ dealt.map DealtQueue.requested) :
    ∃ dealtQueue ∈ dealt, dealtQueue.requested = queue ∧
      eventsFor queue (dealt.flatMap DealtQueue.events) = dealtQueue.events := by
  obtain ⟨dealtQueue, listed, rfl⟩ := List.mem_map.mp member
  refine ⟨dealtQueue, listed, rfl, ?_⟩
  have others : ∀ other ∈ dealt, other ≠ dealtQueue → eventsFor dealtQueue.requested other.events = [] := by
    intro other held apart
    apply eventsFor_other
    intro event issued same
    rw [own other held event issued, Option.some.injEq] at same
    exact apart (List.inj_on_of_nodup_map distinct held listed same)
  have only := flatMap_eq_of_others distinct.of_map listed others
  rw [eventsFor, List.filter_flatMap]
  exact only.trans (eventsFor_own (own dealtQueue listed))

section

variable {broker : Broker} {params : MulticastParams} {handler : TopologyHandler} {index : ℕ}
  {earlier : List Performed} {dealt : DealtQueue}

theorem Declares.named (declares : Declares broker params earlier dealt) (named : dealt.requested ≠ "") :
    dealt.name = dealt.requested := by
  rcases declares.declares with ⟨_, _, same⟩ | ⟨_, _, generatedName, _, _, same⟩
  · exact same
  · rw [same, declaredQueue, if_neg named]

theorem Declares.operations (declares : Declares broker params earlier dealt)
    (binds : BindsAt params handler index dealt) :
    dealt.events.map Performed.operation =
      (if params.predeclared then [.queueDeclarePassive dealt.requested] else []) ++
      (if dealt.found then [] else [queueDeclaration params dealt.requested]) ++
      (if bindsQueues params then [.queueBind dealt.name params.exchangeName dealt.routingKey] else []) := by
  have declaration : dealt.declaration.map Performed.operation =
      if dealt.found then [] else [queueDeclaration params dealt.requested] := by
    rcases declares.declares with ⟨found, none, _⟩ | ⟨missing, channel, generatedName, declared, _⟩
    · rw [found, none]
      rfl
    · rw [missing, declared]
      rfl
  have binding : dealt.binding.map Performed.operation =
      if bindsQueues params then [.queueBind dealt.name params.exchangeName dealt.routingKey] else [] := by
    cases bound : bindsQueues params with
    | true =>
      obtain ⟨channel, generatedName, one⟩ := binds.bound bound
      rw [one]
      rfl
    | false =>
      rw [binds.unbound bound]
      rfl
  rw [DealtQueue.events, List.map_append, List.map_append, declares.checks, declaration, binding]

theorem Declares.own (declares : Declares broker params earlier dealt) (binds : BindsAt params handler index dealt)
    (named : dealt.requested ≠ "") :
    ∀ event ∈ dealt.events, event.operation.queueOf = some dealt.requested := by
  intro event member
  have operation : event.operation ∈ dealt.events.map Performed.operation := List.mem_map_of_mem member
  rw [declares.operations binds, declares.named named, List.mem_append, List.mem_append] at operation
  rcases operation with (check | declaration) | binding
  · split at check
    · rw [List.mem_singleton.mp check]; rfl
    · cases check
  · split at declaration
    · cases declaration
    · rw [List.mem_singleton.mp declaration]; rfl
  · split at binding
    · rw [List.mem_singleton.mp binding]; rfl
    · cases binding

theorem Declares.existed (declares : Declares broker params earlier dealt)
    (binds : BindsAt params handler index dealt) :
    (dealt.events.any fun event => event.operation.isPassive && !event.failed) = dealt.found := by
  have checks : (dealt.check.any fun event => event.operation.isPassive && !event.failed) = dealt.found := by
    have asked := declares.checks
    split at asked
    · obtain ⟨check, one, operation⟩ := List.map_eq_singleton_iff.mp asked
      rw [DealtQueue.found, one, List.any_cons, List.any_cons, operation]
      rfl
    · rw [DealtQueue.found, List.map_eq_nil_iff.mp asked]
      rfl
  have declaration : (dealt.declaration.any fun event => event.operation.isPassive && !event.failed) = false := by
    rcases declares.declares with ⟨_, none, _⟩ | ⟨_, channel, generatedName, declared, _⟩
    · rw [none]; rfl
    · rw [declared]; rfl
  have binding : (dealt.binding.any fun event => event.operation.isPassive && !event.failed) = false := by
    cases bound : bindsQueues params with
    | true =>
      obtain ⟨channel, generatedName, one⟩ := binds.bound bound
      rw [one]; rfl
    | false => rw [binds.unbound bound]; rfl
  rw [DealtQueue.events, List.any_append, List.any_append, checks, declaration, binding, Bool.or_false,
    Bool.or_false]

end

theorem DeclaresExchange.no_queue {broker : Broker} {params : MulticastParams}
    {earlier check declaration : List Performed}
    (declares : DeclaresExchange broker params earlier check declaration) :
    ∀ event ∈ check ++ declaration, event.operation.queueOf = none := by
  intro event member
  rcases List.mem_append.mp member with asked | declared
  · have operation : event.operation ∈ check.map Performed.operation := List.mem_map_of_mem asked
    rw [declares.checks] at operation
    split at operation
    · rw [List.mem_singleton.mp operation]; rfl
    · cases operation
  · cases found : exchangeFound params check with
    | true => rw [declares.found found] at declared; cases declared
    | false =>
      obtain ⟨channel, generatedName, one⟩ := declares.missing found
      rw [one] at declared
      rw [List.mem_singleton.mp declared]; rfl

def AboutNoQueue (earlier performed : List Performed) : Prop :=
  ∃ events, performed = earlier ++ events ∧ ∀ event ∈ events, event.operation.queueOf = none

theorem AboutNoQueue.refl (performed : List Performed) : AboutNoQueue performed performed :=
  ⟨[], (List.append_nil _).symm, List.forall_mem_nil _⟩

theorem AboutNoQueue.trans {earlier performed later : List Performed} (first : AboutNoQueue earlier performed)
    (second : AboutNoQueue performed later) : AboutNoQueue earlier later := by
  obtain ⟨events, rfl, before⟩ := first
  obtain ⟨more, rfl, after⟩ := second
  exact ⟨events ++ more, List.append_assoc .., List.forall_mem_append.mpr ⟨before, after⟩⟩

theorem performEach_noQueue {broker : Broker} {operations : List BrokerOperation} {channel : Channel} {world : World}
    (modes : ∀ operation ∈ operations, operation.setsMode = true) :
    (performEach broker operations channel).ends (fun _ after => AboutNoQueue world.performed after.performed)
      (fun _ _ => True) world := by
  have noQueue : ∀ (operation : BrokerOperation) (reply : Reply), operation.setsMode = true →
      (fun event : Performed => event.operation.queueOf = none) ⟨channel, operation, reply⟩ := by
    intro operation reply mode
    cases operation <;> first | rfl | cases mode
  exact ends_mono (performEach_modes modes noQueue) (fun _ _ performs => performs.1.performed) fun _ _ _ => trivial

section

variable {broker : Broker} {params : MulticastParams} {producerParams : ProducerParams}
  {queues : List String} {routingKey : Option String} {setup : Setup}

structure Consuming (queues : List String) (events : List Performed) (setup : Setup) : Prop where
  performed : AboutNoQueue events setup.world.performed
  index : setup.index = setup.consumers.length
  consumed : InTurn (queues.map fun queue => [queue]) (setup.consumers.map CreatedConsumer.queueNames)

theorem createConsumer_ends {events : List Performed} (shared : params.exclusive = false)
    (consuming : Consuming queues events setup) (connection : Connection) :
    (createConsumer broker params (.sequence queues routingKey) connection).ends
      (fun _ after => Consuming queues events after ∧ after.consumers.length = setup.consumers.length + 1)
      (fun _ _ => True) setup := by
  simp only [createConsumer, configureQueuesForClient, shared, Bool.false_eq_true, if_false, ends_bind,
    getQueueNamesForClient_ends]
  cases found : queues[setup.index % queues.length]? with
  | none => trivial
  | some queue =>
    simp only [subRecordingOf, ends_bind, ends_get]
    split
    · rename_i client _
      simp only [ends_bind, ends_set, ends_pure, onBroker, ends_within]
      apply ends_mono (createChannel_opens broker connection _) _ fun _ _ _ => trivial
      rintro channel _ ⟨_, rfl, rfl⟩
      apply ends_mono (performEach_noQueue (consumerModes_setMode params)) _ fun _ _ _ => trivial
      intro _ moded moding
      rw [getRoutingKey_ends]
      split
      · rw [next, ends_modify, ends_modify]
        have grown : ∀ consumer, (setup.consumers ++ [consumer]).length = setup.consumers.length + 1 :=
          fun _ => by rw [List.length_append, List.length_singleton]
        refine ⟨⟨consuming.performed.trans moding, ?_, ?_⟩, grown _⟩
        · rw [grown, ← consuming.index]
        · rw [List.map_append]
          apply consuming.consumed.concat
          rw [List.length_map, List.length_map, List.getElem?_map, ← consuming.index, found]
          rfl
      · trivial
    · trivial

theorem createConsumers_ends {events : List Performed} (shared : params.exclusive = false)
    (consuming : Consuming queues events setup) :
    (createConsumers broker params (.sequence queues routingKey)).ends
      (fun _ after => Consuming queues events after ∧
        after.consumers.length = setup.consumers.length + params.consumerCount * params.consumerChannelCount)
      (fun _ _ => True) setup := by
  have thread : ∀ setup : Setup, Consuming queues events setup →
      (createThreadConsumers broker params (.sequence queues routingKey)).ends
        (fun _ after => Consuming queues events after ∧
          after.consumers.length = setup.consumers.length + params.consumerChannelCount)
        (fun _ _ => True) setup := by
    intro setup consuming
    simp only [createThreadConsumers, createConnection, ends_bind, ends_get, ends_set, ends_pure]
    apply ends_foldlM_range (fun count _ after => Consuming queues events after ∧
      after.consumers.length = setup.consumers.length + count)
    · rintro count _ _ middle ⟨consuming, length⟩
      apply ends_mono (createConsumer_ends shared consuming setup.connectionCount) _ fun _ _ => id
      rintro _ after ⟨consuming, next⟩
      exact ⟨consuming, by rw [next, length, Nat.add_assoc]⟩
    · exact ⟨⟨consuming.performed, consuming.index, consuming.consumed⟩, rfl⟩
  apply ends_foldlM_range (fun count _ after => Consuming queues events after ∧
    after.consumers.length = setup.consumers.length + count * params.consumerChannelCount)
  · rintro count _ _ middle ⟨consuming, length⟩
    apply ends_mono (thread middle consuming) _ fun _ _ => id
    rintro _ after ⟨consuming, next⟩
    exact ⟨consuming, by rw [next, length, Nat.succ_mul, Nat.add_assoc]⟩
  · exact ⟨consuming, by rw [Nat.zero_mul, Nat.add_zero]⟩

structure Producing (params : MulticastParams) (producerParams : ProducerParams) (queues : List String)
    (routingKey : Option String) (start : Setup) (producers : List CreatedProducer) (setup : Setup) : Prop where
  performed : AboutNoQueue start.world.performed setup.world.performed
  index : setup.index = producers.length
  consumers : setup.consumers = start.consumers
  routed : ∀ position producer, producers[position]? = some producer →
    routingKeyAt position (.sequence queues routingKey) = some producer.routingKey
  created : ∀ producer ∈ producers, producer.exchangeName = params.exchangeName ∧
    producer.randomRoutingKey = producerParams.randomRoutingKey ∧
    producer.routingKeyCacheSize = producerParams.routingKeyCacheSize

theorem declareProducerExchange_ends (connection : Connection) (channel : Channel) :
    (declareProducerExchange broker params connection channel).ends
      (fun _ after => ∃ events channelCount, (∀ event ∈ events, event.operation.queueOf = none) ∧
        after = { setup with world := { setup.world with
          performed := setup.world.performed ++ events, channelCount } })
      (fun _ _ => True) setup := by
  rw [declareProducerExchange_eq, ends_bind]
  apply ends_mono (askExchange_ends broker params connection setup) _ fun _ _ => id
  rintro found _ ⟨check, checks, _, _, channelCount, rfl⟩
  have asked : ∀ event ∈ check, event.operation.queueOf = none := by
    intro event member
    have operation : event.operation ∈ check.map Performed.operation := List.mem_map_of_mem member
    rw [checks] at operation
    split at operation
    · rw [List.mem_singleton.mp operation]; rfl
    · cases operation
  cases found with
  | true => exact ⟨check, channelCount, asked, rfl⟩
  | false =>
    rw [Bool.not_false, if_pos rfl, declareProducersNewExchange, ends_bind, onBroker, ends_within,
      exchangeDeclare, ends_bind, perform_ends]
    split
    · refine ⟨check ++ [_], channelCount, ?_, by rw [← List.append_assoc]; rfl⟩
      intro event member
      rcases List.mem_append.mp member with earlier | last
      · exact asked event earlier
      · rw [List.mem_singleton.mp last]; rfl
    · trivial

theorem createNextProducer_ends {start : Setup} {producers : List CreatedProducer}
    (producing : Producing params producerParams queues routingKey start producers setup)
    (connection : Connection) (count : ℕ) :
    (createNextProducer broker params producerParams (.sequence queues routingKey) connection producers count).ends
      (fun next after => Producing params producerParams queues routingKey start next after ∧
        next.length = producers.length + 1)
      (fun _ _ => True) setup := by
  simp only [createNextProducer, createProducer, onBroker, ends_bind, ends_within, ends_pure]
  apply ends_mono (createChannel_opens broker connection setup.world) _ fun _ _ _ => trivial
  rintro channel _ ⟨_, rfl, rfl⟩
  apply ends_mono (performEach_noQueue (producerModes_setMode producerParams)) _ fun _ _ _ => trivial
  intro _ moded moding
  apply ends_mono (declareProducerExchange_ends connection _) _ fun _ _ => id
  rintro topologyRecording _ ⟨events, channelCount, fits, rfl⟩
  rw [getRoutingKey_ends]
  split
  · rename_i key keyed
    rw [next, ends_modify]
    have declaring : AboutNoQueue moded.performed (moded.performed ++ events) := ⟨events, rfl, fits⟩
    refine ⟨⟨(producing.performed.trans moding).trans declaring, ?_, producing.consumers, ?_, ?_⟩, ?_⟩
    · rw [List.length_append, List.length_singleton, ← producing.index]
    · intro position producer found
      rcases getElem?_concat_iff.mp found with former | ⟨rfl, rfl⟩
      · exact producing.routed position producer former
      · rw [← producing.index]
        exact keyed
    · intro producer member
      rcases List.mem_append.mp member with former | last
      · exact producing.created producer former
      · rw [List.mem_singleton.mp last]
        exact ⟨rfl, rfl, rfl⟩
    · rw [List.length_append, List.length_singleton]
  · trivial

theorem createProducers_ends {start : Setup}
    (producing : Producing params producerParams queues routingKey start [] setup) :
    (createProducers broker params producerParams (.sequence queues routingKey)).ends
      (fun producers after => Producing params producerParams queues routingKey start producers after ∧
        producers.length = producerParams.producerCount * producerParams.producerChannelCount)
      (fun _ _ => True) setup := by
  apply ends_foldlM_range (fun count producers after =>
    Producing params producerParams queues routingKey start producers after ∧
      producers.length = count * producerParams.producerChannelCount)
  · rintro count _ producers middle ⟨producing, length⟩
    simp only [createThreadProducers, createConnection, ends_bind, ends_get, ends_set, ends_pure]
    have thread : ((List.range producerParams.producerChannelCount).foldlM
        (createNextProducer broker params producerParams (.sequence queues routingKey) middle.connectionCount)
        producers).ends
        (fun next after => Producing params producerParams queues routingKey start next after ∧
          next.length = producers.length + producerParams.producerChannelCount)
        (fun _ _ => True) { middle with connectionCount := middle.connectionCount + 1 } := by
      apply ends_foldlM_range (fun count next after =>
        Producing params producerParams queues routingKey start next after ∧
          next.length = producers.length + count)
      · rintro count _ earlier reached ⟨producing, length⟩
        apply ends_mono (createNextProducer_ends producing middle.connectionCount count) _ fun _ _ => id
        rintro next after ⟨producing, one⟩
        exact ⟨producing, by rw [one, length, Nat.add_assoc]⟩
      · exact ⟨⟨producing.performed, producing.index, producing.consumers, producing.routed,
          producing.created⟩, rfl⟩
    apply ends_mono thread _ fun _ _ => id
    rintro next after ⟨producing, more⟩
    exact ⟨producing, by rw [more, length, Nat.succ_mul]⟩
  · exact ⟨producing, by rw [Nat.zero_mul, List.length_nil]⟩

theorem routingKeyAt_sequence {index : ℕ} {key queue : String}
    (keyed : routingKeyAt index (.sequence queues routingKey) = some key)
    (here : queues[index % queues.length]? = some queue) : key = routingKey.getD queue := by
  cases routingKey with
  | some fixed => exact (Option.some.inj keyed).symm
  | none => exact Option.some.inj (keyed.symm.trans here)

theorem countP_eq_count {Client Item : Type} [DecidableEq Item] (clients : List Client) (given : Client → Item)
    (item : Item) : clients.countP (fun client => given client = item) = (clients.map given).count item := by
  rw [List.count, List.countP_map]
  apply List.countP_congr
  intro client _
  simp

theorem Consuming.consumed_at {events : List Performed} (consuming : Consuming queues events setup) (position : ℕ)
    (consumer : CreatedConsumer) (found : setup.consumers[position]? = some consumer) :
    ∃ queue, queues[position % queues.length]? = some queue ∧ consumer.queueNames = [queue] := by
  have given : (setup.consumers.map CreatedConsumer.queueNames)[position]? = some consumer.queueNames := by
    rw [List.getElem?_map, found]
    rfl
  have turn := consuming.consumed position _ given
  rw [List.length_map, List.getElem?_map] at turn
  obtain ⟨queue, at_turn, same⟩ := Option.map_eq_some_iff.mp turn
  exact ⟨queue, at_turn, same.symm⟩

theorem Consuming.balanced {events : List Performed} (consuming : Consuming queues events setup)
    (distinct : queues.Nodup) {queue other : String} (member : queue ∈ queues) (otherMember : other ∈ queues) :
    setup.consumers.countP (fun consumer => consumer.queueNames = [queue]) ≤
      setup.consumers.countP (fun consumer => consumer.queueNames = [other]) + 1 := by
  have apart : (queues.map fun queue => [queue]).Nodup := distinct.map fun _ _ same => List.singleton_inj.mp same
  rw [countP_eq_count, countP_eq_count]
  exact consuming.consumed.count_le apart (List.mem_map_of_mem member) (List.mem_map_of_mem otherMember)

section

variable {start : Setup} {producers : List CreatedProducer}
  (producing : Producing params producerParams queues routingKey start producers setup)

include producing

theorem Producing.published (several : queues ≠ []) (position : ℕ) (producer : CreatedProducer)
    (found : producers[position]? = some producer) :
    ∃ queue, queues[position % queues.length]? = some queue ∧ producer.exchangeName = params.exchangeName ∧
      ∀ randomKey, producer.publishedRoutingKey randomKey =
        if producerParams.randomRoutingKey ∨ producerParams.routingKeyCacheSize > 0 then randomKey
        else routingKey.getD queue := by
  have within : position % queues.length < queues.length := Nat.mod_lt _ (List.length_pos_iff.mpr several)
  have here := List.getElem?_eq_getElem within
  have key := routingKeyAt_sequence (producing.routed position producer found) here
  obtain ⟨exchange, random, cacheSize⟩ := producing.created producer (List.mem_of_getElem? found)
  refine ⟨_, here, exchange, fun randomKey => ?_⟩
  rw [CreatedProducer.publishedRoutingKey, random, cacheSize, key]

theorem Producing.balanced (distinct : queues.Nodup) {queue other : String} (member : queue ∈ queues)
    (otherMember : other ∈ queues) :
    producers.countP (fun producer => producer.routingKey = routingKey.getD queue) ≤
      producers.countP (fun producer => producer.routingKey = routingKey.getD other) + 1 := by
  cases routingKey with
  | some fixed => exact Nat.le_succ _
  | none =>
    have inTurn : InTurn queues (producers.map CreatedProducer.routingKey) := by
      intro position key found
      rw [List.getElem?_map] at found
      obtain ⟨producer, at_position, rfl⟩ := Option.map_eq_some_iff.mp found
      exact producing.routed position producer at_position
    rw [countP_eq_count, countP_eq_count]
    exact inTurn.count_le distinct member otherMember

end

/-- Of the operations for a queue, none is missing and none is there twice. -/
theorem Dealt.operations {connections : List Connection} {check declaration later : List Performed}
    {dealt : List DealtQueue} {recordingOf : ℕ → TopologyRecording} {results : List TopologyHandlerResult}
    {after : Setup} {queue : String}
    (configured : Dealt broker params (.sequence queues routingKey) true setup connections queues check declaration
      dealt recordingOf results after)
    (first : setup.index = 0) (distinct : queues.Nodup) (named : "" ∉ queues) (member : queue ∈ queues)
    (others : ∀ event ∈ later, event.operation.queueOf = none) :
    (eventsFor queue (check ++ declaration ++ dealt.flatMap DealtQueue.events ++ later)).map Performed.operation =
      (if params.predeclared then [.queueDeclarePassive queue] else []) ++
      (if existed queue (check ++ declaration ++ dealt.flatMap DealtQueue.events ++ later) then []
        else [queueDeclaration params queue]) ++
      (if bindsQueues params then [.queueBind queue params.exchangeName (routingKey.getD queue)] else []) := by
  have requested : dealt.map DealtQueue.requested = queues := by
    rw [configured.requested, queuesToConfigure, if_neg]
    simp [List.ne_nil_of_mem member]
  have at_position : ∀ dealtQueue ∈ dealt, ∃ position, Declares broker params (setup.world.performed ++
      (check ++ declaration) ++ (dealt.take position).flatMap DealtQueue.events) dealtQueue ∧
      BindsAt params (.sequence queues routingKey) position dealtQueue ∧
      queues[position % queues.length]? = some dealtQueue.requested := by
    intro dealtQueue listed
    obtain ⟨position, found⟩ := List.mem_iff_getElem?.mp listed
    have binds := configured.dealing.binds position dealtQueue found
    rw [indexAt, first, Nat.zero_add] at binds
    have listedAs : queues[position]? = some dealtQueue.requested := by
      rw [← requested, List.getElem?_map, found]
      rfl
    have less : position < queues.length := (List.getElem?_eq_some_iff.mp listedAs).1
    exact ⟨position, configured.dealing.declares position dealtQueue found, binds,
      by rwa [Nat.mod_eq_of_lt less]⟩
  have named' : ∀ dealtQueue ∈ dealt, dealtQueue.requested ≠ "" := by
    intro dealtQueue listed empty
    have held : dealtQueue.requested ∈ queues := requested ▸ List.mem_map_of_mem listed
    rw [empty] at held
    exact named held
  have own : ∀ dealtQueue ∈ dealt, ∀ event ∈ dealtQueue.events,
      event.operation.queueOf = some dealtQueue.requested := by
    intro dealtQueue listed
    obtain ⟨position, declares, binds, _⟩ := at_position dealtQueue listed
    exact declares.own binds (named' dealtQueue listed)
  obtain ⟨dealtQueue, listed, rfl, events⟩ := eventsFor_dealt (requested ▸ distinct) own (requested ▸ member)
  have all : eventsFor dealtQueue.requested (check ++ declaration ++ dealt.flatMap DealtQueue.events ++ later) =
      dealtQueue.events := by
    rw [eventsFor_append, eventsFor_append, events, eventsFor_other, eventsFor_other, List.nil_append,
      List.append_nil]
    · intro event held
      rw [others event held]
      exact (Option.some_ne_none _).symm
    · intro event held
      rw [configured.exchange.no_queue event held]
      exact (Option.some_ne_none _).symm
  obtain ⟨position, declares, binds, here⟩ := at_position dealtQueue listed
  rw [existed, all, declares.operations binds, declares.existed binds]
  cases bound : bindsQueues params with
  | true =>
    rw [declares.named (named' dealtQueue listed), routingKeyAt_sequence (binds.routingKey bound) here]
  | false => rfl

theorem setUp_ends (broker : Broker) (producerParams : ProducerParams) (routingKey : Option String)
    (connections : List Connection) (world : World) (shared : params.exclusive = false)
    (distinct : queues.Nodup) (named : "" ∉ queues) (several : queues ≠ []) :
    (setUp broker params producerParams (.sequence queues routingKey) connections).ends
      (fun producers after => Distributed params producerParams queues routingKey
        (after.world.performed.drop world.performed.length) after.consumers producers)
      (fun _ _ => True) (Setup.init params world) := by
  simp only [setUp, configureAllQueues, shared, Bool.false_eq_true, if_false, ends_bind]
  have configured := configureQueues_ends broker params (.sequence queues routingKey) true connections queues
    (Setup.init params world)
  apply ends_mono configured _ fun _ _ => id
  rintro results configured ⟨check, declaration, dealt, recordingOf, dealtAll⟩
  rw [reset, ends_modify]
  have consumersBefore : configured.consumers = [] := dealtAll.dealing.consumers
  have begun : Consuming queues configured.world.performed { configured with index := 0 } := by
    refine ⟨.refl _, ?_, ?_⟩
    · rw [consumersBefore]
      rfl
    · rw [consumersBefore]
      exact InTurn.nil
  apply ends_mono (createConsumers_ends shared begun) _ fun _ _ => id
  rintro _ consumed ⟨consuming, consumerCount⟩
  rw [ends_modify]
  have started : Producing params producerParams queues routingKey consumed [] { consumed with index := 0 } := by
    refine ⟨.refl _, rfl, rfl, ?_, List.forall_mem_nil _⟩
    intro position producer found
    cases found
  apply ends_mono (createProducers_ends started) _ fun _ _ => id
  rintro producers after ⟨producing, producerCount⟩
  obtain ⟨later, performed, others⟩ := consuming.performed.trans producing.performed
  have events : after.world.performed.drop world.performed.length =
      check ++ declaration ++ dealt.flatMap DealtQueue.events ++ later := by
    rw [performed, dealtAll.dealing.performed]
    simp only [List.append_assoc]
    exact List.drop_left
  rw [consumersBefore, List.length_nil, Nat.zero_add] at consumerCount
  refine ⟨?_, ?_, ?_, producerCount, producing.published several, ?_, fun queue member other otherMember => ?_⟩
  · intro queue member
    rw [events]
    exact dealtAll.operations rfl distinct named member others
  · rw [producing.consumers, consumerCount]
  · rw [producing.consumers]
    exact consuming.consumed_at
  · intro queue member other otherMember
    rw [producing.consumers]
    exact consuming.balanced distinct member otherMember
  · exact producing.balanced distinct member otherMember

/-- A run with a sequence of queues treats them one like the other. -/
theorem sequence_distributed (broker : Broker) (params : MulticastParams) (producerParams : ProducerParams)
    (queues : List String) (routingKey : Option String) (connections : List Connection) (world : World)
    (producers : List CreatedProducer) (after : Setup) (shared : params.exclusive = false)
    (distinct : queues.Nodup) (named : "" ∉ queues) (several : queues ≠ [])
    (ran : setUp broker params producerParams (.sequence queues routingKey) connections
      (Setup.init params world) = (.ok producers, after)) :
    Distributed params producerParams queues routingKey (after.world.performed.drop world.performed.length)
      after.consumers producers := by
  have ends := setUp_ends broker producerParams routingKey connections world shared distinct named several
  rwa [ends_of_return ran] at ends

end

def pairParams (skipBindingQueues : Bool) : MulticastParams :=
  { ordersParams "orders" with consumerChannelCount := 2, skipBindingQueues }

def pairSetUp (skipBindingQueues : Bool) : Except Failure (List CreatedProducer) × Setup :=
  setUp acceptingBroker (pairParams skipBindingQueues) ⟨false, 0, 2, 1, 0, -1⟩ (.sequence ["orders-1", "orders-2"] none)
    [0, 1] (Setup.init (pairParams skipBindingQueues) World.start)

theorem pairSetUp_returns {skipBindingQueues : Bool} (returns : (pairSetUp skipBindingQueues).1.isOk = true) :
    ∃ producers, pairSetUp skipBindingQueues = (.ok producers, (pairSetUp skipBindingQueues).2) := by
  rcases ran : pairSetUp skipBindingQueues with ⟨failure | producers, after⟩
  · rw [ran] at returns
    cases returns
  · exact ⟨producers, rfl⟩

theorem sequence_distributed_pair : ∃ producers, pairSetUp false = (.ok producers, (pairSetUp false).2) ∧
    Distributed (pairParams false) ⟨false, 0, 2, 1, 0, -1⟩ ["orders-1", "orders-2"] none
      ((pairSetUp false).2.world.performed.drop World.start.performed.length) (pairSetUp false).2.consumers
      producers := by
  obtain ⟨producers, ran⟩ := pairSetUp_returns (show (pairSetUp false).1.isOk = true by decide +kernel)
  exact ⟨producers, ran, sequence_distributed acceptingBroker (pairParams false) ⟨false, 0, 2, 1, 0, -1⟩
    ["orders-1", "orders-2"] none [0, 1] World.start producers _ rfl (by decide) (by decide) (by decide) ran⟩

/-- Nothing is bound when the binding of queues is skipped. -/
theorem sequence_unbound :
    ¬ ∀ (broker : Broker) (params : MulticastParams) (producerParams : ProducerParams) (queues : List String)
      (routingKey : Option String) (connections : List Connection) (world : World)
      (producers : List CreatedProducer) (after : Setup), params.exclusive = false → queues.Nodup →
      "" ∉ queues → queues ≠ [] →
      setUp broker params producerParams (.sequence queues routingKey) connections
        (Setup.init params world) = (.ok producers, after) →
      ∀ queue ∈ queues, ((eventsFor queue (after.world.performed.drop world.performed.length)).map
        Performed.operation).count (.queueBind queue params.exchangeName (routingKey.getD queue)) = 1 := by
  intro bound
  obtain ⟨producers, ran⟩ := pairSetUp_returns (show (pairSetUp true).1.isOk = true by decide +kernel)
  have once := bound acceptingBroker (pairParams true) ⟨false, 0, 2, 1, 0, -1⟩ ["orders-1", "orders-2"] none [0, 1]
    World.start producers _ rfl (by decide) (by decide) (by decide) ran "orders-1" List.mem_cons_self
  revert once
  decide +kernel

end PerfTestProof
