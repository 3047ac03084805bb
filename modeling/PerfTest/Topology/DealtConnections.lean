import PerfTest.Topology.SelfContained

namespace PerfTestModel

open Systems

def Performed.recordedQueue (event : Performed) : Option RecordedQueue :=
  match event.operation, event.reply with
  | .queueDeclare queue durable exclusive autoDelete arguments, .ok generatedName =>
    some ⟨declaredQueue queue generatedName, durable, exclusive, autoDelete, arguments, queue == ""⟩
  | _, _ => none

def Performed.recordedBinding (event : Performed) : Option RecordedBinding :=
  match event.operation, event.reply with
  | .queueBind queue exchange routingKey, .ok _ => some ⟨queue, exchange, routingKey⟩
  | _, _ => none

def configurationChannel (setup : Setup) (turn : ℕ) (result : TopologyHandlerResult) : Channel :=
  ⟨result.connection, setup.world.channelCount + turn⟩

structure ConfiguredInTurn (params : MulticastParams) (before : BrokerTopology) (setup after : Setup)
    (connections : List Connection) (queues names : List String) (events : List Performed)
    (results : List TopologyHandlerResult) : Prop where
  performed : after.world.performed = setup.world.performed ++ events
  accepted : ∀ event ∈ events, event.operation.isPassive = false → event.failed = false
  length : names.length = (queuesToConfigure params queues).length
  there : ∀ (position : ℕ) queue, (queuesToConfigure params queues)[position]? = some queue →
    params.predeclared = true ∧ queue ∈ before.queues →
      names[position]? = some queue ∧ ∀ event ∈ events, event.declaredName ≠ some queue
  declared : ∀ (position : ℕ) queue, (queuesToConfigure params queues)[position]? = some queue →
    ¬ (params.predeclared = true ∧ queue ∈ before.queues) →
      ∃ result generatedName, results[position % connections.length]? = some result ∧
        names[position]? = some (declaredQueue queue generatedName) ∧
        (events.filter fun event => event.declaredName = some (declaredQueue queue generatedName)) =
          [⟨configurationChannel setup (position % connections.length) result, queueDeclaration params queue,
            .ok generatedName⟩]
  onlyNamed : ∀ event ∈ events, ∀ name, event.declaredName = some name → name ∈ names
  overEach : results.map TopologyHandlerResult.connection = connections
  configured : ∀ (turn : ℕ) result, results[turn]? = some result → ∀ round,
    result.configuredQueues[round]? = names[round * connections.length + turn]?
  queues : ∀ (turn : ℕ) result, results[turn]? = some result → ∀ name record,
    ((result.recording after.topologyRecording).queues.lookup name).map after.world.records = some record ↔
      ∃ event ∈ events, event.channel = configurationChannel setup turn result ∧
        event.recordedQueue = some record ∧ record.name = name
  bindings : ∀ (turn : ℕ) result, results[turn]? = some result →
    (result.recording after.topologyRecording).bindings =
      (events.filter fun event => event.channel = configurationChannel setup turn result).filterMap
        Performed.recordedBinding
  channels : ∀ event ∈ events, event.recordedQueue.isSome = true ∨ event.recordedBinding.isSome = true →
    ∃ turn result, results[turn]? = some result ∧ event.channel = configurationChannel setup turn result

end PerfTestModel

namespace PerfTestProof

open Systems Program PerfTestModel TopologyRecording

section Events

variable {broker : Broker} {params : MulticastParams} {handler : TopologyHandler} {index : ℕ}
  {earlier check declaration : List Performed} {queue : DealtQueue} {event : Performed}

inductive DealtEvent (params : MulticastParams) (queue : DealtQueue) (event : Performed) : Prop where
  | asked (passive : event.operation.isPassive = true)
  | declared (missing : queue.found = false) (performed : queue.declaration = [event])
      (named : event.declaredName = some queue.name) (recorded : event.recordedQueue = some (queue.recorded params))
      (other : event.recordedBinding = none) (accepted : event.failed = false)
  | bound (binds : bindsQueues params = true) (performed : queue.binding = [event])
      (recorded : event.recordedBinding = some (queue.bound params)) (unnamed : event.declaredName = none)
      (other : event.recordedQueue = none) (accepted : event.failed = false)

theorem Declares.declaration_event (declares : Declares broker params earlier queue)
    (member : event ∈ queue.declaration) : DealtEvent params queue event := by
  rcases declares.declares with ⟨_, none, _⟩ | ⟨missing, channel, generatedName, performed, _, name⟩
  · rw [none] at member
    exact absurd member List.not_mem_nil
  · have same := member
    rw [performed] at same
    obtain rfl := List.mem_singleton.mp same
    refine .declared missing performed ?_ ?_ rfl rfl
    · rw [name]
      rfl
    · rw [DealtQueue.recorded, name]
      rfl

theorem BindsAt.binding_event (binds : BindsAt params handler index queue) (member : event ∈ queue.binding) :
    DealtEvent params queue event := by
  cases binding : bindsQueues params with
  | true =>
    obtain ⟨channel, generatedName, performed⟩ := binds.bound binding
    have same := member
    rw [performed] at same
    obtain rfl := List.mem_singleton.mp same
    exact .bound binding performed rfl rfl rfl rfl
  | false =>
    rw [binds.unbound binding] at member
    exact absurd member List.not_mem_nil

theorem Declares.declaration_of (declares : Declares broker params earlier queue) (missing : queue.found = false) :
    ∃ channel generatedName, queue.declaration =
        [⟨channel, queueDeclaration params queue.requested, .ok generatedName⟩] ∧
      queue.name = declaredQueue queue.requested generatedName ∧
      ⟨channel, queueDeclaration params queue.requested, .ok generatedName⟩ ∈ queue.events := by
  rcases declares.declares with ⟨found, _⟩ | ⟨_, channel, generatedName, performed, _, name⟩
  · rw [missing] at found
    cases found
  · refine ⟨channel, generatedName, performed, name, ?_⟩
    rw [DealtQueue.events, performed]
    exact List.mem_append_left _ (List.mem_append_right _ List.mem_cons_self)

theorem dealt_event_cases (declares : Declares broker params earlier queue) (binds : BindsAt params handler index queue)
    (member : event ∈ queue.events) : DealtEvent params queue event := by
  rw [DealtQueue.events, List.mem_append, List.mem_append] at member
  rcases member with (checked | declared) | bound
  · apply DealtEvent.asked
    rw [(declares.check_passive event checked).1]
    rfl
  · exact declares.declaration_event declared
  · exact binds.binding_event bound

theorem passive_event (passive : event.operation.isPassive = true) :
    event.declaredName = none ∧ event.recordedQueue = none ∧ event.recordedBinding = none := by
  unfold Performed.declaredName Performed.recordedQueue Performed.recordedBinding
  cases operation : event.operation with
  | exchangeDeclarePassive | queueDeclarePassive => exact ⟨rfl, rfl, rfl⟩
  | _ =>
    rw [operation] at passive
    cases passive

theorem filter_declaredName (declares : Declares broker params earlier queue)
    (binds : BindsAt params handler index queue) :
    (queue.events.filter fun event => event.declaredName = some queue.name) = queue.declaration := by
  have checked : (queue.check.filter fun event => event.declaredName = some queue.name) = [] := by
    rw [List.filter_eq_nil_iff]
    intro event member
    have passive : event.operation.isPassive = true := by
      rw [(declares.check_passive event member).1]
      rfl
    rw [(passive_event passive).1]
    exact Bool.false_ne_true
  have declared : (queue.declaration.filter fun event => event.declaredName = some queue.name) =
      queue.declaration := by
    rcases declares.declares with ⟨_, none, _⟩ | ⟨_, channel, generatedName, performed, _, name⟩
    · rw [none]
      rfl
    · rw [performed, name]
      exact List.filter_eq_self.mpr (List.forall_mem_singleton.mpr (decide_eq_true rfl))
  have bound : (queue.binding.filter fun event => event.declaredName = some queue.name) = [] := by
    cases binding : bindsQueues params with
    | true =>
      obtain ⟨channel, generatedName, performed⟩ := binds.bound binding
      rw [performed]
      exact List.filter_eq_nil_iff.mpr (List.forall_mem_singleton.mpr Bool.false_ne_true)
    | false =>
      rw [binds.unbound binding]
      rfl
  rw [DealtQueue.events, List.filter_append, List.filter_append, checked, declared, bound, List.nil_append,
    List.append_nil]

theorem exchange_event (declares : DeclaresExchange broker params earlier check declaration)
    (member : event ∈ check ++ declaration) :
    event.declaredName = none ∧ event.recordedQueue = none ∧ event.recordedBinding = none ∧
      (event.operation.isPassive = false → event.failed = false) := by
  rcases List.mem_append.mp member with checked | declared
  · have operation := List.mem_map_of_mem (f := Performed.operation) checked
    rw [declares.checks] at operation
    split at operation
    · have passive : event.operation.isPassive = true := by
        rw [List.mem_singleton.mp operation]
        rfl
      obtain ⟨name, queue, binding⟩ := passive_event passive
      refine ⟨name, queue, binding, fun active => ?_⟩
      rw [passive] at active
      cases active
    · exact absurd operation List.not_mem_nil
  · cases found : exchangeFound params check with
    | true =>
      rw [declares.found found] at declared
      exact absurd declared List.not_mem_nil
    | false =>
      obtain ⟨channel, generatedName, performed⟩ := declares.missing found
      rw [performed] at declared
      obtain rfl := List.mem_singleton.mp declared
      exact ⟨rfl, rfl, rfl, fun _ => rfl⟩

end Events

section

variable {broker : Broker} {params : MulticastParams} {handler : TopologyHandler} {advances : Bool}
  {setup after : Setup} {connections : List Connection} {queues : List String} {check declaration : List Performed}
  {dealt : List DealtQueue} {recordingOf : ℕ → TopologyRecording} {results : List TopologyHandlerResult}
  {states : List ConfigurationState} {before : BrokerTopology} {turn : ℕ} {result : TopologyHandlerResult}
  {queue : DealtQueue} {event : Performed} {position : ℕ}

theorem Dealt.event_cases (all : Dealt broker params handler advances setup connections queues check declaration dealt
      recordingOf results after) (member : event ∈ check ++ declaration ++ dealt.flatMap DealtQueue.events) :
    event ∈ check ++ declaration ∨ ∃ (position : ℕ) (queue : DealtQueue), dealt[position]? = some queue ∧
      event ∈ queue.events ∧ DealtEvent params queue event := by
  rcases List.mem_append.mp member with exchange | dealtEvent
  · exact .inl exchange
  · obtain ⟨queue, held, inQueue⟩ := List.mem_flatMap.mp dealtEvent
    obtain ⟨position, found⟩ := List.mem_iff_getElem?.mp held
    exact .inr ⟨position, queue, found, inQueue, dealt_event_cases (all.dealing.declares position queue found)
      (all.dealing.binds position queue found) inQueue⟩

theorem Dealt.declared_by (all : Dealt broker params handler advances setup connections queues check declaration dealt
      recordingOf results after) (member : event ∈ check ++ declaration ++ dealt.flatMap DealtQueue.events)
    {name : String} (declares : event.declaredName = some name) :
    ∃ (position : ℕ) (queue : DealtQueue), dealt[position]? = some queue ∧ queue.name = name ∧
      queue.declaration = [event] := by
  rcases all.event_cases member with exchange | ⟨position, queue, found, _, dealtEvent⟩
  · rw [(exchange_event all.exchange exchange).1] at declares
    cases declares
  · cases dealtEvent with
    | asked passive =>
      rw [(passive_event passive).1] at declares
      cases declares
    | declared missing performed named recorded other accepted =>
      rw [named, Option.some.injEq] at declares
      exact ⟨position, queue, found, declares, performed⟩
    | bound binds performed recorded unnamed other accepted =>
      rw [unnamed] at declares
      cases declares

theorem same_position (distinct : (dealt.map DealtQueue.name).Nodup) {other : ℕ} {otherQueue : DealtQueue}
    (found : dealt[position]? = some queue) (otherFound : dealt[other]? = some otherQueue)
    (same : queue.name = otherQueue.name) : position = other ∧ queue = otherQueue := by
  have at_position : (dealt.map DealtQueue.name)[position]? = (dealt.map DealtQueue.name)[other]? := by
    rw [List.getElem?_map, List.getElem?_map, found, otherFound]
    exact congrArg some same
  have inside : position < (dealt.map DealtQueue.name).length := by
    rw [List.length_map]
    exact (List.getElem?_eq_some_iff.mp found).1
  obtain rfl := (List.getElem?_inj inside distinct).mp at_position
  rw [found] at otherFound
  exact ⟨rfl, Option.some.inj otherFound⟩

/-- With distinct names, a queue is found if there was one before. -/
theorem Dealt.found_before (all : Dealt broker params handler advances setup connections queues check declaration
      dealt recordingOf results after) (finds : broker.FindsQueues setup.world.performed before)
    (distinct : (dealt.map DealtQueue.name).Nodup) (found : dealt[position]? = some queue) :
    queue.found = true ↔ params.predeclared = true ∧ queue.requested ∈ before.queues := by
  have there := all.dealing.found_iff all.exchange finds found
  rw [there]
  apply and_congr_right
  intro predeclared
  rw [or_iff_left_iff_imp]
  rintro ⟨earlier, less, other, otherFound, missing, name⟩
  have isFound := there.mpr ⟨predeclared, .inr ⟨earlier, less, other, otherFound, missing, name⟩⟩
  rcases (all.dealing.declares position queue found).declares with ⟨_, _, requested⟩ | ⟨absent, _⟩
  · obtain ⟨same, _⟩ := same_position distinct found otherFound (requested.trans name.symm)
    exact absurd same (Nat.ne_of_gt less)
  · rw [isFound] at absent
    cases absent

theorem Dealt.declarations (all : Dealt broker params handler advances setup connections queues check declaration
      dealt recordingOf results after) (distinct : (dealt.map DealtQueue.name).Nodup)
    (found : dealt[position]? = some queue) :
    ((check ++ declaration ++ dealt.flatMap DealtQueue.events).filter fun event =>
      event.declaredName = some queue.name) = queue.declaration := by
  have others : ((check ++ declaration).filter fun event => event.declaredName = some queue.name) = [] := by
    rw [List.filter_eq_nil_iff]
    intro event member
    rw [(exchange_event all.exchange member).1]
    simp
  have own := filter_declaredName (all.dealing.declares position queue found) (all.dealing.binds position queue found)
  have brings : ∀ other ∈ dealt, other ≠ queue →
      (other.events.filter fun event => event.declaredName = some queue.name) = [] := by
    intro other held different
    obtain ⟨otherPosition, otherFound⟩ := List.mem_iff_getElem?.mp held
    rw [List.filter_eq_nil_iff]
    intro event member named
    rw [decide_eq_true_eq] at named
    cases dealt_event_cases (all.dealing.declares otherPosition other otherFound)
        (all.dealing.binds otherPosition other otherFound) member with
    | asked passive =>
      rw [(passive_event passive).1] at named
      cases named
    | declared missing performed own recorded binding accepted =>
      rw [own, Option.some.injEq] at named
      exact different (same_position distinct otherFound found named).2
    | bound binds performed recorded unnamed queue accepted =>
      rw [unnamed] at named
      cases named
  rw [List.filter_append, others, List.nil_append, List.filter_flatMap,
    flatMap_eq_of_others distinct.of_map (List.mem_of_getElem? found) brings, own]

theorem HandedOut.channel_of (handed : HandedOut params setup connections states dealt recordingOf)
    (found : dealt[position]? = some queue) (member : event ∈ queue.events)
    (active : event.operation.isPassive = false)
    (at_turn : connections[turn]? = some result.connection) :
    event.channel = configurationChannel setup turn result ↔ position % connections.length = turn := by
  rcases handed.performed position queue found event member with passive | ⟨connection, there, channel⟩
  · rw [active] at passive
    cases passive
  · rw [channel, configurationChannel, Channel.mk.injEq, Nat.add_left_cancel_iff]
    constructor
    · exact And.right
    · rintro rfl
      rw [there, Option.some.injEq] at at_turn
      exact ⟨at_turn, rfl⟩

/-- What a queue contributes to the bindings of a recording. -/
theorem Dealt.bindings_of (all : Dealt broker params handler advances setup connections queues check declaration
      dealt recordingOf results after) (handed : HandedOut params setup connections states dealt recordingOf)
    (at_turn : connections[turn]? = some result.connection) (found : dealt[position]? = some queue) :
    (queue.events.filter fun event => event.channel = configurationChannel setup turn result).filterMap
        Performed.recordedBinding =
      if position % connections.length = turn then
        if bindsQueues params then [queue.bound params] else []
      else [] := by
  have declares := all.dealing.declares position queue found
  have binds := all.dealing.binds position queue found
  have unbound : ((queue.check ++ queue.declaration).filter fun event =>
      event.channel = configurationChannel setup turn result).filterMap Performed.recordedBinding = [] := by
    rw [List.filterMap_eq_nil_iff]
    intro event held
    rcases List.mem_append.mp (List.mem_of_mem_filter held) with checked | declared
    · have passive : event.operation.isPassive = true := by
        rw [(declares.check_passive event checked).1]
        rfl
      exact (passive_event passive).2.2
    · rcases declares.declares with ⟨_, none, _⟩ | ⟨_, channel, generatedName, performed, _⟩
      · rw [none] at declared
        exact absurd declared List.not_mem_nil
      · rw [performed] at declared
        rw [List.mem_singleton.mp declared]
        rfl
  rw [DealtQueue.events, List.filter_append, List.filterMap_append, unbound, List.nil_append]
  cases binding : bindsQueues params with
  | false =>
    rw [binds.unbound binding]
    split <;> rfl
  | true =>
    obtain ⟨channel, generatedName, performed⟩ := binds.bound binding
    have member : ⟨channel, .queueBind queue.name params.exchangeName queue.routingKey, .ok generatedName⟩ ∈
        queue.events := by
      rw [DealtQueue.events, performed]
      exact List.mem_append_right _ List.mem_cons_self
    have here := handed.channel_of found member rfl at_turn
    rw [performed, if_pos rfl]
    dsimp only at here
    by_cases turns : position % connections.length = turn
    · simp [here.mpr turns, turns, Performed.recordedBinding, DealtQueue.bound]
    · simp [mt here.mp turns, turns]

theorem Dealt.turn_of (all : Dealt broker params handler advances setup connections queues check declaration dealt
      recordingOf results after) (found : results[turn]? = some result) :
    turn < connections.length ∧ connections[turn]? = some result.connection ∧
      result.recording after.topologyRecording = recordingOf turn := by
  obtain ⟨less, recording, _⟩ := all.at_turn found
  exact ⟨less, (all.results turn result found).1, recording⟩

theorem Dealt.bindings_over (all : Dealt broker params handler advances setup connections queues check declaration
      dealt recordingOf results after) (handed : HandedOut params setup connections states dealt recordingOf)
    (at_turn : results[turn]? = some result) :
    (result.recording after.topologyRecording).bindings =
      ((check ++ declaration ++ dealt.flatMap DealtQueue.events).filter fun event =>
        event.channel = configurationChannel setup turn result).filterMap Performed.recordedBinding := by
  obtain ⟨less, connection, recording⟩ := all.turn_of at_turn
  have exchange : ((check ++ declaration).filter fun event =>
      event.channel = configurationChannel setup turn result).filterMap Performed.recordedBinding = [] := by
    rw [List.filterMap_eq_nil_iff]
    exact fun event held => (exchange_event all.exchange (List.mem_of_mem_filter held)).2.2.1
  rw [recording, handed.bindings turn less, List.filter_append, List.filterMap_append, exchange, List.nil_append,
    List.filter_flatMap, List.filterMap_flatMap, flatMap_hand fun position queue => all.bindings_of handed connection]
  cases bindsQueues params with
  | true => exact List.map_eq_flatMap
  | false => exact (List.flatMap_eq_nil_iff.mpr fun _ _ => rfl).symm

theorem Dealt.queues_over (all : Dealt broker params handler advances setup connections queues check declaration
      dealt recordingOf results after) (handed : HandedOut params setup connections states dealt recordingOf)
    (distinct : (dealt.map DealtQueue.name).Nodup) (at_turn : results[turn]? = some result) (name : String)
    (record : RecordedQueue) :
    ((result.recording after.topologyRecording).queues.lookup name).map after.world.records = some record ↔
      ∃ event ∈ check ++ declaration ++ dealt.flatMap DealtQueue.events,
        event.channel = configurationChannel setup turn result ∧ event.recordedQueue = some record ∧
          record.name = name := by
  obtain ⟨less, connection, recording⟩ := all.turn_of at_turn
  have holds := all.dealing.holds turn less
  rw [recording, Option.map_eq_some_iff]
  constructor
  · rintro ⟨reference, present, rfl⟩
    obtain ⟨_, queue, ⟨position, found, here⟩, missing, rfl, recorded⟩ := holds.records name reference present
    obtain ⟨channel, generatedName, _, named, member⟩ :=
      (all.dealing.declares position queue found).declaration_of missing
    refine ⟨_, List.mem_append_right _ (List.mem_flatMap.mpr ⟨queue, List.mem_of_getElem? found, member⟩),
      (handed.channel_of found member rfl connection).mpr here, ?_, ?_⟩
    · rw [recorded, DealtQueue.recorded, named]
      rfl
    · rw [recorded]
      rfl
  · rintro ⟨event, member, channel, recorded, rfl⟩
    rcases all.event_cases member with exchange | ⟨position, queue, found, inQueue, dealtEvent⟩
    · rw [(exchange_event all.exchange exchange).2.1] at recorded
      cases recorded
    · cases dealtEvent with
      | asked passive =>
        rw [(passive_event passive).2.1] at recorded
        cases recorded
      | bound binds performed bound unnamed other accepted =>
        rw [other] at recorded
        cases recorded
      | declared missing performed named own other accepted =>
        rw [own, Option.some.injEq] at recorded
        subst recorded
        have active : event.operation.isPassive = false := by
          by_contra passive
          rw [(passive_event (Bool.eq_true_of_not_eq_false passive)).1] at named
          cases named
        have here := (handed.channel_of found inQueue active connection).mp channel
        have held : queue.name ∈ (recordingOf turn).queues :=
          (holds.queues queue.name).mpr ⟨queue, ⟨position, found, here⟩, missing, rfl⟩
        obtain ⟨reference, present⟩ := Option.isSome_iff_exists.mp (AList.lookup_isSome.mpr held)
        obtain ⟨_, same, ⟨other, otherFound, _⟩, _, sameName, recorded⟩ := holds.records queue.name reference present
        obtain ⟨_, rfl⟩ := same_position distinct otherFound found sameName
        exact ⟨reference, present, recorded⟩

theorem HandedOut.hands (handed : HandedOut params setup connections states dealt recordingOf)
    (same : results = states.map ConfigurationState.result) (at_turn : results[turn]? = some result) :
    result.configuredQueues = hand connections.length turn (dealt.map DealtQueue.name) := by
  rw [same, List.getElem?_map] at at_turn
  obtain ⟨state, found, rfl⟩ := Option.map_eq_some_iff.mp at_turn
  exact handed.names turn state found

theorem Dealt.names_distinct (all : Dealt broker params handler advances setup connections queues check declaration
      dealt recordingOf results after) (handed : HandedOut params setup connections states dealt recordingOf)
    (same : results = states.map ConfigurationState.result)
    (distinct : (results.flatMap TopologyHandlerResult.configuredQueues).Nodup) :
    (dealt.map DealtQueue.name).Nodup := by
  have length : (results.map TopologyHandlerResult.configuredQueues).length = connections.length := by
    rw [List.length_map, all.length]
  rw [List.flatMap_def] at distinct
  refine nodup_of_hands ?_ ?_ distinct
  · rw [length]
    exact all.connected
  · intro turn held found
    rw [List.getElem?_map] at found
    obtain ⟨result, at_turn, rfl⟩ := Option.map_eq_some_iff.mp found
    rw [length]
    exact handed.hands same at_turn

theorem Dealt.accepted (all : Dealt broker params handler advances setup connections queues check declaration dealt
      recordingOf results after) (member : event ∈ check ++ declaration ++ dealt.flatMap DealtQueue.events)
    (active : event.operation.isPassive = false) : event.failed = false := by
  rcases all.event_cases member with exchange | ⟨_, queue, _, _, dealtEvent⟩
  · exact (exchange_event all.exchange exchange).2.2.2 active
  · cases dealtEvent with
    | asked passive =>
      rw [active] at passive
      cases passive
    | declared missing performed named recorded other accepted => exact accepted
    | bound binds performed recorded unnamed other accepted => exact accepted

theorem Dealt.connections_eq (all : Dealt broker params handler advances setup connections queues check declaration
      dealt recordingOf results after) : results.map TopologyHandlerResult.connection = connections := by
  apply List.ext_getElem?
  intro turn
  rw [List.getElem?_map]
  cases found : results[turn]? with
  | some result => exact ((all.results turn result found).1).symm
  | none =>
    rw [List.getElem?_eq_none_iff, all.length, ← List.getElem?_eq_none_iff] at found
    rw [found]
    rfl

theorem Dealt.there (all : Dealt broker params handler advances setup connections queues check declaration dealt
      recordingOf results after) (distinct : (dealt.map DealtQueue.name).Nodup) (found : dealt[position]? = some queue)
    (isFound : queue.found = true) :
    queue.name = queue.requested ∧ ∀ event ∈ check ++ declaration ++ dealt.flatMap DealtQueue.events,
      event.declaredName ≠ some queue.requested := by
  rcases (all.dealing.declares position queue found).declares with ⟨_, none, name⟩ | ⟨missing, _⟩
  · refine ⟨name, fun event member named => ?_⟩
    obtain ⟨other, otherQueue, otherFound, sameName, performed⟩ := all.declared_by member named
    obtain ⟨_, rfl⟩ := same_position distinct found otherFound (name.trans sameName.symm)
    rw [none] at performed
    cases performed
  · rw [isFound] at missing
    cases missing

theorem Dealt.declared (all : Dealt broker params handler advances setup connections queues check declaration dealt
      recordingOf results after) (handed : HandedOut params setup connections states dealt recordingOf)
    (distinct : (dealt.map DealtQueue.name).Nodup) (found : dealt[position]? = some queue)
    (missing : queue.found = false) :
    ∃ result generatedName, results[position % connections.length]? = some result ∧
      queue.name = declaredQueue queue.requested generatedName ∧
      ((check ++ declaration ++ dealt.flatMap DealtQueue.events).filter fun event =>
          event.declaredName = some (declaredQueue queue.requested generatedName)) =
        [⟨configurationChannel setup (position % connections.length) result, queueDeclaration params queue.requested,
          .ok generatedName⟩] := by
  obtain ⟨channel, generatedName, performed, name, member⟩ :=
    (all.dealing.declares position queue found).declaration_of missing
  obtain ⟨result, at_turn⟩ := all.of_turn (Nat.mod_lt position all.connected)
  have sameChannel := (handed.channel_of found member rfl (all.results _ result at_turn).1).mpr rfl
  refine ⟨result, generatedName, at_turn, name, ?_⟩
  rw [← name, all.declarations distinct found, performed, ← sameChannel]

theorem Dealt.channels (all : Dealt broker params handler advances setup connections queues check declaration dealt
      recordingOf results after) (handed : HandedOut params setup connections states dealt recordingOf)
    (member : event ∈ check ++ declaration ++ dealt.flatMap DealtQueue.events)
    (recorded : event.recordedQueue.isSome = true ∨ event.recordedBinding.isSome = true) :
    ∃ turn result, results[turn]? = some result ∧ event.channel = configurationChannel setup turn result := by
  have active : event.operation.isPassive = false := by
    by_contra passive
    obtain ⟨_, noQueue, noBinding⟩ := passive_event (Bool.eq_true_of_not_eq_false passive)
    rw [noQueue, noBinding] at recorded
    simp at recorded
  rcases all.event_cases member with exchange | ⟨position, queue, found, inQueue, _⟩
  · obtain ⟨_, noQueue, noBinding, _⟩ := exchange_event all.exchange exchange
    rw [noQueue, noBinding] at recorded
    simp at recorded
  · obtain ⟨result, at_turn⟩ := all.of_turn (Nat.mod_lt position all.connected)
    exact ⟨_, result, at_turn, (handed.channel_of found inQueue active (all.results _ result at_turn).1).mpr rfl⟩

/-- Queues with distinct names are declared once each, over their own connection, unless they were there. -/
theorem queues_configured_in_turn (finds : broker.FindsQueues setup.world.performed before)
    (configured : configureQueues broker params handler connections queues (afterQueue handler advances) setup =
      (.ok results, after))
    (distinct : (results.flatMap TopologyHandlerResult.configuredQueues).Nodup) :
    ∃ names events, ConfiguredInTurn params before setup after connections queues names events results := by
  have ends := configureQueues_over broker params handler advances connections queues setup
  rw [ends_of_return configured] at ends
  obtain ⟨check, declaration, dealt, recordingOf, states, all, handed, same⟩ := ends
  have apart := all.names_distinct handed same distinct
  refine ⟨dealt.map DealtQueue.name, check ++ declaration ++ dealt.flatMap DealtQueue.events, ?_⟩
  constructor
  · rw [all.dealing.performed, List.append_assoc]
  · exact fun event member active => all.accepted member active
  · rw [List.length_map, ← all.requested, List.length_map]
  · intro position requested listed there
    obtain ⟨queue, found, rfl⟩ := all.requested_at.mp listed
    obtain ⟨name, undeclared⟩ := all.there apart found ((all.found_before finds apart found).mpr there)
    refine ⟨?_, undeclared⟩
    rw [List.getElem?_map, found]
    exact congrArg some name
  · intro position requested listed absent
    obtain ⟨queue, found, rfl⟩ := all.requested_at.mp listed
    have missing := Bool.eq_false_of_not_eq_true (mt (all.found_before finds apart found).mp absent)
    obtain ⟨result, generatedName, at_turn, name, declared⟩ := all.declared handed apart found missing
    refine ⟨result, generatedName, at_turn, ?_, declared⟩
    rw [List.getElem?_map, found]
    exact congrArg some name
  · intro event member name named
    obtain ⟨position, queue, found, rfl, _⟩ := all.declared_by member named
    exact List.mem_map_of_mem (List.mem_of_getElem? found)
  · exact all.connections_eq
  · intro turn result at_turn round
    rw [handed.hands same at_turn, hand_getElem? (all.at_turn at_turn).1]
  · exact fun turn result at_turn => all.queues_over handed apart at_turn
  · exact fun turn result at_turn => all.bindings_over handed at_turn
  · exact fun event member recorded => all.channels handed member recorded

end

def predeclaredQueues : List String := ["orders-1", "", "orders-2"]

def predeclaredParams : MulticastParams := { ordersParams "orders" with predeclared := true }

def predeclaredBroker : Broker := keepingBroker [] ⟨∅, {"orders-1"}⟩ ["orders-1", "orders-2"]

def predeclaredRun : Except Failure (List TopologyHandlerResult) × Setup :=
  configureQueues predeclaredBroker predeclaredParams (.sequence predeclaredQueues (some "key")) [0, 1]
    predeclaredQueues (afterQueue (.sequence predeclaredQueues (some "key")) true)
    (Setup.init predeclaredParams World.start)

theorem predeclared_configured_in_turn :
    ∃ results names events, predeclaredRun = (.ok results, predeclaredRun.2) ∧
      results.map TopologyHandlerResult.configuredQueues =
        [["orders-1", "orders-2"], [nextName ["orders-1", "orders-2"] []]] ∧
      ConfiguredInTurn predeclaredParams ⟨∅, {"orders-1"}⟩ (Setup.init predeclaredParams World.start) predeclaredRun.2
        [0, 1] predeclaredQueues names events results := by
  have returned : predeclaredRun.1 = .ok [⟨0, 0, ["orders-1", "orders-2"]⟩,
      ⟨1, 1, [nextName ["orders-1", "orders-2"] []]⟩] := by decide +kernel
  have ran : predeclaredRun = (.ok [⟨0, 0, ["orders-1", "orders-2"]⟩,
      ⟨1, 1, [nextName ["orders-1", "orders-2"] []]⟩], predeclaredRun.2) := by
    rw [← returned]
  have configured : configureQueues predeclaredBroker predeclaredParams (.sequence predeclaredQueues (some "key"))
      [0, 1] predeclaredQueues (afterQueue (.sequence predeclaredQueues (some "key")) true)
      (Setup.init predeclaredParams World.start) = (.ok [⟨0, 0, ["orders-1", "orders-2"]⟩,
        ⟨1, 1, [nextName ["orders-1", "orders-2"] []]⟩], predeclaredRun.2) := ran
  have finds : predeclaredBroker.FindsQueues (Setup.init predeclaredParams World.start).world.performed
      ⟨∅, {"orders-1"}⟩ :=
    findsQueues_of_checks (keepingBroker_answers [] (by simp)).toChecksBy
  have distinct : (([⟨0, 0, ["orders-1", "orders-2"]⟩, ⟨1, 1, [nextName ["orders-1", "orders-2"] []]⟩] :
      List TopologyHandlerResult).flatMap TopologyHandlerResult.configuredQueues).Nodup := by decide +kernel
  obtain ⟨names, events, inTurn⟩ := queues_configured_in_turn finds configured distinct
  exact ⟨_, names, events, ran, rfl, inTurn⟩

end PerfTestProof
