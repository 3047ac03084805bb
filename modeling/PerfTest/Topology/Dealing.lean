import PerfTest.Systems.Turns
import PerfTest.Topology.ClientRecording

namespace PerfTestModel

open Systems

structure DealtQueue where
  requested : String
  name : String
  routingKey : String
  check : List Performed
  declaration : List Performed
  binding : List Performed

namespace DealtQueue

def found (dealt : DealtQueue) : Bool := dealt.check.any fun event => !event.failed

def events (dealt : DealtQueue) : List Performed := dealt.check ++ dealt.declaration ++ dealt.binding

def recorded (params : MulticastParams) (dealt : DealtQueue) : RecordedQueue :=
  ⟨dealt.name, !params.exclusive, params.exclusive, params.autoDelete, params.queueArguments,
    dealt.requested == ""⟩

def bound (params : MulticastParams) (dealt : DealtQueue) : RecordedBinding :=
  ⟨dealt.name, params.exchangeName, dealt.routingKey⟩

def record (params : MulticastParams) (reference : QueueRef) (dealt : DealtQueue)
    (recording : TopologyRecording) : TopologyRecording :=
  let declared := if dealt.found then recording else recording.recordQueue dealt.name reference
  if bindsQueues params then declared.recordBinding dealt.name params.exchangeName dealt.routingKey
  else declared

end DealtQueue

def queueDeclaration (params : MulticastParams) (queue : String) : BrokerOperation :=
  .queueDeclare queue (!params.exclusive) params.exclusive params.autoDelete params.queueArguments

def exchangeFound (params : MulticastParams) (check : List Performed) : Bool :=
  params.predeclared && (reserved params.exchangeName || check.any fun event => !event.failed)

def indexAt (handler : TopologyHandler) (advances : Bool) (start position : ℕ) : ℕ :=
  match handler, advances with
  | .sequence .., true => start + position
  | _, _ => start

def DealtTo (count turn : ℕ) (dealt : List DealtQueue) (queue : DealtQueue) : Prop :=
  ∃ position, dealt[position]? = some queue ∧ position % count = turn

end PerfTestModel

namespace PerfTestProof

open Systems Program PerfTestModel TopologyRecording TopologyHandler

theorem dealtTo_concat {count turn : ℕ} {dealt : List DealtQueue} {last queue : DealtQueue} :
    DealtTo count turn (dealt ++ [last]) queue ↔
      DealtTo count turn dealt queue ∨ queue = last ∧ dealt.length % count = turn := by
  simp only [DealtTo, getElem?_concat_iff]
  constructor
  · rintro ⟨position, before | ⟨rfl, rfl⟩, turns⟩
    · exact .inl ⟨position, before, turns⟩
    · exact .inr ⟨rfl, turns⟩
  · rintro (⟨position, before, turns⟩ | ⟨rfl, turns⟩)
    · exact ⟨position, .inl before, turns⟩
    · exact ⟨dealt.length, .inr ⟨rfl, rfl⟩, turns⟩

structure Declares (broker : Broker) (params : MulticastParams) (earlier : List Performed)
    (dealt : DealtQueue) : Prop where
  checks : dealt.check.map Performed.operation =
    if params.predeclared then [.queueDeclarePassive dealt.requested] else []
  answers : ∀ event ∈ dealt.check, event.reply = broker.reply earlier event.operation
  declares : dealt.found = true ∧ dealt.declaration = [] ∧ dealt.name = dealt.requested ∨
    dealt.found = false ∧ ∃ channel generatedName,
      dealt.declaration = [⟨channel, queueDeclaration params dealt.requested, .ok generatedName⟩] ∧
      broker.reply (earlier ++ dealt.check) (queueDeclaration params dealt.requested) = .ok generatedName ∧
      dealt.name = declaredQueue dealt.requested generatedName

structure BindsAt (params : MulticastParams) (handler : TopologyHandler) (index : ℕ)
    (dealt : DealtQueue) : Prop where
  bound : bindsQueues params = true → ∃ channel generatedName, dealt.binding =
    [⟨channel, .queueBind dealt.name params.exchangeName dealt.routingKey, .ok generatedName⟩]
  unbound : bindsQueues params = false → dealt.binding = []
  routingKey : bindsQueues params = true → routingKeyAt index handler = some dealt.routingKey

/-- A call that is there to ask: what it asks, and that nothing else changes. -/
theorem existsAt_ends (broker : Broker) (connection : Connection) (operation : BrokerOperation) (world : World) :
    (existsAt broker connection operation).ends
      (fun found after => ∃ event : Performed, event.operation = operation ∧
        event.reply = broker.reply world.performed operation ∧ found = !event.failed ∧
        after = world.opened.did event)
      (fun _ _ => True) world := by
  rw [existsAt, ends_tryCatch, ends_bind]
  apply ends_mono (createChannel_opens broker connection world)
  · rintro _ _ ⟨_, rfl, rfl⟩
    rw [ends_bind, perform_ends]
    have same : world.opened.performed = world.performed := rfl
    rw [same]
    cases broker.reply world.performed operation with
    | ok name => exact ⟨_, rfl, rfl, rfl, rfl⟩
    | failed failure =>
      simp only [ends_ite, ends_pure, ends_throw]
      split
      · exact ⟨_, rfl, rfl, rfl, rfl⟩
      · trivial
  · rintro failure _ ⟨_, rfl, other⟩
    rw [if_neg other]
    trivial

theorem askFirst_ends (broker : Broker) (params : MulticastParams) (connection : Connection)
    (operation : BrokerOperation) (setup : Setup) :
    (askFirst params (existsAt broker connection operation)).ends
      (fun found after => ∃ check : List Performed,
        check.map Performed.operation = (if params.predeclared then [operation] else []) ∧
        (∀ event ∈ check, event.reply = broker.reply setup.world.performed event.operation) ∧
        found = check.any (fun event => !event.failed) ∧
        ∃ channelCount, after = { setup with world := { setup.world with
          performed := setup.world.performed ++ check, channelCount } })
      (fun _ _ => True) setup := by
  unfold askFirst
  split
  · rw [onBroker, ends_within]
    apply ends_mono (existsAt_ends broker connection operation setup.world)
    · rintro _ _ ⟨event, rfl, reply, rfl, rfl⟩
      refine ⟨[event], rfl, List.forall_mem_singleton.mpr reply, by simp, _, rfl⟩
    · exact fun _ _ => id
  · refine ⟨[], rfl, List.forall_mem_nil _, rfl, setup.world.channelCount, ?_⟩
    rw [List.append_nil]

structure DeclaresExchange (broker : Broker) (params : MulticastParams) (earlier check declaration : List Performed) :
    Prop where
  checks : check.map Performed.operation =
    if params.predeclared && !reserved params.exchangeName then [.exchangeDeclarePassive params.exchangeName]
    else []
  answers : ∀ event ∈ check, event.reply = broker.reply earlier event.operation
  found : exchangeFound params check = true → declaration = []
  missing : exchangeFound params check = false → ∃ channel generatedName,
    declaration = [⟨channel, .exchangeDeclare params.exchangeName params.exchangeType true, .ok generatedName⟩]

structure Unmoved (setup after : Setup) : Prop where
  closed : after.world.closed = setup.world.closed
  consumers : after.consumers = setup.consumers

structure ExchangeDeclared (params : MulticastParams) (position : ℕ) (check declaration : List Performed)
    (setup after : Setup) : Prop extends Unmoved setup after where
  performed : after.world.performed = setup.world.performed ++ check ++ declaration
  records : after.world.records = setup.world.records
  recordCount : after.world.recordCount = setup.world.recordCount
  index : after.index = setup.index
  children : after.topologyRecording.children =
    if exchangeFound params check then setup.topologyRecording.children
    else setup.topologyRecording.children.modify position fun recording =>
      recording.recordExchange params.exchangeName params.exchangeType

theorem askExchange_ends (broker : Broker) (params : MulticastParams) (connection : Connection) (setup : Setup) :
    (askFirst params (exchangeExists broker connection params.exchangeName)).ends
      (fun found after => ∃ check : List Performed,
        check.map Performed.operation = (if params.predeclared && !reserved params.exchangeName then
          [.exchangeDeclarePassive params.exchangeName] else []) ∧
        (∀ event ∈ check, event.reply = broker.reply setup.world.performed event.operation) ∧
        found = exchangeFound params check ∧
        ∃ channelCount, after = { setup with world := { setup.world with
          performed := setup.world.performed ++ check, channelCount } })
      (fun _ _ => True) setup := by
  by_cases isReserved : reserved params.exchangeName = true
  · have skipped := isReserved
    rw [reserved, decide_eq_true_eq] at skipped
    rw [exchangeExists, if_pos skipped, askFirst]
    have unchanged : ∃ channelCount, setup = { setup with world := { setup.world with
        performed := setup.world.performed ++ [], channelCount } } :=
      ⟨setup.world.channelCount, by rw [List.append_nil]⟩
    split
    · rename_i predeclared
      exact ⟨[], by simp [isReserved], List.forall_mem_nil _, by simp [exchangeFound, predeclared, isReserved],
        unchanged⟩
    · rename_i declared
      exact ⟨[], by simp [isReserved], List.forall_mem_nil _, by simp [exchangeFound, declared], unchanged⟩
  · have asked := isReserved
    rw [reserved, decide_eq_true_eq] at asked
    rw [exchangeExists, if_neg asked]
    rw [Bool.not_eq_true] at isReserved
    apply ends_mono (askFirst_ends broker params connection _ setup) _ fun _ _ => id
    rintro _ _ ⟨check, checks, answers, rfl, channelCount, rfl⟩
    refine ⟨check, by simpa [isReserved] using checks, answers, ?_, channelCount, rfl⟩
    cases predeclared : params.predeclared with
    | true => simp [exchangeFound, predeclared, isReserved]
    | false =>
      rw [predeclared] at checks
      rw [List.map_eq_nil_iff.mp checks]
      simp [exchangeFound, predeclared]

theorem declareExchange_ends (broker : Broker) (params : MulticastParams) (state : ConfigurationState)
    (setup : Setup) :
    (declareExchange broker params state).ends
      (fun _ after => ∃ check declaration,
        DeclaresExchange broker params setup.world.performed check declaration ∧
        ExchangeDeclared params state.topologyRecording check declaration setup after)
      (fun _ _ => True) setup := by
  rw [declareExchange_eq, ends_bind]
  apply ends_mono (askExchange_ends broker params state.connection setup) _ fun _ _ => id
  rintro _ _ ⟨check, checks, answers, rfl, channelCount, rfl⟩
  cases found : exchangeFound params check with
  | true =>
    refine ⟨check, [], ⟨checks, answers, fun _ => rfl, fun missing => ?_⟩, ⟨⟨rfl, rfl⟩, ?_, rfl, rfl, rfl, ?_⟩⟩
    · rw [found] at missing
      cases missing
    · exact (List.append_nil _).symm
    · rw [found]
      rfl
  | false =>
    rw [Bool.not_false, if_pos rfl, declareNewExchange, ends_bind, onBroker, ends_within, exchangeDeclare,
      ends_bind, perform_ends]
    split
    · rename_i generatedName answer
      refine ⟨check, _, ⟨checks, answers, fun missing => ?_, fun _ => ⟨_, generatedName, rfl⟩⟩,
        ⟨⟨rfl, rfl⟩, rfl, rfl, rfl, rfl, ?_⟩⟩
      · rw [found] at missing
        cases missing
      · rw [found]
        rfl
    · trivial

structure QueueDeclared (params : MulticastParams) (position : ℕ) (dealt : DealtQueue) (setup after : Setup) :
    Prop extends Unmoved setup after where
  performed : after.world.performed = setup.world.performed ++ dealt.check ++ dealt.declaration
  index : after.index = setup.index
  found : dealt.found = true → after.world.records = setup.world.records ∧
    after.world.recordCount = setup.world.recordCount ∧
    after.topologyRecording.children = setup.topologyRecording.children
  missing : dealt.found = false → after.world.records =
      Function.update setup.world.records setup.world.recordCount (dealt.recorded params) ∧
    after.world.recordCount = setup.world.recordCount + 1 ∧
    after.topologyRecording.children = setup.topologyRecording.children.modify position fun recording =>
      recording.recordQueue dealt.name setup.world.recordCount

theorem declareQueue_ends (broker : Broker) (params : MulticastParams) (state : ConfigurationState)
    (qName : String) (setup : Setup) :
    (declareQueue broker params state qName).ends
      (fun name after => ∃ check declaration,
        Declares broker params setup.world.performed ⟨qName, name, "", check, declaration, []⟩ ∧
        QueueDeclared params state.topologyRecording ⟨qName, name, "", check, declaration, []⟩ setup after)
      (fun _ _ => True) setup := by
  rw [declareQueue_eq, ends_bind]
  apply ends_mono (askFirst_ends broker params state.connection _ setup) _ fun _ _ => id
  rintro _ _ ⟨check, checks, answers, rfl, channelCount, rfl⟩
  cases found : check.any fun event => !event.failed with
  | true =>
    refine ⟨check, [], ⟨checks, answers, .inl ⟨found, rfl, rfl⟩⟩, ⟨⟨rfl, rfl⟩, ?_, rfl, ?_, ?_⟩⟩
    · exact (List.append_nil _).symm
    · exact fun _ => ⟨rfl, rfl, rfl⟩
    · intro missing
      rw [DealtQueue.found, found] at missing
      cases missing
  | false =>
    simp only [Bool.false_eq_true, if_false, declareNewQueue, ends_bind, onBroker, ends_within, queueDeclare,
      perform_ends]
    split
    · rename_i generatedName answer
      refine ⟨check, _, ⟨checks, answers, .inr ⟨found, _, generatedName, rfl, answer, rfl⟩⟩,
        ⟨⟨rfl, rfl⟩, rfl, rfl, ?_, fun _ => ⟨rfl, rfl, rfl⟩⟩⟩
      intro present
      rw [DealtQueue.found, found] at present
      cases present
    · trivial

structure QueueBound (params : MulticastParams) (position : ℕ) (dealt : DealtQueue) (setup after : Setup) :
    Prop extends Unmoved setup after where
  performed : after.world.performed = setup.world.performed ++ dealt.binding
  records : after.world.records = setup.world.records
  recordCount : after.world.recordCount = setup.world.recordCount
  index : after.index = setup.index
  children : after.topologyRecording.children =
    if bindsQueues params then setup.topologyRecording.children.modify position fun recording =>
      recording.recordBinding dealt.name params.exchangeName dealt.routingKey
    else setup.topologyRecording.children

theorem bindQueue_ends (broker : Broker) (params : MulticastParams) (handler : TopologyHandler)
    (state : ConfigurationState) (dealt : DealtQueue) (setup : Setup) :
    (bindQueue broker params handler state dealt.name).ends
      (fun _ after => ∃ routingKey binding,
        BindsAt params handler setup.index { dealt with routingKey, binding } ∧
        QueueBound params state.topologyRecording { dealt with routingKey, binding } setup after)
      (fun _ _ => True) setup := by
  unfold bindQueue
  cases binds : bindsQueues params with
  | false =>
    refine ⟨"", [], ⟨?_, fun _ => rfl, ?_⟩, ⟨⟨rfl, rfl⟩, ?_, rfl, rfl, rfl, ?_⟩⟩
    · intro binding
      rw [binds] at binding
      cases binding
    · intro binding
      rw [binds] at binding
      cases binding
    · exact (List.append_nil _).symm
    · rw [binds]
      rfl
  | true =>
    rw [if_pos rfl, ends_bind, getRoutingKey_ends]
    split
    · rename_i routingKey keyed
      rw [ends_bind, onBroker, ends_within, queueBind, ends_bind, perform_ends]
      split
      · rename_i generatedName answer
        refine ⟨routingKey, _, ⟨fun _ => ⟨_, generatedName, rfl⟩, ?_, fun _ => keyed⟩,
          ⟨⟨rfl, rfl⟩, rfl, rfl, rfl, rfl, ?_⟩⟩
        · intro unbound
          rw [binds] at unbound
          cases unbound
        · rw [binds]
          rfl
      · trivial
    · trivial

theorem afterQueue_ends (handler : TopologyHandler) (advances : Bool) (start position : ℕ) (setup : Setup)
    (here : setup.index = indexAt handler advances start position) :
    (afterQueue handler advances).ends
      (fun _ after => after = { setup with index := indexAt handler advances start (position + 1) })
      (fun _ _ => True) setup := by
  cases advances with
  | false =>
    have same : indexAt handler false start (position + 1) = setup.index := by
      rw [here]
      cases handler <;> rfl
    rw [same]
    exact rfl
  | true =>
    cases handler with
    | fixedQueues routingKey queueNames =>
      rw [show indexAt (.fixedQueues routingKey queueNames) true start (position + 1) = setup.index from here.symm]
      exact rfl
    | sequence queues routingKey =>
      have next : indexAt (.sequence queues routingKey) true start (position + 1) = setup.index + 1 := by
        rw [here]
        rfl
      rw [next]
      exact rfl

structure QueueDealt (params : MulticastParams) (position : ℕ) (dealt : DealtQueue) (setup after : Setup) :
    Prop extends Unmoved setup after where
  performed : after.world.performed = setup.world.performed ++ dealt.events
  found : dealt.found = true → after.world.records = setup.world.records ∧
    after.world.recordCount = setup.world.recordCount
  missing : dealt.found = false → after.world.records =
      Function.update setup.world.records setup.world.recordCount (dealt.recorded params) ∧
    after.world.recordCount = setup.world.recordCount + 1
  children : after.topologyRecording.children = setup.topologyRecording.children.modify position
    (dealt.record params setup.world.recordCount)

theorem QueueDeclared.bound {params : MulticastParams} {position : ℕ} {dealt : DealtQueue}
    {routingKey : String} {binding : List Performed} {setup declared after : Setup}
    (first : QueueDeclared params position dealt setup declared)
    (second : QueueBound params position { dealt with routingKey, binding } declared after) :
    QueueDealt params position { dealt with routingKey, binding } setup after := by
  refine ⟨⟨second.closed.trans first.closed, second.consumers.trans first.consumers⟩, ?_, ?_, ?_, ?_⟩
  · rw [second.performed, first.performed, DealtQueue.events]
    simp only [List.append_assoc]
  · intro found
    obtain ⟨records, recordCount, _⟩ := first.found found
    exact ⟨second.records.trans records, second.recordCount.trans recordCount⟩
  · intro missing
    obtain ⟨records, recordCount, _⟩ := first.missing missing
    exact ⟨second.records.trans records, second.recordCount.trans recordCount⟩
  · have declares : declared.topologyRecording.children =
        setup.topologyRecording.children.modify position fun recording =>
          if dealt.found then recording else recording.recordQueue dealt.name setup.world.recordCount := by
      cases found : dealt.found with
      | true => rw [(first.found found).2.2]; exact (List.modify_id position _).symm
      | false => rw [(first.missing found).2.2]; rfl
    rw [second.children, declares]
    cases binds : bindsQueues params with
    | true =>
      rw [if_pos rfl, List.modify_modify_eq]
      congr 1
      funext recording
      simp [DealtQueue.record, DealtQueue.found, binds]
    | false =>
      rw [if_neg Bool.false_ne_true]
      congr 1
      funext recording
      simp [DealtQueue.record, DealtQueue.found, binds]

def OnState (state : ConfigurationState) (event : Performed) : Prop :=
  event.operation.isPassive = true ∨ event.channel = state.channel

theorem configureQueue_onState (broker : Broker) (params : MulticastParams) (handler : TopologyHandler)
    (advances : Bool) (states : List ConfigurationState) (queue : String) (position : ℕ) (setup : Setup) :
    (configureQueue broker params handler (afterQueue handler advances) states (queue, position)).ends
      (fun _ after => ∃ events, after.world.performed = setup.world.performed ++ events ∧
        ∀ state, states[position % states.length]? = some state → ∀ event ∈ events, OnState state event)
      (fun _ _ => True) setup := by
  have onState : Arranging broker
      (fun event => ∀ state, states[position % states.length]? = some state → OnState state event)
      (configureQueue broker params handler (afterQueue handler advances) states (queue, position)) setup := by
    apply arranging_configureQueue
    intro state found
    have allows : ∀ {event : Performed}, OnState state event →
        ∀ other, states[position % states.length]? = some other → OnState other event := by
      intro event on other again
      rw [found, Option.some.injEq] at again
      exact again ▸ on
    exact ⟨fun _ _ => allows (.inl rfl), fun _ => allows (.inr rfl), fun _ _ _ => allows (.inr rfl)⟩
  apply ends_mono onState _ fun _ _ _ => trivial
  rintro _ after ⟨performs, _⟩
  obtain ⟨events, performed, on⟩ := performs.performed
  exact ⟨events, performed, fun state found event member => on event member state found⟩

theorem configureQueue_ends (broker : Broker) (params : MulticastParams) (handler : TopologyHandler)
    (advances : Bool) (start position : ℕ) (states : List ConfigurationState) (queue : String) (setup : Setup)
    (here : setup.index = indexAt handler advances start position) :
    (configureQueue broker params handler (afterQueue handler advances) states (queue, position)).ends
      (fun next after => ∃ state dealt, states[position % states.length]? = some state ∧
        dealt.requested = queue ∧ Declares broker params setup.world.performed dealt ∧
        BindsAt params handler setup.index dealt ∧
        QueueDealt params state.topologyRecording dealt setup after ∧
        after.index = indexAt handler advances start (position + 1) ∧
        next = states.modify (position % states.length) (ConfigurationState.addQueue dealt.name))
      (fun _ _ => True) setup := by
  unfold configureQueue
  split
  · rename_i state found
    rw [ends_bind]
    apply ends_mono (declareQueue_ends broker params state queue setup) _ fun _ _ => id
    rintro qName declared ⟨check, declaration, declares, first⟩
    rw [ends_bind]
    apply ends_mono (bindQueue_ends broker params handler state
      ⟨queue, qName, "", check, declaration, []⟩ declared) _ fun _ _ => id
    rintro _ bound ⟨routingKey, binding, binds, second⟩
    rw [first.index] at binds
    have reached := first.bound second
    rw [ends_bind]
    have indexed : bound.index = indexAt handler advances start position :=
      (second.index.trans first.index).trans here
    apply ends_mono (afterQueue_ends handler advances start position bound indexed) _ fun _ _ => id
    rintro _ _ rfl
    refine ⟨state, ⟨queue, qName, routingKey, check, declaration, binding⟩, found, rfl,
      ⟨declares.checks, declares.answers, declares.declares⟩, ⟨binds.bound, binds.unbound, binds.routingKey⟩,
      ⟨⟨reached.closed, reached.consumers⟩, reached.performed, reached.found, reached.missing,
        reached.children⟩, rfl, rfl⟩
  · trivial

structure Holds (params : MulticastParams) (count turn : ℕ) (dealt : List DealtQueue) (world : World)
    (recording : TopologyRecording) : Prop where
  bindings : ∀ binding, binding ∈ recording.bindings ↔ bindsQueues params = true ∧
    ∃ queue, DealtTo count turn dealt queue ∧ binding = queue.bound params
  queues : ∀ name, name ∈ recording.queues ↔
    ∃ queue, DealtTo count turn dealt queue ∧ queue.found = false ∧ queue.name = name
  records : ∀ name record, recording.queues.lookup name = some record → record < world.recordCount ∧
    ∃ queue, DealtTo count turn dealt queue ∧ queue.found = false ∧ queue.name = name ∧
      world.records record = queue.recorded params

theorem record_exchanges (params : MulticastParams) (reference : QueueRef) (dealt : DealtQueue)
    (recording : TopologyRecording) : (dealt.record params reference recording).exchanges = recording.exchanges := by
  unfold DealtQueue.record
  split <;> split <;> rfl

theorem record_bindings (params : MulticastParams) (reference : QueueRef) (dealt : DealtQueue)
    (recording : TopologyRecording) : (dealt.record params reference recording).bindings =
      if bindsQueues params then recording.bindings ++ [dealt.bound params] else recording.bindings := by
  unfold DealtQueue.record
  split <;> split <;> rfl

theorem record_queues (params : MulticastParams) (reference : QueueRef) (dealt : DealtQueue)
    (recording : TopologyRecording) : (dealt.record params reference recording).queues =
      if dealt.found then recording.queues else recording.queues.putIfAbsent dealt.name reference := by
  unfold DealtQueue.record
  split <;> split <;> rfl

section

variable {params : MulticastParams} {count turn : ℕ} {dealt : List DealtQueue} {last : DealtQueue}
  {setup after : Setup} {position : ℕ} {recording : TopologyRecording}

theorem QueueDealt.record_kept (step : QueueDealt params position last setup after) {record : QueueRef}
    (earlier : record < setup.world.recordCount) :
    record < after.world.recordCount ∧ after.world.records record = setup.world.records record := by
  cases found : last.found with
  | true =>
    obtain ⟨records, recordCount⟩ := step.found found
    exact ⟨by rwa [recordCount], by rw [records]⟩
  | false =>
    obtain ⟨records, recordCount⟩ := step.missing found
    refine ⟨by rw [recordCount]; exact Nat.lt_succ_of_lt earlier, ?_⟩
    rw [records, Function.update_of_ne (Nat.ne_of_lt earlier)]

theorem Holds.other (holds : Holds params count turn dealt setup.world recording)
    (step : QueueDealt params position last setup after) (other : dealt.length % count ≠ turn) :
    Holds params count turn (dealt ++ [last]) after.world recording := by
  have same : ∀ queue, DealtTo count turn (dealt ++ [last]) queue ↔ DealtTo count turn dealt queue := by
    intro queue
    rw [dealtTo_concat, or_iff_left]
    exact fun ⟨_, turns⟩ => other turns
  refine ⟨fun binding => ?_, fun name => ?_, fun name record found => ?_⟩
  · simp only [same, holds.bindings]
  · simp only [same, holds.queues]
  · obtain ⟨earlier, queue, dealtTo, missing, named, recorded⟩ := holds.records name record found
    obtain ⟨still, kept⟩ := step.record_kept earlier
    exact ⟨still, queue, (same queue).mpr dealtTo, missing, named, kept.trans recorded⟩

theorem Holds.record (holds : Holds params count turn dealt setup.world recording)
    (step : QueueDealt params position last setup after) (here : dealt.length % count = turn) :
    Holds params count turn (dealt ++ [last]) after.world
      (last.record params setup.world.recordCount recording) := by
  have grown : ∀ queue, DealtTo count turn (dealt ++ [last]) queue ↔
      DealtTo count turn dealt queue ∨ queue = last := by
    intro queue
    rw [dealtTo_concat, and_iff_left here]
  refine ⟨fun binding => ?_, fun name => ?_, fun name record => ?_⟩
  · rw [record_bindings]
    cases binds : bindsQueues params with
    | true =>
      simp only [if_true, List.mem_append, List.mem_singleton, holds.bindings, binds, true_and, grown, or_and_right,
        exists_or, exists_eq_left]
    | false => simp [holds.bindings, binds]
  · rw [record_queues]
    cases found : last.found with
    | true => simp [grown, holds.queues, or_and_right, exists_or, found]
    | false =>
      simp only [Bool.false_eq_true, if_false, mem_putIfAbsent, holds.queues, grown, or_and_right, exists_or,
        exists_eq_left, found, true_and]
      rw [or_comm, eq_comm]
  · rw [record_queues]
    cases found : last.found with
    | true =>
      intro present
      obtain ⟨earlier, queue, dealtTo, missing, named, recorded⟩ := holds.records name record present
      obtain ⟨still, kept⟩ := step.record_kept earlier
      exact ⟨still, queue, (grown queue).mpr (.inl dealtTo), missing, named, kept.trans recorded⟩
    | false =>
      intro present
      rcases lookup_putIfAbsent present with before | ⟨rfl, rfl⟩
      · obtain ⟨earlier, queue, dealtTo, missing, named, recorded⟩ := holds.records name record before
        obtain ⟨still, kept⟩ := step.record_kept earlier
        exact ⟨still, queue, (grown queue).mpr (.inl dealtTo), missing, named, kept.trans recorded⟩
      · obtain ⟨records, recordCount⟩ := step.missing found
        refine ⟨by rw [recordCount]; exact Nat.lt_succ_self _, last, (grown last).mpr (.inr rfl), found, rfl, ?_⟩
        rw [records, Function.update_self]

end

structure Dealing (broker : Broker) (params : MulticastParams) (handler : TopologyHandler) (advances : Bool)
    (setup : Setup) (count : ℕ) (declared : Bool) (head : List Performed) (dealt : List DealtQueue)
    (recordingOf : ℕ → TopologyRecording) (after : Setup) : Prop extends Unmoved setup after where
  performed : after.world.performed = setup.world.performed ++ head ++ dealt.flatMap DealtQueue.events
  index : after.index = indexAt handler advances setup.index dealt.length
  declares : ∀ position queue, dealt[position]? = some queue → Declares broker params
    (setup.world.performed ++ head ++ (dealt.take position).flatMap DealtQueue.events) queue
  binds : ∀ position queue, dealt[position]? = some queue →
    BindsAt params handler (indexAt handler advances setup.index position) queue
  children : ∀ turn < count, after.topologyRecording.children[
    setup.topologyRecording.children.length + turn]? = some (recordingOf turn)
  holds : ∀ turn < count, Holds params count turn dealt after.world (recordingOf turn)
  exchanges : ∀ turn < count, (recordingOf turn).exchanges =
    if turn = 0 ∧ declared = true then
      NameMap.putIfAbsent ∅ params.exchangeName ⟨params.exchangeName, params.exchangeType⟩
    else ∅
  apart : ∀ turn < count, ∀ other < count, ∀ name otherName record,
    (recordingOf turn).queues.lookup name = some record →
    (recordingOf other).queues.lookup otherName = some record → turn = other ∧ name = otherName

section

variable {broker : Broker} {params : MulticastParams} {handler : TopologyHandler} {advances : Bool}
  {setup middle after : Setup} {count : ℕ} {declared : Bool} {head : List Performed} {dealt : List DealtQueue}
  {last : DealtQueue} {recordingOf : ℕ → TopologyRecording}

def dealtRecording (params : MulticastParams) (reference : QueueRef) (turn : ℕ) (last : DealtQueue)
    (recordingOf : ℕ → TopologyRecording) : ℕ → TopologyRecording :=
  Function.update recordingOf turn (last.record params reference (recordingOf turn))

theorem Dealing.apart_next (dealing : Dealing broker params handler advances setup count declared head dealt
      recordingOf middle) (turn : ℕ) (below : turn < count) :
    ∀ one < count, ∀ other < count, ∀ name otherName record,
      (dealtRecording params middle.world.recordCount turn last recordingOf one).queues.lookup name = some record →
      (dealtRecording params middle.world.recordCount turn last recordingOf other).queues.lookup otherName =
        some record → one = other ∧ name = otherName := by
  -- a record is an old one of the same recording, or the new one
  have cases_of : ∀ one < count, ∀ name record,
      (dealtRecording params middle.world.recordCount turn last recordingOf one).queues.lookup name = some record →
      (recordingOf one).queues.lookup name = some record ∨
        one = turn ∧ name = last.name ∧ record = middle.world.recordCount := by
    intro one _ name record present
    unfold dealtRecording at present
    by_cases here : one = turn
    · subst here
      rw [Function.update_self, record_queues] at present
      split at present
      · exact .inl present
      · exact (lookup_putIfAbsent present).imp id fun ⟨named, new⟩ => ⟨rfl, named, new⟩
    · rw [Function.update_of_ne here] at present
      exact .inl present
  have old : ∀ one < count, ∀ name, (recordingOf one).queues.lookup name ≠ some middle.world.recordCount := by
    intro one less name present
    exact absurd ((dealing.holds one less).records name _ present).1 (Nat.lt_irrefl _)
  intro one oneLess other otherLess name otherName record first second
  rcases cases_of one oneLess name record first with before | ⟨rfl, rfl, rfl⟩
  · rcases cases_of other otherLess otherName record second with too | ⟨rfl, rfl, rfl⟩
    · exact dealing.apart one oneLess other otherLess name otherName record before too
    · exact absurd before (old one oneLess name)
  · rcases cases_of other otherLess otherName _ second with too | ⟨rfl, rfl, _⟩
    · exact absurd too (old other otherLess otherName)
    · exact ⟨rfl, rfl⟩

theorem Dealing.next (dealing : Dealing broker params handler advances setup count declared head dealt
      recordingOf middle) (several : 0 < count)
    (declares : Declares broker params middle.world.performed last)
    (binds : BindsAt params handler middle.index last)
    (step : QueueDealt params (setup.topologyRecording.children.length + dealt.length % count) last middle after)
    (index : after.index = indexAt handler advances setup.index (dealt.length + 1)) :
    Dealing broker params handler advances setup count declared head (dealt ++ [last])
      (dealtRecording params middle.world.recordCount (dealt.length % count) last recordingOf) after := by
  have below : dealt.length % count < count := Nat.mod_lt _ several
  refine ⟨⟨step.closed.trans dealing.closed, step.consumers.trans dealing.consumers⟩, ?_, ?_, ?_, ?_, ?_, ?_, ?_, ?_⟩
  · rw [step.performed, dealing.performed, List.flatMap_append, List.flatMap_singleton]
    simp only [List.append_assoc]
  · rw [index, List.length_append, List.length_singleton]
  · intro position queue found
    rcases getElem?_concat_iff.mp found with before | ⟨rfl, rfl⟩
    · have earlier : position < dealt.length := (List.getElem?_eq_some_iff.mp before).1
      rw [List.take_append_of_le_length (Nat.le_of_lt earlier)]
      exact dealing.declares position queue before
    · rw [List.take_left, ← dealing.performed]
      exact declares
  · intro position queue found
    rcases getElem?_concat_iff.mp found with before | ⟨rfl, rfl⟩
    · exact dealing.binds position queue before
    · rw [← dealing.index]
      exact binds
  · intro turn less
    rw [step.children, dealtRecording]
    by_cases here : turn = dealt.length % count
    · subst here
      rw [List.getElem?_modify_eq, dealing.children _ less, Function.update_self]
      rfl
    · rw [List.getElem?_modify_ne _ _ (by omega), dealing.children turn less, Function.update_of_ne here]
  · intro turn less
    unfold dealtRecording
    by_cases here : turn = dealt.length % count
    · subst here
      rw [Function.update_self]
      exact (dealing.holds _ less).record step rfl
    · rw [Function.update_of_ne here]
      exact (dealing.holds turn less).other step (Ne.symm here)
  · intro turn less
    rw [← dealing.exchanges turn less]
    unfold dealtRecording
    by_cases here : turn = dealt.length % count
    · subst here
      rw [Function.update_self, record_exchanges]
    · rw [Function.update_of_ne here]
  · exact dealing.apart_next _ below

structure StatesFor (setup : Setup) (connections : List Connection) (states : List ConfigurationState) : Prop where
  length : states.length = connections.length
  at_turn : ∀ turn state, states[turn]? = some state → connections[turn]? = some state.connection ∧
    state.topologyRecording = setup.topologyRecording.children.length + turn

theorem statesFor_opened (setup : Setup) (connections : List Connection) : StatesFor setup connections
    (openedStates setup.world.channelCount setup.topologyRecording.children.length connections) := by
  refine ⟨openedStates_length _ _ connections, fun turn state found => ?_⟩
  rw [openedStates_getElem?] at found
  obtain ⟨connection, at_turn, rfl⟩ := Option.map_eq_some_iff.mp found
  exact ⟨at_turn, rfl⟩

theorem StatesFor.addQueue {connections : List Connection} {states : List ConfigurationState}
    (statesFor : StatesFor setup connections states) (position : ℕ) (qName : String) :
    StatesFor setup connections (states.modify position (ConfigurationState.addQueue qName)) := by
  refine ⟨by rw [List.length_modify, statesFor.length], fun turn state found => ?_⟩
  rw [List.getElem?_modify] at found
  obtain ⟨original, before, rfl⟩ := Option.map_eq_some_iff.mp found
  have same := statesFor.at_turn turn original before
  split
  · exact same
  · exact same

structure HandedOut (params : MulticastParams) (setup : Setup) (connections : List Connection)
    (states : List ConfigurationState) (dealt : List DealtQueue) (recordingOf : ℕ → TopologyRecording) : Prop where
  channels : ∀ turn (state : ConfigurationState), states[turn]? = some state → ∃ connection,
    connections[turn]? = some connection ∧ state.channel = ⟨connection, setup.world.channelCount + turn⟩
  names : ∀ turn (state : ConfigurationState), states[turn]? = some state →
    state.generatedQueueNames = hand connections.length turn (dealt.map DealtQueue.name)
  bindings : ∀ turn < connections.length, (recordingOf turn).bindings =
    if bindsQueues params then (hand connections.length turn dealt).map (DealtQueue.bound params) else []
  performed : ∀ position (queue : DealtQueue), dealt[position]? = some queue → ∀ event ∈ queue.events,
    event.operation.isPassive = true ∨ ∃ connection, connections[position % connections.length]? = some connection ∧
      event.channel = ⟨connection, setup.world.channelCount + position % connections.length⟩

theorem handedOut_opened (params : MulticastParams) (setup : Setup) (connections : List Connection)
    (recordingOf : ℕ → TopologyRecording) (empty : ∀ turn, (recordingOf turn).bindings = []) :
    HandedOut params setup connections
      (openedStates setup.world.channelCount setup.topologyRecording.children.length connections) [] recordingOf := by
  have opened : ∀ turn (state : ConfigurationState), (openedStates setup.world.channelCount
      setup.topologyRecording.children.length connections)[turn]? = some state →
      ∃ connection, connections[turn]? = some connection ∧
        state.channel = ⟨connection, setup.world.channelCount + turn⟩ ∧ state.generatedQueueNames = [] := by
    intro turn state found
    rw [openedStates_getElem?] at found
    obtain ⟨connection, at_turn, rfl⟩ := Option.map_eq_some_iff.mp found
    exact ⟨connection, at_turn, rfl, rfl⟩
  refine ⟨fun turn state found => ?_, fun turn state found => ?_, fun turn _ => ?_, fun position queue found => ?_⟩
  · obtain ⟨connection, at_turn, channel, _⟩ := opened turn state found
    exact ⟨connection, at_turn, channel⟩
  · obtain ⟨_, _, _, names⟩ := opened turn state found
    exact names
  · rw [empty]
    split
    · rfl
    · rfl
  · cases found

theorem HandedOut.next {connections : List Connection} {states : List ConfigurationState} {state : ConfigurationState}
    (handed : HandedOut params setup connections states dealt recordingOf) (reference : QueueRef)
    (length : states.length = connections.length) (found : states[dealt.length % states.length]? = some state)
    (on : ∀ event ∈ last.events, OnState state event) :
    HandedOut params setup connections
      (states.modify (dealt.length % states.length) (ConfigurationState.addQueue last.name)) (dealt ++ [last])
      (dealtRecording params reference (dealt.length % connections.length) last recordingOf) := by
  rw [length] at found ⊢
  have modified : ∀ turn next, (states.modify (dealt.length % connections.length)
      (ConfigurationState.addQueue last.name))[turn]? = some next → ∃ before, states[turn]? = some before ∧
        next = if dealt.length % connections.length = turn then before.addQueue last.name else before := by
    intro turn next present
    rw [List.getElem?_modify] at present
    obtain ⟨before, there, rfl⟩ := Option.map_eq_some_iff.mp present
    refine ⟨before, there, ?_⟩
    split <;> rfl
  refine ⟨fun turn next present => ?_, fun turn next present => ?_, fun turn less => ?_,
    fun position queue at_position => ?_⟩
  · obtain ⟨before, there, rfl⟩ := modified turn next present
    have channel := handed.channels turn before there
    split
    · exact channel
    · exact channel
  · obtain ⟨before, there, rfl⟩ := modified turn next present
    rw [List.map_append, List.map_singleton, hand_concat, List.length_map]
    split
    · rw [← handed.names turn before there]
      rfl
    · rw [← handed.names turn before there, List.append_nil]
  · unfold dealtRecording
    rw [hand_concat]
    by_cases here : turn = dealt.length % connections.length
    · subst here
      rw [Function.update_self, record_bindings, handed.bindings _ less, if_pos rfl, List.map_append]
      split
      · rfl
      · rfl
    · rw [Function.update_of_ne here, if_neg (Ne.symm here), List.append_nil]
      exact handed.bindings turn less
  · rcases getElem?_concat_iff.mp at_position with before | ⟨rfl, rfl⟩
    · exact handed.performed position queue before
    · intro event member
      obtain ⟨connection, there, channel⟩ := handed.channels _ state found
      exact (on event member).imp id fun same => ⟨connection, there, same.trans channel⟩

theorem dealQueues_ends {connections : List Connection} {states : List ConfigurationState} (queues : List String)
    (statesFor : StatesFor setup connections states)
    (handed : HandedOut params setup connections states dealt recordingOf)
    (dealing : Dealing broker params handler advances setup connections.length declared head dealt recordingOf middle) :
    ((queues.zipIdx dealt.length).foldlM
      (configureQueue broker params handler (afterQueue handler advances)) states).ends
      (fun last after => ∃ more recordingOf, more.map DealtQueue.requested = queues ∧
        StatesFor setup connections last ∧
        HandedOut params setup connections last (dealt ++ more) recordingOf ∧
        Dealing broker params handler advances setup connections.length declared head (dealt ++ more) recordingOf
          after)
      (fun _ _ => True) middle := by
  induction queues generalizing dealt recordingOf states middle with
  | nil =>
    refine ⟨[], recordingOf, rfl, statesFor, ?_⟩
    rw [List.append_nil]
    exact ⟨handed, dealing⟩
  | cons queue queues ih =>
    rw [List.zipIdx_cons, List.foldlM_cons, ends_bind]
    have configured := configureQueue_ends broker params handler advances setup.index dealt.length states queue middle
      dealing.index
    have onState := configureQueue_onState broker params handler advances states queue dealt.length middle
    apply ends_mono (ends_and configured onState) _ fun _ _ _ => trivial
    rintro _ after ⟨⟨state, last, found, rfl, declares, binds, step, index, rfl⟩, events, performed, on⟩
    rw [step.performed, List.append_cancel_left_eq] at performed
    subst performed
    have handedNext := handed.next middle.world.recordCount statesFor.length found (on state found)
    have several : 0 < connections.length := by
      rw [← statesFor.length]
      exact Nat.lt_of_le_of_lt (Nat.zero_le _) (List.getElem?_eq_some_iff.mp found).1
    rw [(statesFor.at_turn _ state found).2, statesFor.length] at step
    have next := dealing.next several declares binds step index
    have rest := ih (statesFor.addQueue (dealt.length % states.length) last.name) handedNext next
    rw [List.length_append, List.length_singleton] at rest
    apply ends_mono rest _ fun _ _ => id
    rintro final _ ⟨more, recordingOf, rfl, statesFor, handed, dealing⟩
    refine ⟨last :: more, recordingOf, rfl, statesFor, ?_⟩
    rw [List.append_cons]
    exact ⟨handed, dealing⟩

/-- Before the first queue, only the exchange is recorded, and only for the first connection. -/
theorem ExchangeDeclared.dealing (broker : Broker) (handler : TopologyHandler) (advances : Bool)
    {check declaration : List Performed}
    (step : ExchangeDeclared params setup.topologyRecording.children.length check declaration
      (setup.opened count) after) :
    Dealing broker params handler advances setup count (!exchangeFound params check) (check ++ declaration) []
      (fun turn => if turn = 0 ∧ (!exchangeFound params check) = true then
        setup.topologyRecording.child.recordExchange params.exchangeName params.exchangeType
        else setup.topologyRecording.child) after := by
  have none : ∀ turn queue, ¬ DealtTo count turn [] queue := by
    rintro turn queue ⟨position, found, _⟩
    cases found
  have empty : ∀ turn, (if turn = 0 ∧ (!exchangeFound params check) = true then
      setup.topologyRecording.child.recordExchange params.exchangeName params.exchangeType
      else setup.topologyRecording.child).queues = ∅ ∧ (if turn = 0 ∧ (!exchangeFound params check) = true then
      setup.topologyRecording.child.recordExchange params.exchangeName params.exchangeType
      else setup.topologyRecording.child).bindings = [] := by
    intro turn
    split
    · exact ⟨rfl, rfl⟩
    · exact ⟨rfl, rfl⟩
  refine ⟨⟨step.closed, step.consumers⟩, ?_, ?_, ?_, ?_, ?_, ?_, ?_, ?_⟩
  · rw [step.performed, List.flatMap_nil, List.append_nil, List.append_assoc]
    rfl
  · rw [step.index, List.length_nil]
    cases handler with
    | fixedQueues routingKey queueNames => rfl
    | sequence queues routingKey => cases advances <;> rfl
  · intro position queue found
    cases found
  · intro position queue found
    cases found
  · intro turn less
    have opened : (setup.opened count).topologyRecording.children[
        setup.topologyRecording.children.length + turn]? = some setup.topologyRecording.child := by
      rw [Setup.opened, List.getElem?_append_right (Nat.le_add_right _ _), Nat.add_sub_cancel_left,
        List.getElem?_replicate, if_pos less]
    rw [step.children]
    cases found : exchangeFound params check with
    | true => rw [if_pos rfl, opened]; simp
    | false =>
      rw [if_neg Bool.false_ne_true, List.getElem?_modify, opened]
      cases turn with
      | zero => simp
      | succ turn => simp
  · intro turn less
    obtain ⟨queues, bindings⟩ := empty turn
    refine ⟨fun binding => ?_, fun name => ?_, fun name record found => ?_⟩
    · rw [bindings]
      simp [none]
    · rw [queues]
      simp [none]
    · rw [queues] at found
      cases found
  · intro turn less
    split
    · rfl
    · rfl
  · intro turn less other otherLess name otherName record found
    rw [(empty turn).1] at found
    cases found

structure Dealt (broker : Broker) (params : MulticastParams) (handler : TopologyHandler) (advances : Bool)
    (setup : Setup) (connections : List Connection) (queues : List String) (check declaration : List Performed)
    (dealt : List DealtQueue) (recordingOf : ℕ → TopologyRecording) (results : List TopologyHandlerResult)
    (after : Setup) : Prop where
  connected : 0 < connections.length
  opened : opensEach broker setup.world connections = true
  exchange : DeclaresExchange broker params setup.world.performed check declaration
  requested : dealt.map DealtQueue.requested = queuesToConfigure params queues
  dealing : Dealing broker params handler advances setup connections.length (!exchangeFound params check)
    (check ++ declaration) dealt recordingOf after
  length : results.length = connections.length
  results : ∀ turn result, results[turn]? = some result → connections[turn]? = some result.connection ∧
    result.topologyRecording = setup.topologyRecording.children.length + turn

theorem configureQueues_over (broker : Broker) (params : MulticastParams) (handler : TopologyHandler)
    (advances : Bool) (connections : List Connection) (queues : List String) (setup : Setup) :
    (configureQueues broker params handler connections queues (afterQueue handler advances)).ends
      (fun results after => ∃ check declaration dealt recordingOf states,
        Dealt broker params handler advances setup connections queues check declaration dealt recordingOf results
          after ∧
        HandedOut params setup connections states dealt recordingOf ∧ results = states.map ConfigurationState.result)
      (fun _ _ => True) setup := by
  rw [configureQueues, ends_bind]
  apply ends_mono (openStates_ends broker connections [] setup) _ fun _ _ _ => trivial
  rintro _ _ ⟨opens, rfl, rfl⟩
  rw [List.nil_append]
  cases connections with
  | nil => trivial
  | cons connection connections =>
    have statesFor := statesFor_opened setup (connection :: connections)
    have begin := fun recordingOf => handedOut_opened params setup (connection :: connections) recordingOf
    rw [openedStates] at statesFor begin ⊢
    rw [configureStates, ends_bind]
    apply ends_mono (declareExchange_ends broker params _ _) _ fun _ _ => id
    rintro _ declared ⟨check, declaration, exchange, step⟩
    have start := step.dealing broker handler advances
    rw [ends_bind]
    have dealt := fun empty => dealQueues_ends (queuesToConfigure params queues) statesFor (begin _ empty) start
    apply ends_mono (dealt fun turn => by split <;> rfl) _ fun _ _ => id
    rintro states after ⟨dealt, recordingOf, requested, statesFor, handed, dealing⟩
    refine ⟨check, declaration, dealt, recordingOf, states,
      ⟨Nat.succ_pos _, opens, exchange, requested, dealing, ?_, ?_⟩, handed, rfl⟩
    · rw [List.length_map, statesFor.length]
    · intro turn result found
      rw [List.getElem?_map] at found
      obtain ⟨state, before, rfl⟩ := Option.map_eq_some_iff.mp found
      exact statesFor.at_turn turn state before

theorem configureQueues_ends (broker : Broker) (params : MulticastParams) (handler : TopologyHandler)
    (advances : Bool) (connections : List Connection) (queues : List String) (setup : Setup) :
    (configureQueues broker params handler connections queues (afterQueue handler advances)).ends
      (fun results after => ∃ check declaration dealt recordingOf, Dealt broker params handler advances setup
        connections queues check declaration dealt recordingOf results after)
      (fun _ _ => True) setup := by
  apply ends_mono (configureQueues_over broker params handler advances connections queues setup) _ fun _ _ => id
  rintro _ _ ⟨check, declaration, dealt, recordingOf, _, all, _⟩
  exact ⟨check, declaration, dealt, recordingOf, all⟩

end

end PerfTestProof
