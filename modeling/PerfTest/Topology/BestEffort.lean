import PerfTest.Topology.QueueCalls

namespace PerfTestProof

open Systems Program PerfTestModel TopologyRecording

variable {broker : Broker} {polling : Bool} {world : World} {channel : Channel} {connection : Connection}

def attempts (queue : RecordedQueue) (event : Performed) : Bool :=
  event.operation = redeclaration queue ∨
    event.operation = .queueDeclarePassive queue.name ∧ event.failed = false

def exchangeDeclaration (exchange : RecordedExchange) : BrokerOperation :=
  .exchangeDeclare exchange.name exchange.type true

def rebinding (recording : TopologyRecording) (records : QueueRef → RecordedQueue)
    (binding : RecordedBinding) : BrokerOperation :=
  bindingTo (recording.recoveredName records binding.queue) binding

structure AttemptedOnce (queue : RecordedQueue) (events : List Performed) : Prop where
  once : events.countP (attempts queue) = 1
  others : ∀ event ∈ events, attempts queue event = false →
    event.operation = .queueDeclarePassive queue.name ∧ event.failed = true ∨
      event.operation = .queueDelete queue.name

theorem attempts_redeclaration {queue : RecordedQueue} {event : Performed}
    (operation : event.operation = redeclaration queue) : attempts queue event = true := by
  simp [attempts, operation]

theorem attempts_check {queue : RecordedQueue} {event : Performed}
    (operation : event.operation = .queueDeclarePassive queue.name) :
    attempts queue event = !event.failed := by
  simp [attempts, operation, redeclaration]

theorem Redeclares.attempted_once {queue : RecordedQueue} {earlier check declaration : List Performed}
    {name : String} (redeclares : Redeclares broker queue earlier check declaration name)
    (checks : check.map Performed.operation =
      if isChecked queue then [.queueDeclarePassive queue.name] else []) :
    AttemptedOnce queue (check ++ declaration) := by
  cases checked : isChecked queue with
  | false =>
    rw [checked] at checks
    obtain rfl : check = [] := List.map_eq_nil_iff.mp checks
    cases redeclares with
    | around passed => cases passed
    | again event missing operation reply =>
      have attempt := attempts_redeclaration operation
      exact ⟨by simp [attempt], by simp [attempt]⟩
  | true =>
    rw [checked] at checks
    obtain ⟨first, rfl, passive⟩ : ∃ first, check = [first] ∧
        first.operation = .queueDeclarePassive queue.name := List.map_eq_singleton_iff.mp checks
    have attempt := attempts_check passive
    cases redeclares with
    | around passed =>
      have fine : first.failed = false := by simpa using passed
      exact ⟨by simp [attempt, fine], by simp [attempt, fine]⟩
    | again event missing operation reply =>
      have failed : first.failed = true := by simpa using missing
      have second := attempts_redeclaration operation
      exact ⟨by simp [attempt, failed, second], by simp [attempt, failed, second, passive]⟩

theorem Recovers.attempted_once {queue : RecordedQueue} {earlier : List Performed} {turn : QueueTurn}
    {name : String} (recovers : Recovers broker polling queue earlier turn name) :
    AttemptedOnce queue turn.events := by
  have attempted := recovers.redeclares.attempted_once recovers.checks
  have deletions : ∀ event ∈ turn.deletion, event.operation = .queueDelete queue.name := by
    intro event member
    have operation : event.operation ∈ turn.deletion.map Performed.operation :=
      List.mem_map_of_mem member
    rw [recovers.deletes] at operation
    split at operation
    · exact List.mem_singleton.mp operation
    · cases operation
  have none : turn.deletion.countP (attempts queue) = 0 := by
    refine List.countP_eq_zero.mpr fun event member => ?_
    simp [attempts, redeclaration, deletions event member]
  refine ⟨?_, fun event member not => ?_⟩
  · rw [QueueTurn.events, List.countP_append, attempted.once, none]
  · rcases List.mem_append.mp member with before | deletion
    · exact attempted.others event before not
    · exact .inr (deletions event deletion)

def boundQueue : BrokerOperation → Option String
  | .queueBind queue _ _ => some queue
  | _ => none

theorem Completes.no_binding {call : QueueCall} {last : Channel} {turn : QueueTurn} {name : String}
    (completes : Completes broker polling call last turn name) {operation : BrokerOperation}
    (performed : operation ∈ (call.events broker polling).map Performed.operation) :
    boundQueue operation = none := by
  obtain ⟨event, held, rfl⟩ := List.mem_map.mp performed
  have attempted := completes.recovers.attempted_once
  rw [← completes.events] at attempted
  cases attempt : attempts call.queue event with
  | true =>
    simp only [attempts, decide_eq_true_eq] at attempt
    rcases attempt with operation | ⟨operation, _⟩ <;> rw [operation] <;> rfl
  | false =>
    rcases attempted.others event held attempt with ⟨operation, _⟩ | operation <;> rw [operation] <;> rfl

def Answered (broker : Broker) (earlier events : List Performed) : Prop :=
  ∀ first event rest, events = first ++ event :: rest →
    event.reply = broker.reply (earlier ++ first) event.operation

theorem Answered.nil {earlier : List Performed} : Answered broker earlier [] := by
  intro first event rest split
  cases first <;> cases split

theorem Answered.concat {earlier events : List Performed} {event : Performed}
    (answered : Answered broker earlier events)
    (reply : event.reply = broker.reply (earlier ++ events) event.operation) :
    Answered broker earlier (events ++ [event]) := by
  intro first other rest split
  rcases List.eq_nil_or_concat' rest with rfl | ⟨more, last, rfl⟩
  · obtain ⟨rfl, same⟩ := List.append_inj' split rfl
    rw [← (List.cons.inj same).1]
    exact reply
  · rw [← List.cons_append, ← List.append_assoc] at split
    exact answered first other more (List.append_inj' split rfl).1

theorem recoverExchange_ends (opens : broker.AlwaysOpens) (linked : channel.connection = connection)
    (live : connection ∉ world.closed) (exchange : RecordedExchange) :
    (recoverExchange broker connection channel exchange).ends
      (fun last after => ∃ event : Performed, event.operation = exchangeDeclaration exchange ∧
        event.reply = broker.reply world.performed event.operation ∧
        after.records = world.records ∧ Issues world channel [event] after last)
      (fun _ _ => False) world := by
  subst linked
  refine ends_mono (reliableWrite_ends opens live (exchangeDeclaration exchange)) ?_ fun _ _ => id
  rintro last after ⟨event, operation, reply, unchanged, issues⟩
  exact ⟨event, operation, by rw [reply, operation], unchanged, issues⟩

theorem recoverBinding_ends (opens : broker.AlwaysOpens) (linked : channel.connection = connection)
    (live : connection ∉ world.closed) (recording : TopologyRecording) (binding : RecordedBinding) :
    (recoverBinding broker recording connection channel binding).ends
      (fun last after => ∃ event : Performed,
        event.operation = rebinding recording world.records binding ∧
        event.reply = broker.reply world.performed event.operation ∧
        after.records = world.records ∧ Issues world channel [event] after last)
      (fun _ _ => False) world := by
  subst linked
  simp only [recoverBinding, ends_bind, ends_get]
  refine ends_mono (reliableWrite_ends opens live (rebinding recording world.records binding)) ?_
    fun _ _ => id
  rintro last after ⟨event, operation, reply, unchanged, issues⟩
  exact ⟨event, operation, by rw [reply, operation], unchanged, issues⟩

/-- A loop in which each round performs one operation and leaves the records alone. -/
theorem writes_ends {Item : Type} {body : Channel → Item → Call Channel}
    (operation : Item → BrokerOperation) (linked : channel.connection = connection)
    (live : connection ∉ world.closed)
    (writes : ∀ (item : Item) (before : World) (first : Channel), before.records = world.records →
      first.connection = connection → connection ∉ before.closed →
      (body first item).ends (fun last after => ∃ event : Performed, event.operation = operation item ∧
        event.reply = broker.reply before.performed event.operation ∧
        after.records = before.records ∧ Issues before first [event] after last)
        (fun _ _ => False) before)
    (items : List Item) :
    (items.foldlM body channel).ends
      (fun last after => ∃ events : List Performed,
        events.map Performed.operation = items.map operation ∧ Answered broker world.performed events ∧
        after.records = world.records ∧ Issues world channel events after last)
      (fun _ _ => False) world := by
  refine ends_foldlM (fun done last after => ∃ events : List Performed,
    events.map Performed.operation = done.map operation ∧ Answered broker world.performed events ∧
    after.records = world.records ∧ Issues world channel events after last) ?_ ⟨[], rfl, .nil, rfl, .refl _ _⟩ items
  rintro done item next middle ⟨events, operations, answered, unchanged, issues⟩
  refine ends_mono (writes item middle next unchanged (issues.connection.trans linked)
    (by rwa [issues.closed])) ?_ fun _ _ => id
  rintro last after ⟨event, performed, reply, kept, more⟩
  rw [issues.performed] at reply
  refine ⟨events ++ [event], ?_, answered.concat reply, kept.trans unchanged, issues.trans more⟩
  rw [List.map_append, List.map_append, operations, List.map_singleton, performed, List.map_singleton]

theorem recoverExchanges_ends (opens : broker.AlwaysOpens) (linked : channel.connection = connection)
    (live : connection ∉ world.closed) (exchanges : List RecordedExchange) :
    (exchanges.foldlM (recoverExchange broker connection) channel).ends
      (fun last after => ∃ events : List Performed,
        events.map Performed.operation = exchanges.map exchangeDeclaration ∧
        Answered broker world.performed events ∧ after.records = world.records ∧
        Issues world channel events after last)
      (fun _ _ => False) world := by
  apply writes_ends exchangeDeclaration linked live
  intro exchange before first _ linked live
  exact recoverExchange_ends opens linked live exchange

theorem recoverBindings_ends (opens : broker.AlwaysOpens) (linked : channel.connection = connection)
    (live : connection ∉ world.closed) (recording : TopologyRecording) (bindings : List RecordedBinding) :
    (bindings.foldlM (recoverBinding broker recording connection) channel).ends
      (fun last after => ∃ events : List Performed,
        events.map Performed.operation = bindings.map (rebinding recording world.records) ∧
        Answered broker world.performed events ∧ after.records = world.records ∧
        Issues world channel events after last)
      (fun _ _ => False) world := by
  apply writes_ends (rebinding recording world.records) linked live
  intro binding before first same linked live
  rw [← same]
  exact recoverBinding_ends opens linked live recording binding

structure RecoversAll (broker : Broker) (recording : TopologyRecording) (connection : Connection)
    (world after : World) (exchanges bindings : List Performed) : Prop where
  performed : after.performed = world.performed ++
    ((RecoveryCall.recover.queueCalls broker recording connection world).flatMap
      (QueueCall.events broker recording.polling) ++ exchanges ++ bindings)
  inOrder : (RecoveryCall.recover.queueCalls broker recording connection world).map QueueCall.record =
    recording.queues.values
  queues : ∀ call ∈ RecoveryCall.recover.queueCalls broker recording connection world,
    AttemptedOnce call.queue (call.events broker recording.polling)
  declared : exchanges.map Performed.operation = recording.exchanges.values.map exchangeDeclaration
  bound : bindings.map Performed.operation = recording.bindings.map (rebinding recording after.records)
  fresh : ((RecoveryCall.recover.queueCalls broker recording connection world).flatMap
    (QueueCall.events broker recording.polling) ++ exchanges ++ bindings).Pairwise
      fun (earlier later : Performed) => earlier.failed = true → later.channel ≠ earlier.channel

theorem recover_ends (recording : TopologyRecording) (opens : broker.AlwaysOpens)
    (live : connection ∉ world.closed) :
    (recording.recover broker connection).ends
      (fun _ after =>
        (∃ exchanges bindings, RecoversAll broker recording connection world after exchanges bindings) ∨
        after.performed = world.performed ++
          (RecoveryCall.recover.queueCalls broker recording connection world).flatMap
            (QueueCall.events broker recording.polling) ∧
        ∃ earlier queue, broker.reply earlier (.queueDeclarePassive queue) = .failed .runtimeException)
      (fun _ _ => False) world := by
  have calls : RecoveryCall.recover.queueCalls broker recording connection world =
      queueCalls broker recording.polling ⟨connection, world.channelCount⟩ recording.queues.values
        world.opened := by
    rw [RecoveryCall.queueCalls, createChannel_ran opens live]
  unfold recover
  rw [ends_tryCatch, ends_bind, ends_of_return (createChannel_ran opens live), ends_bind]
  refine ends_mono (queueCalls_ends opens recording.polling recording.queues.values live) ?_ ?_
  · rintro channel queued ⟨inOrder, complete, first⟩
    rw [ends_bind]
    refine ends_mono (recoverExchanges_ends opens first.connection (by rwa [first.closed])
      recording.exchanges.values) ?_ fun _ _ => False.elim
    rintro next declared ⟨exchanges, operations, _, kept, second⟩
    rw [ends_bind]
    refine ends_mono (recoverBindings_ends opens (second.connection.trans first.connection)
      (by rwa [second.closed, first.closed]) recording recording.bindings) ?_ fun _ _ => False.elim
    rintro last after ⟨bindings, bound, _, unchanged, third⟩
    have issued := (first.trans second).trans third
    refine .inl ⟨exchanges, bindings, ?_, ?_, ?_, operations, ?_, ?_⟩
    · rw [calls, issued.performed]; rfl
    · rw [calls, inOrder]
    · intro call member
      rw [calls] at member
      obtain ⟨_, turn, _, completes⟩ := complete call member
      rw [completes.events]
      exact completes.recovers.attempted_once
    · rw [bound, unchanged]
    · rw [calls]
      refine issued.threaded.failed_not_reused (fun _ _ same => (Channel.mk.inj same).2) ?_
      exact ⟨world.channelCount, Nat.lt_succ_self _, rfl⟩
  · rintro failure after ⟨performed, unchecked⟩
    exact .inr ⟨by rw [calls]; exact performed, unchecked⟩

/-- Recovery attempts each recorded queue once, then declares each recorded exchange once, then binds
    each recorded binding once, and issues nothing on a channel on which an operation has failed. -/
theorem recover_best_effort (recording : TopologyRecording) (opens : broker.AlwaysOpens)
    (checks : broker.ChecksQueues) (live : connection ∉ world.closed) :
    ∃ exchanges bindings, RecoversAll broker recording connection world
      (recording.recover broker connection world).2 exchanges bindings := by
  rcases ends_cases (recover_ends recording opens live) with
    ⟨_, after, ran, recovers | ⟨_, earlier, queue, unchecked⟩⟩ | ⟨_, _, _, impossible⟩
  · rwa [ran]
  · exact absurd unchecked (checks earlier queue)
  · exact impossible.elim

def polledRecording : TopologyRecording :=
  (((empty true false).recordExchange "orders" "direct").recordQueue "amq.gen-1" 0).recordBinding
    "amq.gen-1" "orders" "amq.gen-1"

def worldOf (queue : RecordedQueue) : World := ⟨fun _ => queue, 1, [], 0, []⟩

def generatedQueue : RecordedQueue := ⟨"amq.gen-1", false, false, true, [], true⟩

def unsteadyBroker : Broker :=
  ⟨fun performed _ => if performed.length % 2 = 0 then .ok "amq.gen-2" else .failed .ioException,
    fun _ _ => true⟩

theorem recover_best_effort_unsteady : ∃ exchanges bindings,
    RecoversAll unsteadyBroker polledRecording 0 (worldOf generatedQueue)
      (polledRecording.recover unsteadyBroker 0 (worldOf generatedQueue)).2 exchanges bindings := by
  refine recover_best_effort polledRecording (fun _ _ => rfl) (fun performed queue => ?_) List.not_mem_nil
  change (if _ then _ else _) ≠ _
  split <;> decide

end PerfTestProof
