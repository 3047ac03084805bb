import PerfTest.Topology.ConsumerRecovery

namespace PerfTestProof

open Systems Program PerfTestModel TopologyRecording

variable {broker : Broker} {recording : TopologyRecording} {world : World} {channel : Channel}
  {connection : Connection}

/-- The broker accepts the declarations and the bindings, and the names that it generates are not
    those of queues for which bindings are recorded. -/
structure Serves (broker : Broker) (recording : TopologyRecording) : Prop where
  opens : broker.AlwaysOpens
  checks : broker.ChecksQueues
  declares : ∀ earlier queue durable exclusive autoDelete arguments, ∃ generatedName,
    broker.reply earlier (.queueDeclare queue durable exclusive autoDelete arguments) = .ok generatedName ∧
      recording.getBindingsFor generatedName = []
  binds : ∀ earlier queue exchange routingKey, ∃ generatedName,
    broker.reply earlier (.queueBind queue exchange routingKey) = .ok generatedName

structure Keeps (recording : TopologyRecording) (world after : World) : Prop where
  names : ∀ record, (after.records record).name = (world.records record).name ∨
    recording.getBindingsFor (after.records record).name = []
  closed : after.closed = world.closed

theorem Keeps.of_records {after : World} (same : after.records = world.records)
    (closed : after.closed = world.closed) : Keeps recording world after :=
  ⟨fun record => .inl (by rw [same]), closed⟩

theorem Keeps.trans {middle after : World} (first : Keeps recording world middle)
    (second : Keeps recording middle after) : Keeps recording world after := by
  refine ⟨fun record => ?_, second.closed.trans first.closed⟩
  rcases second.names record with same | fresh
  · rw [same]
    exact first.names record
  · exact .inr fresh

theorem nameAfter_kept (serves : Serves broker recording) (queue : RecordedQueue) (earlier : List Performed) :
    nameAfter queue (broker.reply earlier (redeclaration queue)) = queue.name ∨
      recording.getBindingsFor (nameAfter queue (broker.reply earlier (redeclaration queue))) = [] := by
  obtain ⟨generatedName, answer, fresh⟩ := serves.declares earlier (requestedName queue) queue.durable
    queue.exclusive queue.autoDelete queue.arguments
  rw [redeclaration, answer, nameAfter, declaredQueue]
  split
  · exact .inr fresh
  · rename_i named
    refine .inl ?_
    unfold requestedName at named ⊢
    split at named
    · exact absurd rfl named
    · rename_i clientNamed
      rw [if_neg clientNamed]

theorem Redeclares.kept (serves : Serves broker recording) {queue : RecordedQueue}
    {earlier check declaration : List Performed} {name : String}
    (redeclares : Redeclares broker queue earlier check declaration name) :
    name = queue.name ∨ recording.getBindingsFor name = [] := by
  cases redeclares with
  | around passed => exact .inl rfl
  | again event missing operation reply =>
    rw [reply]
    exact nameAfter_kept serves _ _

theorem Completes.keeps (serves : Serves broker recording) {polling : Bool} {call : QueueCall}
    {last : Channel} {turn : QueueTurn} {name : String}
    (completes : Completes broker polling call last turn name) :
    Keeps recording call.world (call.after broker polling) := by
  refine ⟨fun other => ?_, completes.issues.closed⟩
  rw [completes.records]
  by_cases same : other = call.record
  · subst same
    rw [Function.update_self]
    exact completes.recovers.redeclares.kept serves
  · rw [Function.update_of_ne same]
    exact .inl rfl

theorem recoverQueue_keeps (serves : Serves broker recording) (live : channel.connection ∉ world.closed)
    (polling : Bool) (record : QueueRef) :
    (recoverQueue broker polling channel record).ends
      (fun last after => last.connection = channel.connection ∧ Keeps recording world after)
      (fun _ _ => False) world := by
  rcases queueCall_outcome serves.opens polling ⟨channel, record, world⟩ live with
    ⟨last, turn, name, completes⟩ | ⟨failure, aborts⟩
  · rw [ends_of_return completes.ran]
    exact ⟨completes.issues.connection, completes.keeps serves⟩
  · exact absurd aborts.answer (serves.checks _ _)

theorem Keeps.of_issues {events : List Performed} {after : World} {last : Channel}
    (same : after.records = world.records) (issues : Issues world channel events after last) :
    Keeps recording world after := .of_records same issues.closed

theorem recover_keeps (serves : Serves broker recording) (live : connection ∉ world.closed) :
    (recording.recover broker connection).ends (fun _ after => Keeps recording world after)
      (fun _ _ => False) world := by
  have queues : (recording.queues.values.foldlM (recoverQueue broker recording.polling)
      ⟨connection, world.channelCount⟩).ends
      (fun last after => last.connection = connection ∧ Keeps recording world after)
      (fun _ _ => False) world.opened := by
    refine ends_foldlM
      (fun _ (last : Channel) (after : World) => last.connection = connection ∧ Keeps recording world after) ?_ ?_
      recording.queues.values
    · rintro _ record next middle ⟨linked, kept⟩
      refine ends_mono (recoverQueue_keeps serves (by rwa [linked, kept.closed]) recording.polling record)
        ?_ fun _ _ => id
      exact fun last after more => ⟨more.1.trans linked, kept.trans more.2⟩
    · exact ⟨rfl, .of_records rfl rfl⟩
  unfold recover
  rw [ends_tryCatch, ends_bind, ends_of_return (createChannel_ran serves.opens live), ends_bind]
  refine ends_mono queues ?_ fun _ _ => False.elim
  rintro channel queued ⟨linked, kept⟩
  rw [ends_bind]
  refine ends_mono (recoverExchanges_ends serves.opens linked (by rwa [kept.closed])
    recording.exchanges.values) ?_ fun _ _ => False.elim
  rintro next declared ⟨exchanges, _, _, same, second⟩
  rw [ends_bind]
  refine ends_mono (recoverBindings_ends serves.opens (second.connection.trans linked)
    (by rwa [second.closed, kept.closed]) recording recording.bindings) ?_ fun _ _ => False.elim
  rintro last after ⟨bindings, _, _, unchanged, third⟩
  exact (kept.trans (.of_issues same second)).trans (.of_issues unchanged third)

theorem execute_keeps (serves : Serves broker recording) (live : connection ∉ world.closed)
    (recovery : RecoveryCall) :
    Keeps recording world (recovery.execute broker recording connection world).2 := by
  rcases recovery with _ | _ | record
  · rcases ends_cases (recover_keeps serves live) with ⟨_, after, ran, kept⟩ | ⟨_, _, _, impossible⟩
    · rwa [RecoveryCall.execute, ran]
    · exact impossible.elim
  · rcases ends_cases (recoverNoQueue_ends recording serves.opens live) with
      ⟨_, after, ran, rfl⟩ | ⟨_, _, _, impossible⟩
    · rw [RecoveryCall.execute, ran]
      exact .of_records rfl rfl
    · exact impossible.elim
  · rcases ends_cases (recoverQueueAndBindings_ends recording serves.opens live
      ⟨⟨connection, world.channelCount⟩, record, world.opened⟩ rfl) with
      ⟨_, after, ran, ⟨bindings, recovers⟩ | ⟨_, earlier, queue, unchecked⟩⟩ | ⟨_, _, _, impossible⟩
    · obtain ⟨last, turn, name, completes⟩ := recovers.completes
      rw [RecoveryCall.execute, ran]
      have kept := completes.keeps serves
      refine ⟨fun other => ?_, recovers.closed⟩
      rw [recovers.records]
      exact kept.names other
    · exact absurd unchecked (serves.checks earlier queue)
    · exact impossible.elim

def afterRecoveries (broker : Broker) (recording : TopologyRecording) (world : World)
    (recoveries : List (Connection × RecoveryCall)) : World :=
  recoveries.foldl (fun world recovery => (recovery.2.execute broker recording recovery.1 world).2) world

theorem afterRecoveries_keeps (serves : Serves broker recording)
    (recoveries : List (Connection × RecoveryCall))
    (live : ∀ recovery ∈ recoveries, recovery.1 ∉ world.closed) :
    Keeps recording world (afterRecoveries broker recording world recoveries) := by
  induction recoveries generalizing world with
  | nil => exact .of_records rfl rfl
  | cons recovery recoveries ih =>
    have first := execute_keeps serves (live recovery List.mem_cons_self) recovery.2
    refine first.trans (ih fun later member => ?_)
    rw [first.closed]
    exact live later (List.mem_cons_of_mem _ member)

def Rebinds (broker : Broker) (recording : TopologyRecording) (connection : Connection) (world : World)
    (recovery : RecoveryCall) (queue : String) (record : QueueRef) : Prop :=
  ∀ binding ∈ recording.getBindingsFor queue,
    bindingTo (((recovery.execute broker recording connection world).2.records record).name) binding ∈
      ((recovery.execute broker recording connection world).2.performed.drop
        world.performed.length).map Performed.operation

instance (broker : Broker) (recording : TopologyRecording) (connection : Connection) (world : World)
    (recovery : RecoveryCall) (queue : String) (record : QueueRef) :
    Decidable (Rebinds broker recording connection world recovery queue record) :=
  List.decidableBAll _ _

theorem recover_rebinds (serves : Serves broker recording) (live : connection ∉ world.closed)
    {queue : String} {record : QueueRef} (recorded : recording.queues.lookup queue = some record) :
    Rebinds broker recording connection world .recover queue record := by
  obtain ⟨exchanges, bindings, all⟩ := recover_best_effort recording serves.opens serves.checks live
  intro binding member
  obtain ⟨held, same⟩ := List.mem_filter.mp member
  rw [RecoveryCall.execute, all.performed, List.drop_left, List.map_append, all.bound]
  refine List.mem_append_right _ (List.mem_map.mpr ⟨binding, held, ?_⟩)
  rw [rebinding, recoveredName, beq_iff_eq.mp same, recorded]

/-- The queue's own recovery binds it again exactly when its bindings are found under the name that
    it has at the start. -/
theorem queue_rebinds_iff (serves : Serves broker recording) (live : connection ∉ world.closed)
    {queue : String} {record : QueueRef}
    (named : (world.records record).name = queue ∨
      recording.getBindingsFor (world.records record).name = []) :
    Rebinds broker recording connection world (.recoverQueueAndBindings (some record)) queue record ↔
      (world.records record).name = queue ∨ recording.getBindingsFor queue = [] := by
  rcases ends_cases (recoverQueueAndBindings_ends recording serves.opens live
    ⟨⟨connection, world.channelCount⟩, record, world.opened⟩ rfl) with
    ⟨_, after, ran, ⟨bindings, recovers⟩ | ⟨_, earlier, checked, unchecked⟩⟩ | ⟨_, _, _, impossible⟩
  · obtain ⟨last, turn, name, completes⟩ := recovers.completes
    have bound : bindings.map Performed.operation =
        (recording.getBindingsFor (world.records record).name).map
          (bindingTo (after.records record).name) := by
      rcases recovers.complete with bound | ⟨earlier, queue, exchange, routingKey, failure, refused⟩
      · exact bound
      · obtain ⟨_, accepted⟩ := serves.binds earlier queue exchange routingKey
        rw [accepted] at refused
        cases refused
    rw [Rebinds, RecoveryCall.execute, ran, recovers.performed, List.drop_left, List.map_append, bound]
    constructor
    · intro rebinds
      rcases named with same | fresh
      · exact .inl same
      · refine .inr (List.eq_nil_iff_forall_not_mem.mpr fun binding member => ?_)
        have performed := rebinds binding member
        rw [fresh, List.map_nil, List.append_nil] at performed
        cases completes.no_binding performed
    · rintro (same | none) binding member
      · rw [same]
        exact List.mem_append_right _ (List.mem_map_of_mem member)
      · rw [none] at member
        cases member
  · exact absurd unchecked (serves.checks earlier checked)
  · exact impossible.elim

/-- After any recoveries, `recover` binds every recorded queue again, and the recovery of one queue
    does so exactly while the queue has the name under which it was recorded, or has no binding. -/
theorem rebinds_iff (serves : Serves broker recording)
    (recorded : ∀ queue record, recording.queues.lookup queue = some record →
      (world.records record).name = queue)
    (recoveries : List (Connection × RecoveryCall))
    (live : ∀ recovery ∈ recoveries, recovery.1 ∉ world.closed) (connected : connection ∉ world.closed)
    {queue : String} {record : QueueRef} (held : recording.queues.lookup queue = some record) :
    Rebinds broker recording connection (afterRecoveries broker recording world recoveries) .recover
      queue record ∧
    (Rebinds broker recording connection (afterRecoveries broker recording world recoveries)
        (.recoverQueueAndBindings (some record)) queue record ↔
      ((afterRecoveries broker recording world recoveries).records record).name = queue ∨
        recording.getBindingsFor queue = []) := by
  have kept := afterRecoveries_keeps serves recoveries live
  rw [← kept.closed] at connected
  refine ⟨recover_rebinds serves connected held, queue_rebinds_iff serves connected ?_⟩
  have names := kept.names record
  rwa [recorded queue record held] at names

def freshBroker : Broker :=
  ⟨fun performed operation =>
    match operation with
    | .queueDeclare .. => .ok (if performed.length < 2 then "amq.gen-2" else "amq.gen-3")
    | _ => .ok "",
    fun _ _ => true⟩

theorem freshBroker_serves : Serves freshBroker polledRecording := by
  refine ⟨fun _ _ => rfl, fun _ _ => nofun, fun earlier _ _ _ _ _ => ⟨_, rfl, ?_⟩, fun _ _ _ _ => ⟨_, rfl⟩⟩
  split <;> decide

def recordedWorld : World := worldOf generatedQueue

theorem polledRecording_recorded (queue : String) (record : QueueRef)
    (held : polledRecording.queues.lookup queue = some record) :
    (recordedWorld.records record).name = queue := by
  by_contra other
  have absent : polledRecording.queues.lookup queue = none :=
    AList.lookup_insert_ne fun same => other same.symm
  rw [absent] at held
  cases held

def renamedWorld : World := afterRecoveries freshBroker polledRecording recordedWorld [(0, .recover)]

theorem rebinds_after_rename :
    (renamedWorld.records 0).name = "amq.gen-2" ∧
    Rebinds freshBroker polledRecording 0 renamedWorld .recover "amq.gen-1" 0 ∧
    ¬ Rebinds freshBroker polledRecording 0 renamedWorld (.recoverQueueAndBindings (some 0)) "amq.gen-1" 0 := by
  obtain ⟨all, own⟩ := rebinds_iff freshBroker_serves polledRecording_recorded [(0, .recover)]
    (fun _ _ => List.not_mem_nil) (List.not_mem_nil : 0 ∉ recordedWorld.closed)
    (by decide : polledRecording.queues.lookup "amq.gen-1" = some 0)
  exact ⟨by decide, all, fun rebinds => absurd (own.mp rebinds) (by decide)⟩

/-- The bindings are not found after the queue was renamed once. -/
theorem bindings_lost_after_rename :
    ¬ ∀ (broker : Broker) (recording : TopologyRecording) (world : World) (connection : Connection)
      (recoveries : List (Connection × RecoveryCall)) (recovery : RecoveryCall) (queue : String)
      (record : QueueRef), Serves broker recording →
      (∀ queue record, recording.queues.lookup queue = some record →
        (world.records record).name = queue) →
      (∀ recovery ∈ recoveries, recovery.1 ∉ world.closed) → connection ∉ world.closed →
      recording.queues.lookup queue = some record →
      recovery = .recover ∨ recovery = .recoverQueueAndBindings (some record) →
      Rebinds broker recording connection (afterRecoveries broker recording world recoveries) recovery
        queue record := by
  intro always
  have rebinds := always freshBroker polledRecording recordedWorld 0 [(0, .recover)]
    (.recoverQueueAndBindings (some 0)) "amq.gen-1" 0 freshBroker_serves polledRecording_recorded
    (fun _ _ => List.not_mem_nil) List.not_mem_nil (by decide) (.inr rfl)
  revert rebinds
  decide

end PerfTestProof
