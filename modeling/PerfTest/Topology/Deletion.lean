import PerfTest.Topology.ConsumerRecovery

namespace PerfTestProof

open Systems Program PerfTestModel TopologyRecording

variable {broker : Broker} {polling : Bool} {world : World} {connection : Connection}

def deletedQueue : BrokerOperation → Option String
  | .queueDelete queue => some queue
  | _ => none

def deletedQueues (events : List Performed) : List String :=
  (events.map Performed.operation).filterMap deletedQueue

theorem deletedQueues_append (first second : List Performed) :
    deletedQueues (first ++ second) = deletedQueues first ++ deletedQueues second := by
  rw [deletedQueues, List.map_append, List.filterMap_append]
  rfl

theorem deletedQueues_flatMap {Item : Type} (events : Item → List Performed) (items : List Item) :
    deletedQueues (items.flatMap events) = items.flatMap fun item => deletedQueues (events item) := by
  induction items with
  | nil => rfl
  | cons item items ih => rw [List.flatMap_cons, List.flatMap_cons, deletedQueues_append, ih]

theorem deletedQueues_map {Item : Type} (operation : Item → BrokerOperation) {items : List Item}
    {events : List Performed} (operations : events.map Performed.operation <+: items.map operation)
    (none : ∀ item, deletedQueue (operation item) = none) : deletedQueues events = [] := by
  refine List.filterMap_eq_nil_iff.mpr fun performed member => ?_
  obtain ⟨item, _, rfl⟩ := List.mem_map.mp (operations.subset member)
  exact none item

/-- The call only asks to delete a former server-named queue, whose record has another name when the
    call ends. -/
def DeletesFormerOnly (broker : Broker) (polling : Bool) (call : QueueCall) : Prop :=
  ∀ queue ∈ deletedQueues (call.events broker polling),
    call.queue.serverNamed = true ∧ queue = call.queue.name ∧
      queue ≠ ((call.after broker polling).records call.record).name

instance (broker : Broker) (polling : Bool) (call : QueueCall) :
    Decidable (DeletesFormerOnly broker polling call) :=
  List.decidableBAll _ _

/-- When the former queue is to be deleted, the broker has accepted the new one, under another name. -/
def ReplacesFormer (broker : Broker) (polling : Bool) (call : QueueCall) : Prop :=
  isFormerDeleted polling call.queue = true →
    ∃ generatedName, generatedName ≠ call.queue.name ∧
      broker.reply call.world.performed (redeclaration call.queue) = .ok generatedName

theorem Redeclares.deletedQueues {queue : RecordedQueue} {earlier check declaration : List Performed}
    {name : String} (redeclares : Redeclares broker queue earlier check declaration name) :
    deletedQueues declaration = [] := by
  cases redeclares with
  | around passed => rfl
  | again event missing operation reply =>
    rw [PerfTestProof.deletedQueues, List.map_singleton, operation]
    rfl

theorem Completes.deletedQueues {call : QueueCall} {last : Channel} {turn : QueueTurn} {name : String}
    (completes : Completes broker polling call last turn name) :
    deletedQueues (call.events broker polling) =
      if isFormerDeleted polling call.queue then [call.queue.name] else [] := by
  have checks : PerfTestProof.deletedQueues turn.check = [] := by
    rw [PerfTestProof.deletedQueues, completes.recovers.checks]
    split <;> rfl
  rw [completes.events, QueueTurn.events, deletedQueues_append, deletedQueues_append, checks,
    completes.recovers.redeclares.deletedQueues, PerfTestProof.deletedQueues, completes.recovers.deletes]
  split <;> rfl

theorem former_unchecked {queue : RecordedQueue} (former : isFormerDeleted polling queue = true) :
    isChecked queue = false ∧ queue.serverNamed = true := by
  simp only [isFormerDeleted, Bool.and_eq_true] at former
  exact ⟨by simp [isChecked, former.1.1.2], former.1.2⟩

theorem Redeclares.name_unchecked {queue : RecordedQueue} {earlier declaration : List Performed}
    {name : String} (redeclares : Redeclares broker queue earlier [] declaration name) :
    name = nameAfter queue (broker.reply earlier (redeclaration queue)) := by
  cases redeclares with
  | around passed => cases passed
  | again event missing operation reply => rw [reply, List.append_nil]

/-- A queue that is not checked is declared again, and what it is called afterwards depends on the
    answer. -/
theorem Completes.name_unchecked {call : QueueCall} {last : Channel} {turn : QueueTurn} {name : String}
    (completes : Completes broker polling call last turn name) (unchecked : isChecked call.queue = false) :
    name = nameAfter call.queue (broker.reply call.world.performed (redeclaration call.queue)) := by
  have checks := completes.recovers.checks
  rw [unchecked] at checks
  have redeclares := completes.recovers.redeclares
  rw [List.map_eq_nil_iff.mp checks] at redeclares
  exact redeclares.name_unchecked

theorem deletesFormerOnly_iff (opens : broker.AlwaysOpens) {call : QueueCall}
    (live : call.channel.connection ∉ call.world.closed) :
    DeletesFormerOnly broker polling call ↔ ReplacesFormer broker polling call := by
  rcases queueCall_outcome opens polling call live with ⟨last, turn, name, completes⟩ | ⟨failure, aborts⟩
  · rw [DeletesFormerOnly, ReplacesFormer, completes.deletedQueues, completes.records,
      Function.update_self]
    cases former : isFormerDeleted polling call.queue with
    | false => simp
    | true =>
      obtain ⟨unchecked, serverNamed⟩ := former_unchecked former
      rw [completes.name_unchecked unchecked]
      cases broker.reply call.world.performed (redeclaration call.queue) with
      | ok generatedName =>
        simp [nameAfter, requestedName, serverNamed, declaredQueue, eq_comm]
      | failed failure => simp [nameAfter]
  · have former : isFormerDeleted polling call.queue ≠ true := by
      intro former
      have checked := aborts.checked
      rw [(former_unchecked former).1] at checked
      cases checked
    rw [DeletesFormerOnly, aborts.events]
    exact iff_of_true (fun queue member => absurd member List.not_mem_nil) fun deleted => absurd deleted former

theorem recoveryCall_live {recording : TopologyRecording} (opens : broker.AlwaysOpens)
    (live : connection ∉ world.closed) (recovery : RecoveryCall) :
    ∀ call ∈ recovery.queueCalls broker recording connection world,
      call.channel.connection ∉ call.world.closed := by
  intro call member
  rw [RecoveryCall.queueCalls, createChannel_ran opens live] at member
  rcases recovery with _ | _ | record
  · exact PerfTestProof.queueCalls_live opens _ (by exact live) call member
  · cases member
  · rw [List.mem_singleton.mp member]
    exact live

/-- Every deletion that a recovery asks for is asked for in one of its calls of `recoverQueue`, and
    such a call spares the queue in use exactly when the broker has accepted another one in its place,
    or nothing is to be deleted. -/
theorem deletes_former_only (recording : TopologyRecording) (opens : broker.AlwaysOpens)
    (live : connection ∉ world.closed) (recovery : RecoveryCall) :
    deletedQueues ((recovery.execute broker recording connection world).2.performed.drop
        world.performed.length) =
      (recovery.queueCalls broker recording connection world).flatMap (fun call =>
        deletedQueues (call.events broker recording.polling)) ∧
    ∀ call ∈ recovery.queueCalls broker recording connection world,
      DeletesFormerOnly broker recording.polling call ↔ ReplacesFormer broker recording.polling call := by
  refine ⟨?_, fun call member => deletesFormerOnly_iff opens (recoveryCall_live opens live recovery call member)⟩
  cases recovery with
  | recover =>
    rcases ends_cases (recover_ends recording opens live) with
      ⟨_, after, ran, ⟨exchanges, bindings, all⟩ | ⟨performed, _⟩⟩ | ⟨_, _, _, impossible⟩
    · have declared : deletedQueues exchanges = [] :=
        deletedQueues_map exchangeDeclaration ⟨[], (List.append_nil _).trans all.declared⟩ fun _ => rfl
      have bound : deletedQueues bindings = [] :=
        deletedQueues_map (rebinding recording after.records) ⟨[], (List.append_nil _).trans all.bound⟩
          fun _ => rfl
      rw [RecoveryCall.execute, ran, all.performed, List.drop_left, deletedQueues_append,
        deletedQueues_append, deletedQueues_flatMap, declared, bound, List.append_nil, List.append_nil]
    · rw [RecoveryCall.execute, ran, performed, List.drop_left, deletedQueues_flatMap]
    · exact impossible.elim
  | recoverQueueAndBindings queueRecord =>
    cases queueRecord with
    | none =>
      rcases ends_cases (recoverNoQueue_ends recording opens live) with
        ⟨_, after, ran, rfl⟩ | ⟨_, _, _, impossible⟩
      · rw [RecoveryCall.execute, ran, RecoveryCall.queueCalls, createChannel_ran opens live]
        exact congrArg deletedQueues List.drop_length
      · exact impossible.elim
    | some record =>
      have calls : (RecoveryCall.recoverQueueAndBindings (some record)).queueCalls broker recording
          connection world = [⟨⟨connection, world.channelCount⟩, record, world.opened⟩] := by
        rw [RecoveryCall.queueCalls, createChannel_ran opens live]
      rcases ends_cases (recoverQueueAndBindings_ends recording opens live
        ⟨⟨connection, world.channelCount⟩, record, world.opened⟩ rfl) with
        ⟨_, after, ran, ⟨bindings, recovers⟩ | ⟨performed, _⟩⟩ | ⟨_, _, _, impossible⟩
      · rw [RecoveryCall.execute, ran, recovers.performed, calls, List.drop_left, deletedQueues_append,
          deletedQueues_map _ recovers.bound (fun binding => rfl), List.append_nil, List.flatMap_singleton]
      · rw [RecoveryCall.execute, ran, performed, calls, List.drop_left, List.flatMap_singleton]
      · exact impossible.elim

def brokerAnswering (answer : Reply) : Broker :=
  ⟨fun _ operation =>
    match operation with
    | .queueDeclare .. => answer
    | _ => .ok "",
    fun _ _ => true⟩

def renamingBroker : Broker := brokerAnswering (.ok "amq.gen-2")

def generatedQueueCall : QueueCall := ⟨⟨0, 0⟩, 0, (worldOf generatedQueue).opened⟩

theorem deletes_former_only_renamed :
    deletedQueues ((polledRecording.recover renamingBroker 0 (worldOf generatedQueue)).2.performed.drop 0) =
      ["amq.gen-1"] ∧
    DeletesFormerOnly renamingBroker true generatedQueueCall := by
  have opens : renamingBroker.AlwaysOpens := fun _ _ => rfl
  have live : (0 : Connection) ∉ (worldOf generatedQueue).closed := List.not_mem_nil
  obtain ⟨deleted, spared⟩ := deletes_former_only polledRecording opens live .recover
  have replaced : ReplacesFormer renamingBroker true generatedQueueCall :=
    fun _ => ⟨"amq.gen-2", by decide, rfl⟩
  exact ⟨deleted.trans (by decide), (spared generatedQueueCall List.mem_cons_self).mpr replaced⟩

/-- The broker refuses to declare the queue, which is then deleted under the name that it keeps. -/
theorem queue_in_use_deleted :
    ¬ ∀ (broker : Broker) (recording : TopologyRecording) (connection : Connection) (world : World)
      (recovery : RecoveryCall), broker.AlwaysOpens → connection ∉ world.closed →
      ∀ call ∈ recovery.queueCalls broker recording connection world,
        DeletesFormerOnly broker recording.polling call := by
  intro never
  have spared := never (brokerAnswering (.failed .ioException)) polledRecording 0 (worldOf generatedQueue)
    .recover (fun _ _ => rfl) List.not_mem_nil
  revert spared
  decide

end PerfTestProof
