import PerfTest.Topology.RecoverySteps

namespace PerfTestProof

open Systems Program PerfTestModel TopologyRecording

def renamedRecords (records : QueueRef → RecordedQueue) (record : QueueRef) (name : String) :
    QueueRef → RecordedQueue :=
  Function.update records record { records record with name }

theorem renamedRecords_same (records : QueueRef → RecordedQueue) (record : QueueRef) :
    renamedRecords records record (records record).name = records :=
  Function.update_eq_self record records

def Renames (record : QueueRef) (world after : World) : Prop :=
  ∃ name, after.records = renamedRecords world.records record name

theorem Renames.of_same {record : QueueRef} {world after : World} (same : after.records = world.records) :
    Renames record world after :=
  ⟨(world.records record).name, same.trans (renamedRecords_same _ _).symm⟩

instance (record : QueueRef) : IsPreorder World (Renames record) where
  refl _ := .of_same rfl
  trans := by
    rintro world middle after ⟨first, renamed⟩ ⟨second, again⟩
    refine ⟨second, ?_⟩
    rw [again, renamed, renamedRecords, renamedRecords, renamedRecords, Function.update_idem,
      Function.update_self]

def RenamesOnly {Value : Type} (record : QueueRef) (call : Call Value) : Prop :=
  ∀ world, call.follows (Renames record) (fun _ => True) (fun _ _ => True) world

namespace RenamesOnly

variable {Value Other : Type} {record : QueueRef} {call : Call Value}

theorem pure (value : Value) : RenamesOnly record (Pure.pure value : Call Value) := fun _ => follows_pure trivial

theorem bind {next : Value → Call Other} (first : RenamesOnly record call)
    (second : ∀ value, RenamesOnly record (next value)) : RenamesOnly record (call >>= next) :=
  fun world => follows_bind (first world) fun value middle _ _ => second value middle

theorem tryCatch {handler : Failure → Call Value} (first : RenamesOnly record call)
    (second : ∀ failure, RenamesOnly record (handler failure)) :
    RenamesOnly record (MonadExcept.tryCatch call handler) :=
  fun world => follows_tryCatch (first world) fun failure middle _ _ => second failure middle

theorem get : RenamesOnly record (MonadState.get : Call World) := fun world => ⟨refl_of _ world, trivial⟩

end RenamesOnly

section

variable {broker : Broker} {connection : Connection} {channel : Channel} {record : QueueRef}

theorem createChannel_renames : RenamesOnly record (createChannel broker connection) := by
  intro world
  have same : Renames record world world.opened := .of_same rfl
  simp only [follows, createChannel, ends_bind, ends_get, ends_set, ends_ite, ends_pure, ends_throw]
  split
  · exact ⟨same, trivial⟩
  · split <;> exact ⟨same, trivial⟩

theorem perform_renames {operation : BrokerOperation} :
    RenamesOnly record (perform broker operation channel) := by
  intro world
  rw [follows, perform_ends]
  split <;> exact ⟨.of_same rfl, trivial⟩

theorem readRecord_renames : RenamesOnly record (readRecord record) :=
  RenamesOnly.get.bind fun _ => .pure _

theorem queueBind_renames {queue exchange routingKey : String} :
    RenamesOnly record (queueBind broker queue exchange routingKey channel) :=
  perform_renames.bind fun _ => .pure ()

theorem redeclareQueue_renames : RenamesOnly record (redeclareQueue broker record channel) :=
  readRecord_renames.bind fun _ => (perform_renames.bind fun _ => .pure _).bind
    fun name _ => ⟨⟨name, rfl⟩, trivial⟩

theorem reliableWrite_renames {operation : Channel → Call Unit}
    (renames : RenamesOnly record (operation channel)) :
    RenamesOnly record (reliableWrite broker connection channel operation) :=
  (renames.bind fun _ => .pure channel).tryCatch fun _ => createChannel_renames

theorem checkQueue_renames {queue : RecordedQueue} : RenamesOnly record (checkQueue broker channel queue) := by
  unfold checkQueue
  split
  · refine (perform_renames.bind fun _ => .pure _).tryCatch fun failure => ?_
    split
    · exact createChannel_renames.bind fun _ => .pure _
    · exact fun _ => follows_throw trivial
  · exact .pure _

theorem redeclareIfNeeded_renames {redeclare : Bool} :
    RenamesOnly record (redeclareIfNeeded broker connection channel record redeclare) := by
  unfold redeclareIfNeeded
  split
  · exact reliableWrite_renames redeclareQueue_renames
  · exact .pure _

theorem deleteFormer_renames {polling : Bool} {queue : RecordedQueue} :
    RenamesOnly record (deleteFormer broker polling connection channel queue) := by
  unfold deleteFormer
  split
  · exact reliableWrite_renames (perform_renames.bind fun _ => .pure ())
  · exact .pure _

theorem recoverQueue_renames {polling : Bool} : RenamesOnly record (recoverQueue broker polling channel record) :=
  readRecord_renames.bind fun _ => checkQueue_renames.bind fun _ =>
    redeclareIfNeeded_renames.bind fun _ => deleteFormer_renames

theorem recoverQueueAndBindings_renames (recording : TopologyRecording) (broker : Broker)
    (connection : Connection) (record : QueueRef) :
    RenamesOnly record (recording.recoverQueueAndBindings broker connection (some record)) := by
  refine (createChannel_renames.bind fun _ => readRecord_renames.bind fun _ => recoverQueue_renames.bind
    fun _ => readRecord_renames.bind fun _ world => ?_).tryCatch fun _ => .pure ()
  exact follows_forM fun _ _ middle _ => queueBind_renames middle

end

end PerfTestProof
