import PerfTest.Consumer.Subscriptions
import PerfTest.Topology.RecordNames

namespace PerfTestProof

open Systems Program PerfTestModel TopologyRecording

/-- The name that is carried along for the next check or subscription. Where there is a record that is
    asked for the name in the end, none is. -/
def nameAt (recording : TopologyRecording) (records : QueueRef → RecordedQueue) (qName : String) :
    Stage → Option String
  | .cancelled | .recovering => none
  | .checking name | .subscribing name | .resubscription name _ | .resubscribing name => some name
  | .recreating name =>
    if (recording.queues.lookup qName).isNone || queueMayBeDown recording records qName then some name else none
  | .subscribingToRecord name => if (recording.queues.lookup qName).isNone then some name else none

def carriedName (recording : TopologyRecording) (records : QueueRef → RecordedQueue) (action : Action) :
    Option String :=
  nameAt recording records action.qName action.stage

def AsksByName (recording : TopologyRecording) (connection : Connection) (state : Subscriptions) : Prop :=
  ∀ event next, state.step recording connection event = some next →
    ∀ issue ∈ state.issued recording event,
      issue.queueName = queueName recording state.records issue.qName

def mayRename (recording : TopologyRecording) (state : Subscriptions) (record : QueueRef) (name : String) :
    Bool :=
  name == (state.records record).name ||
    state.actions.all fun action => recording.queues.lookup action.qName != some record ||
      (carriedName recording state.records action).isNone

/-- Queues are renamed while no action carries their names along, and the delayed action of a
    cancellation runs while the queue has the name that it had first. -/
def keepsNames (recording : TopologyRecording) (connection : Connection) (state : Subscriptions) :
    ConsumerEvent → Bool
  | .redeclared record generatedName =>
    mayRename recording state record (redeclaredRecords state.records record generatedName record).name
  | .advance index answer =>
    match state.actions[index]?, answer with
    | some action, .continues =>
      action.stage != .cancelled || queueName recording state.records action.qName == action.qName
    | some action, .recreated broker =>
      match recording.queues.lookup action.qName with
      | some record => mayRename recording state record
          (recreatedRecords recording connection broker state.records action.qName record).name
      | none => true
    | _, _ => true
  | _ => true

section

variable {recording : TopologyRecording} {connection : Connection} {records : QueueRef → RecordedQueue}
  {record : QueueRef} {name : String} {action : Action}

theorem queueMayBeDown_renamed (qName : String) :
    queueMayBeDown recording (renamedRecords records record name) qName =
      queueMayBeDown recording records qName := by
  unfold queueMayBeDown
  split
  · rename_i other _
    by_cases same : other = record
    · subst same
      rw [renamedRecords, Function.update_self]
      rfl
    · rw [renamedRecords, Function.update_of_ne same]
  · rfl

theorem carriedName_renamed :
    carriedName recording (renamedRecords records record name) action =
      carriedName recording records action := by
  unfold carriedName nameAt
  rw [queueMayBeDown_renamed]

theorem queueName_renamed {qName : String} (other : recording.queues.lookup qName ≠ some record) :
    queueName recording (renamedRecords records record name) qName = queueName recording records qName := by
  unfold queueName recoveredName
  split
  · rename_i held found
    have different : held ≠ record := fun same => other (same ▸ found)
    rw [renamedRecords, Function.update_of_ne different]
  · rfl

theorem recreatedRecords_none (broker : Broker) {qName : String}
    (unrecorded : recording.queues.lookup qName = none) :
    recreatedRecords recording connection broker records qName = records := by
  have same : (recording.recoverQueueAndBindings broker connection none).ends
      (fun _ after => after.records = records) (fun _ after => after.records = records)
      ⟨records, 0, [], 0, []⟩ := by
    simp only [recoverQueueAndBindings, createChannel, ends_tryCatch, ends_bind, ends_get, ends_set, ends_ite,
      ends_pure, ends_throw, List.not_mem_nil, if_false]
    split <;> rfl
  rw [recreatedRecords, unrecorded]
  exact after_of_ends same

theorem recreatedRecords_some (broker : Broker) {qName : String}
    (recorded : recording.queues.lookup qName = some record) :
    ∃ name, recreatedRecords recording connection broker records qName = renamedRecords records record name := by
  rw [recreatedRecords, recorded]
  have renames := recoverQueueAndBindings_renames recording broker connection record ⟨records, 0, [], 0, []⟩
  exact after_of_ends (ends_mono renames (fun _ _ => And.left) fun _ _ => And.left)

def CarriesNames (recording : TopologyRecording) (records : QueueRef → RecordedQueue)
    (actions : List Action) : Prop :=
  ∀ action ∈ actions, ∀ name ∈ carriedName recording records action,
    name = queueName recording records action.qName

theorem CarriesNames.renamed {state : Subscriptions} (may : mayRename recording state record name = true)
    (carries : CarriesNames recording state.records state.actions) :
    CarriesNames recording (renamedRecords state.records record name) state.actions := by
  intro action member other held
  rw [carriedName_renamed] at held
  rcases Bool.or_eq_true_iff.mp may with same | noticed
  · rw [eq_of_beq same, renamedRecords_same]
    exact carries action member other held
  · rw [carries action member other held, queueName_renamed]
    intro recorded
    have unnoticed := List.all_eq_true.mp noticed action member
    rw [recorded, held] at unnoticed
    simp at unnoticed

theorem CarriesNames.replace {actions successors : List Action} {index : ℕ}
    (carries : CarriesNames recording records actions) (next : CarriesNames recording records successors) :
    CarriesNames recording records (Systems.replace actions index successors) := fun action member =>
  (mem_replace member).elim (carries action) (next action)

theorem CarriesNames.append {actions more : List Action} (carries : CarriesNames recording records actions)
    (next : CarriesNames recording records more) : CarriesNames recording records (actions ++ more) :=
  fun action member => (List.mem_append.mp member).elim (carries action) (next action)

theorem ofEntries_carries (entries : List (String × String)) :
    CarriesNames recording records (Action.ofEntries entries) := by
  cases entries with
  | nil => exact List.forall_mem_nil _
  | cons entry rest => exact List.forall_mem_singleton.mpr nofun

theorem reaches_carries {later : Stage}
    (before : ∀ name ∈ carriedName recording records action, name = queueName recording records action.qName)
    (kept : ∀ name ∈ nameAt recording records action.qName later, name ∈ carriedName recording records action) :
    CarriesNames recording records [action.reaches later] :=
  List.forall_mem_singleton.mpr fun name carried => before name (kept name carried)

/-- A queue that is created again is renamed only if no action notices. -/
theorem CarriesNames.recreated {state : Subscriptions} {index : ℕ} {broker : Broker}
    (carries : CarriesNames recording state.records state.actions) (found : state.actions[index]? = some action)
    (keeps : keepsNames recording connection state (.advance index (.recreated broker)) = true) :
    CarriesNames recording (recreatedRecords recording connection broker state.records action.qName)
        state.actions ∧
      ∀ qName, queueMayBeDown recording
        (recreatedRecords recording connection broker state.records action.qName) qName =
          queueMayBeDown recording state.records qName := by
  cases recorded : recording.queues.lookup action.qName with
  | none =>
    rw [recreatedRecords_none broker recorded]
    exact ⟨carries, fun _ => rfl⟩
  | some record =>
    obtain ⟨name, renamed⟩ := recreatedRecords_some broker recorded
    have new : (recreatedRecords recording connection broker state.records action.qName record).name = name := by
      rw [renamed, renamedRecords, Function.update_self]
    simp only [keepsNames, found, recorded, new] at keeps
    rw [renamed]
    exact ⟨carries.renamed keeps, queueMayBeDown_renamed⟩

theorem CarriesNames.proceed {state : Subscriptions} {index : ℕ} {answer : Answer} {progress : Progress}
    (carries : CarriesNames recording state.records state.actions) (found : state.actions[index]? = some action)
    (keeps : keepsNames recording connection state (.advance index answer) = true)
    (proceeded : PerfTestModel.proceed recording connection state.records action action.stage answer =
      some progress) :
    CarriesNames recording progress.records (Systems.replace state.actions index progress.successors) := by
  have member := List.mem_of_getElem? found
  have before := carries action member
  unfold PerfTestModel.proceed at proceeded
  split at proceeded <;> cases proceeded
  case h_1 _ _ cancelled =>
    have first : queueName recording state.records action.qName = action.qName := by
      simpa [keepsNames, found, cancelled] using keeps
    refine carries.replace (List.forall_mem_singleton.mpr ?_)
    rintro _ ⟨⟩
    exact first.symm
  case h_2 =>
    refine carries.replace (List.forall_mem_singleton.mpr ?_)
    rintro _ ⟨⟩
    rfl
  case h_3 _ _ name checking =>
    refine carries.replace (reaches_carries before fun other => ?_)
    rw [carriedName, checking]
    split
    · exact id
    · simp only [nameAt, Option.mem_def, Option.ite_none_right_eq_some]
      exact And.right
  case h_4 _ _ name checking =>
    refine carries.replace (reaches_carries before fun other => ?_)
    simp only [carriedName, checking, nameAt, Option.mem_def, Option.ite_none_right_eq_some]
    exact And.right
  case h_5 _ _ name broker recreating =>
    obtain ⟨still, down⟩ := carries.recreated found keeps
    have after := still action member
    refine still.replace ?_
    simp only [carriedName, recreating, nameAt, down, Option.mem_def, Option.ite_none_right_eq_some,
      Bool.or_eq_true] at after
    dsimp only
    split
    · rename_i mayBeDown
      refine List.forall_mem_cons.mpr ⟨?_, ofEntries_carries _⟩
      rintro _ ⟨⟩
      exact after name ⟨.inr mayBeDown, rfl⟩
    · refine List.forall_mem_singleton.mpr fun other carried => after other ?_
      have unrecorded := Option.ite_none_right_eq_some.mp (show nameAt _ _ _ _ = some other from carried)
      exact ⟨.inl unrecorded.1, unrecorded.2⟩
  case h_6 _ _ name retryCount resubscription =>
    refine carries.replace (reaches_carries before fun other => ?_)
    rw [carriedName, resubscription]
    exact id
  case h_7 _ _ name retryCount resubscription =>
    unfold retry
    split
    · refine carries.replace (reaches_carries before fun other => ?_)
      rw [carriedName, resubscription]
      exact id
    · exact carries.replace nofun
  all_goals exact carries.replace (ofEntries_carries _)

theorem redeclaredRecords_renamed (record : QueueRef) (generatedName : String) :
    redeclaredRecords records record generatedName =
      renamedRecords records record (redeclaredRecords records record generatedName record).name := by
  rw [redeclaredRecords, renamedRecords, Function.update_self]

theorem CarriesNames.step {state next : Subscriptions} {event : ConsumerEvent}
    (carries : CarriesNames recording state.records state.actions)
    (keeps : keepsNames recording connection state event = true)
    (stepped : state.step recording connection event = some next) :
    CarriesNames recording next.records next.actions := by
  cases event with
  | handleCancel consumerTag =>
    simp only [Subscriptions.step] at stepped
    split at stepped <;> cases stepped
    refine carries.append ?_
    unfold cancelActions
    split
    · exact List.forall_mem_singleton.mpr nofun
    · exact List.forall_mem_nil _
  | reconnected =>
    cases stepped
    exact carries
  | recover =>
    simp only [Subscriptions.step] at stepped
    split at stepped <;> cases stepped
    exact carries.append (ofEntries_carries _)
  | redeclared record generatedName =>
    cases stepped
    rw [redeclaredRecords_renamed]
    exact carries.renamed keeps
  | advance index answer =>
    simp only [Subscriptions.step] at stepped
    split at stepped
    · cases stepped
    · rename_i action found
      obtain ⟨progress, proceeded, rfl⟩ := Option.map_eq_some_iff.mp stepped
      exact carries.proceed found keeps proceeded

/-- What an action asks for is under the name that it carries, or that of the record. -/
theorem issue_named {issue : Issue}
    (carries : ∀ name ∈ carriedName recording records action, name = queueName recording records action.qName)
    (issued : action.issue recording records = some issue) :
    issue.queueName = queueName recording records issue.qName := by
  rw [carriedName] at carries
  unfold Action.issue at issued
  split at issued
  case h_5 name subscribing =>
    rw [subscribing] at carries
    split at issued <;> cases issued
    · rename_i found
      simp only [queueName, recoveredName, found]
    · rename_i unrecorded
      exact carries name (by simp [nameAt, unrecorded])
  case h_6 | h_7 | h_8 => cases issued
  all_goals
    rename_i name stage
    rw [stage] at carries
    cases issued
    exact carries _ rfl

end

/-- Every path that subscribes again uses the current names of the queues, as long as queues are renamed
    only when no action notices. -/
theorem current_names_used (recording : TopologyRecording) (connection : Connection)
    (records : QueueRef → RecordedQueue) (consumerTagBranchMap : NameMap String) (events : List ConsumerEvent)
    (state : Subscriptions)
    (executed : run (restrict (keepsNames recording connection) (Subscriptions.step recording connection))
      (.start records consumerTagBranchMap) events = some state) : AsksByName recording connection state := by
  have carries : CarriesNames recording state.records state.actions := by
    have initial : CarriesNames recording records [] := List.forall_mem_nil _
    refine run_invariant (fun state => CarriesNames recording state.records state.actions) ?_ ?_ executed
    · intro state event next carries stepped
      obtain ⟨keeps, stepped⟩ := restrict_some.mp stepped
      exact carries.step keeps stepped
    · exact initial
  intro event next _ issue issued
  cases event with
  | advance index answer =>
    obtain ⟨action, found, issued⟩ := Option.bind_eq_some_iff.mp issued
    exact issue_named (carries action (List.mem_of_getElem? found)) issued
  | handleCancel | reconnected | recover | redeclared => cases issued

def generatedRecording : TopologyRecording :=
  (TopologyRecording.empty false false).recordQueue "amq.gen-1" 0

def generatedRecords : QueueRef → RecordedQueue := fun _ => ⟨"amq.gen-1", true, false, false, [], true⟩

def generatedTags : NameMap String := (∅ : NameMap String).insert "ctag-1" "amq.gen-1"

/-- The queue is renamed by a recovery, and then the consumer recovers with its new name. -/
theorem current_names_used_after_rename : ∃ state,
    run (restrict (keepsNames generatedRecording 0) (Subscriptions.step generatedRecording 0))
      (.start generatedRecords generatedTags)
      [.reconnected, .redeclared 0 "amq.gen-2", .recover, .advance 0 .continues] = some state ∧
    AsksByName generatedRecording 0 state := by
  obtain ⟨state, executed⟩ : ∃ state, run (restrict (keepsNames generatedRecording 0)
      (Subscriptions.step generatedRecording 0)) (.start generatedRecords generatedTags)
      [.reconnected, .redeclared 0 "amq.gen-2", .recover, .advance 0 .continues] = some state := ⟨_, rfl⟩
  exact ⟨state, executed, current_names_used generatedRecording 0 generatedRecords generatedTags _ state
    executed⟩

/-- After a recovery that renamed the queue, the delayed action of a cancellation checks the name that the
    queue had first. -/
theorem former_name_used :
    ¬ ∀ (recording : TopologyRecording) (connection : Connection) (records : QueueRef → RecordedQueue)
      (consumerTagBranchMap : NameMap String) (events : List ConsumerEvent) (state : Subscriptions),
      run (Subscriptions.step recording connection) (.start records consumerTagBranchMap) events = some state →
      AsksByName recording connection state := by
  intro current
  have executed : run (Subscriptions.step generatedRecording 0) (.start generatedRecords generatedTags)
      [.reconnected, .redeclared 0 "amq.gen-2", .recover,
        .advance 0 .continues, .advance 0 (.queueExists true), .advance 0 .subscribed,
        .handleCancel "ctag-1", .advance 0 .continues] =
      some ⟨redeclaredRecords generatedRecords 0 "amq.gen-2", generatedTags, [],
        [⟨"ctag-1", "amq.gen-1", .checking "amq.gen-1", []⟩], 0⟩ := rfl
  have same := current _ _ _ _ _ _ executed (.advance 0 (.queueExists false)) _ rfl
    ⟨"amq.gen-1", "amq.gen-1", none⟩ rfl
  exact absurd same (by decide)

end PerfTestProof
