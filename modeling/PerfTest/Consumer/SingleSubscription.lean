import PerfTest.Consumer.Subscriptions

namespace PerfTestProof

open Systems PerfTestModel

def tagsOf (action : Action) : List String := action.consumerTag :: action.rest.map Prod.fst

def tags (state : Subscriptions) : List String := state.actions.flatMap tagsOf ++ state.live

def AsksOnce (recording : TopologyRecording) (connection : Connection) (state : Subscriptions) : Prop :=
  ∀ event next, state.step recording connection event = some next →
    ∀ issue ∈ state.issued recording event, ∀ consumerTag ∈ issue.consumerTag, consumerTag ∉ state.live

def recoversIdle (state : Subscriptions) : ConsumerEvent → Bool
  | .recover => state.consumerTagBranchMap.keys.all fun consumerTag => !(tags state).contains consumerTag
  | _ => true

theorem flatMap_ofEntries (entries : List (String × String)) :
    (Action.ofEntries entries).flatMap tagsOf = entries.map Prod.fst := by
  cases entries with
  | nil => rfl
  | cons entry rest => exact List.append_nil _

section

variable {recording : TopologyRecording} {connection : Connection} {records : QueueRef → RecordedQueue}
  {action : Action} {stage : Stage} {answer : Answer} {progress : Progress}

/-- An action passes its tags on, up to the one that it subscribes with. -/
theorem proceed_tags (proceeded : proceed recording connection records action stage answer = some progress) :
    (progress.successors.flatMap tagsOf ++ progress.subscribed).Subperm (tagsOf action) := by
  have moves : ∀ later, ([action.reaches later].flatMap tagsOf ++ []).Subperm (tagsOf action) := by
    intro later
    rw [List.append_nil, List.flatMap_singleton]
    exact List.Subperm.refl _
  have subscribes : (action.following.flatMap tagsOf ++ [action.consumerTag]).Subperm (tagsOf action) := by
    rw [Action.following, flatMap_ofEntries]
    exact List.perm_append_comm.subperm
  have ends : (action.following.flatMap tagsOf ++ []).Subperm (tagsOf action) := by
    rw [Action.following, flatMap_ofEntries, List.append_nil]
    exact (List.sublist_cons_self _ _).subperm
  unfold proceed at proceeded
  split at proceeded <;> cases proceeded
  case h_5 =>
    -- the retries go on by themselves, for the tag that is not subscribed yet
    dsimp only
    split
    · rw [List.flatMap_cons, Action.following, flatMap_ofEntries, List.append_nil]
      exact List.Subperm.refl _
    · exact moves _
  case h_7 =>
    unfold retry
    split
    · exact moves _
    · exact List.nil_subperm
  case h_8 | h_9 | h_10 => exact subscribes
  case h_11 | h_12 | h_13 | h_14 | h_15 => exact ends
  case h_1 | h_2 | h_3 | h_4 | h_6 => exact moves _

theorem step_tags {state next : Subscriptions} {event : ConsumerEvent}
    (stepped : state.step recording connection event = some next) :
    (tags next).Subperm (tags state) ∨
      event = .recover ∧ next.live = state.live ∧ ∃ actions, next.actions = state.actions ++ actions ∧
        actions.flatMap tagsOf = state.consumerTagBranchMap.keys := by
  cases event with
  | handleCancel consumerTag =>
    simp only [Subscriptions.step] at stepped
    split at stepped <;> cases stepped
    rename_i live
    refine .inl ?_
    have cancelled : ((cancelActions state.consumerTagBranchMap consumerTag).flatMap tagsOf).Subperm
        [consumerTag] := by
      unfold cancelActions
      split
      · exact List.Subperm.refl _
      · exact List.nil_subperm
    rw [tags, tags, List.flatMap_append, List.append_assoc]
    refine (List.Subperm.refl _).append ((cancelled.append (List.Subperm.refl _)).trans ?_)
    exact (List.perm_cons_erase live).symm.subperm
  | reconnected =>
    cases stepped
    refine .inl ?_
    rw [tags, List.append_nil]
    exact (List.sublist_append_left _ _).subperm
  | recover =>
    simp only [Subscriptions.step] at stepped
    split at stepped <;> cases stepped
    refine .inr ⟨rfl, rfl, _, rfl, ?_⟩
    rw [flatMap_ofEntries, List.map_map]
    rfl
  | redeclared record generatedName =>
    cases stepped
    exact .inl (List.Subperm.refl _)
  | advance index answer =>
    simp only [Subscriptions.step] at stepped
    split at stepped
    · cases stepped
    · rename_i action found
      obtain ⟨progress, proceeded, rfl⟩ := Option.map_eq_some_iff.mp stepped
      refine .inl ?_
      rw [tags, tags, ← List.append_assoc]
      exact (held_replace found (proceed_tags proceeded)).append (List.Subperm.refl _)

theorem issue_tag {issue : Issue} {consumerTag : String} (issued : action.issue recording records = some issue)
    (subscribes : issue.consumerTag = some consumerTag) : consumerTag ∈ tagsOf action := by
  unfold Action.issue at issued
  split at issued
  case h_5 =>
    split at issued <;> cases issued <;> cases subscribes <;> exact List.mem_cons_self
  all_goals cases issued <;> cases subscribes <;> exact List.mem_cons_self

end

/-- While every recovery finds the consumer idle, each of its tags has one subscription or one action. -/
theorem tags_nodup {recording : TopologyRecording} {connection : Connection} {records : QueueRef → RecordedQueue}
    {consumerTagBranchMap : NameMap String} {events : List ConsumerEvent} {state : Subscriptions}
    (executed : run (restrict recoversIdle (Subscriptions.step recording connection))
      (.start records consumerTagBranchMap) events = some state) : (tags state).Nodup := by
  have initial : (tags (.start records consumerTagBranchMap)).Nodup := consumerTagBranchMap.keys_nodup
  refine run_invariant (fun state => (tags state).Nodup) ?_ initial executed
  intro state event next nodup stepped
  obtain ⟨idle, stepped⟩ := restrict_some.mp stepped
  rcases step_tags stepped with fewer | ⟨rfl, live, actions, added, keys⟩
  · obtain ⟨middle, same, sublist⟩ := fewer
    exact same.nodup_iff.mp (nodup.sublist sublist)
  · have absent : ∀ consumerTag ∈ state.consumerTagBranchMap.keys, consumerTag ∉ tags state := by
      simpa [recoversIdle] using idle
    have moved : (tags next).Perm (state.consumerTagBranchMap.keys ++ tags state) := by
      rw [tags, tags, added, live, List.flatMap_append, keys, ← List.append_assoc]
      exact List.perm_append_comm.append_right _
    refine moved.nodup_iff.mpr (List.nodup_append.mpr ⟨state.consumerTagBranchMap.keys_nodup, nodup, ?_⟩)
    rintro consumerTag key _ member rfl
    exact absent consumerTag key member

/-- A consumer that is idle whenever it recovers never subscribes twice with one tag. -/
theorem subscribes_once (recording : TopologyRecording) (connection : Connection)
    (records : QueueRef → RecordedQueue) (consumerTagBranchMap : NameMap String) (events : List ConsumerEvent)
    (state : Subscriptions)
    (executed : run (restrict recoversIdle (Subscriptions.step recording connection))
      (.start records consumerTagBranchMap) events = some state) : AsksOnce recording connection state := by
  intro event next _ issue issued consumerTag subscribes live
  cases event with
  | advance index answer =>
    obtain ⟨action, found, issued⟩ := Option.bind_eq_some_iff.mp issued
    have held : consumerTag ∈ state.actions.flatMap tagsOf :=
      List.mem_flatMap.mpr ⟨action, List.mem_of_getElem? found, issue_tag issued subscribes⟩
    exact (List.nodup_append.mp (tags_nodup executed)).2.2 consumerTag held consumerTag live rfl
  | handleCancel | reconnected | recover | redeclared => cases issued

def ordersRecording : TopologyRecording :=
  (TopologyRecording.empty false false).recordQueue "orders" 0

def ordersRecords : QueueRef → RecordedQueue := fun _ => ⟨"orders", true, false, false, [], false⟩

def ordersTags : NameMap String := (∅ : NameMap String).insert "ctag-1" "orders"

/-- The subscription is cancelled and made again, and then the connection is lost. -/
theorem subscribes_once_after_cancel : ∃ state,
    run (restrict recoversIdle (Subscriptions.step ordersRecording 0)) (.start ordersRecords ordersTags)
      [.handleCancel "ctag-1", .advance 0 .continues, .advance 0 (.queueExists true), .advance 0 .subscribed,
        .reconnected, .recover, .advance 0 .continues, .advance 0 (.queueExists true)] = some state ∧
    AsksOnce ordersRecording 0 state := by
  obtain ⟨state, executed⟩ : ∃ state, run (restrict recoversIdle (Subscriptions.step ordersRecording 0))
      (.start ordersRecords ordersTags)
      [.handleCancel "ctag-1", .advance 0 .continues, .advance 0 (.queueExists true), .advance 0 .subscribed,
        .reconnected, .recover, .advance 0 .continues, .advance 0 (.queueExists true)] = some state := ⟨_, rfl⟩
  exact ⟨state, executed, subscribes_once ordersRecording 0 ordersRecords ordersTags _ state executed⟩

/-- The connection is lost before the delayed action of a cancellation runs, so that the recovery and the
    delayed action both subscribe. -/
theorem subscribed_twice :
    ¬ ∀ (recording : TopologyRecording) (connection : Connection) (records : QueueRef → RecordedQueue)
      (consumerTagBranchMap : NameMap String) (events : List ConsumerEvent) (state : Subscriptions),
      run (Subscriptions.step recording connection) (.start records consumerTagBranchMap) events = some state →
      AsksOnce recording connection state := by
  intro once
  have executed : run (Subscriptions.step ordersRecording 0) (.start ordersRecords ordersTags)
      [.handleCancel "ctag-1", .reconnected, .recover,
        .advance 1 .continues, .advance 1 (.queueExists true), .advance 1 .subscribed,
        .advance 0 .continues, .advance 0 (.queueExists true)] =
      some ⟨ordersRecords, ordersTags, ["ctag-1"],
        [⟨"ctag-1", "orders", .subscribingToRecord "orders", []⟩], 0⟩ := rfl
  have fresh := once _ _ _ _ _ _ executed (.advance 0 .subscribed) _ rfl
    ⟨"orders", "orders", some "ctag-1"⟩ rfl "ctag-1" rfl
  exact fresh List.mem_cons_self

end PerfTestProof
