import PerfTest.Topology.Recording

namespace PerfTestProof

open PerfTestModel TopologyRecording

mutual

def nodes : TopologyRecording → List TopologyRecording
  | ⟨polling, cluster, exchanges, queues, bindings, children⟩ =>
    ⟨polling, cluster, exchanges, queues, bindings, children⟩ :: nodesOf children

def nodesOf : List TopologyRecording → List TopologyRecording
  | [] => []
  | child :: children => nodes child ++ nodesOf children

end

theorem nodes_cons (recording : TopologyRecording) : nodes recording = recording :: nodesOf recording.children := by
  cases recording
  rw [nodes]

theorem self_mem_nodes (recording : TopologyRecording) : recording ∈ nodes recording := by
  rw [nodes_cons]
  exact List.mem_cons_self

mutual

theorem lookup_eq_findSome (queue : String) : ∀ recording : TopologyRecording,
    recording.lookupQueueInHierarchy queue = (nodes recording).findSome? fun node => node.queues.lookup queue
  | ⟨_, _, _, queues, _, children⟩ => by
    rw [lookupQueueInHierarchy, nodes, List.findSome?_cons, lookupIn_eq_findSome queue children]
    cases queues.lookup queue <;> rfl

theorem lookupIn_eq_findSome (queue : String) : ∀ children : List TopologyRecording,
    lookupQueueInChildren queue children = (nodesOf children).findSome? fun node => node.queues.lookup queue
  | [] => by rw [lookupQueueInChildren, nodesOf, List.findSome?_nil]
  | child :: children => by
    rw [lookupQueueInChildren, nodesOf, List.findSome?_append, lookup_eq_findSome queue child,
      lookupIn_eq_findSome queue children]
    cases (nodes child).findSome? fun node => node.queues.lookup queue <;> rfl

end

theorem nodesOf_append (first second : List TopologyRecording) :
    nodesOf (first ++ second) = nodesOf first ++ nodesOf second := by
  induction first with
  | nil => rw [nodesOf, List.nil_append, List.nil_append]
  | cons child children ih => rw [List.cons_append, nodesOf, nodesOf, ih, List.append_assoc]

theorem addChild_queues (recording child : TopologyRecording) :
    (recording.addChild child).queues = recording.queues := rfl

theorem addChild_children (recording child : TopologyRecording) :
    (recording.addChild child).children = recording.children ++ [child] := rfl

theorem lookup_addChild {recording client : TopologyRecording} {queue : String} {record : QueueRef}
    (found : recording.lookupQueueInHierarchy queue = some record) :
    (recording.addChild client).lookupQueueInHierarchy queue = some record := by
  rw [lookup_eq_findSome, nodes_cons, List.findSome?_cons] at found ⊢
  rw [addChild_queues, addChild_children]
  cases own : recording.queues.lookup queue with
  | some other => rw [own] at found; exact found
  | none =>
    rw [own] at found
    dsimp only at found ⊢
    rw [nodesOf_append, List.findSome?_append, found]
    rfl

theorem lookup_recorded {recording : TopologyRecording} {queue : String}
    (recorded : ∃ node ∈ nodes recording, queue ∈ node.queues) :
    ∃ node ∈ nodes recording, ∃ record, recording.lookupQueueInHierarchy queue = some record ∧
      node.queues.lookup queue = some record := by
  obtain ⟨holder, held, member⟩ := recorded
  cases found : recording.lookupQueueInHierarchy queue with
  | some record =>
    have first := found
    rw [lookup_eq_findSome] at first
    obtain ⟨node, mem, has⟩ := List.exists_of_findSome?_eq_some first
    exact ⟨node, mem, record, rfl, has⟩
  | none =>
    rw [lookup_eq_findSome, List.findSome?_eq_none_iff] at found
    exact absurd member (AList.lookup_eq_none.mp (found holder held))

structure CompleteFor (recording client : TopologyRecording) (queue : String) : Prop where
  record : ∃ node ∈ nodes recording, ∃ record, node.queues.lookup queue = some record ∧
    client.queues.lookup queue = some record
  bindings : ∀ node ∈ nodes recording, ∀ binding ∈ node.getBindingsFor queue, binding ∈ client.bindings
  exchanges : ∀ node ∈ nodes recording, ∀ binding ∈ node.getBindingsFor queue,
    (∃ holder ∈ nodes recording, binding.exchange ∈ holder.exchanges) →
    ∃ holder ∈ nodes recording, ∃ exchange, holder.exchanges.lookup binding.exchange = some exchange ∧
      client.exchanges.lookup binding.exchange = some exchange

def SubRecordsAll (recording : TopologyRecording) (queues : List String) : Prop :=
  ∃ client, recording.subRecording queues = .ok client ∧
    ∀ queue ∈ queues, CompleteFor recording client queue

def HoldsBindings (recording : TopologyRecording) (queue : String) : Prop :=
  ∀ node ∈ nodes recording, ∀ binding ∈ node.getBindingsFor queue,
    binding ∈ recording.bindings ∧ binding.exchange ∈ recording.exchanges

theorem lookup_putIfAbsent {Value : Type} {map : NameMap Value} {name key : String} {value found : Value}
    (present : (map.putIfAbsent name value).lookup key = some found) :
    map.lookup key = some found ∨ key = name ∧ found = value := by
  unfold NameMap.putIfAbsent at present
  split at present
  · exact .inl present
  · by_cases same : key = name
    · subst same
      rw [AList.lookup_insert] at present
      exact .inr ⟨rfl, (Option.some.inj present).symm⟩
    · rw [AList.lookup_insert_ne same] at present
      exact .inl present

theorem mem_putIfAbsent {Value : Type} {map : NameMap Value} {name key : String} {value : Value} :
    key ∈ map.putIfAbsent name value ↔ key = name ∨ key ∈ map := by
  unfold NameMap.putIfAbsent
  split
  · rename_i member
    exact ⟨.inr, fun either => either.elim (fun same => same ▸ member) id⟩
  · exact AList.mem_insert map

/-- What is known of the client after some bindings: all of these and, for each of them, the exchange
    that the recording holds. -/
theorem foldlM_subRecordBinding {recording client result : TopologyRecording}
    {bindings : List RecordedBinding}
    (kept : ∀ binding ∈ client.bindings,
      client.exchanges.lookup binding.exchange = recording.exchanges.lookup binding.exchange ∧
        binding.exchange ∈ recording.exchanges)
    (ran : bindings.foldlM recording.subRecordBinding client = .ok result) :
    result.bindings = client.bindings ++ bindings ∧ result.queues = client.queues ∧
      ∀ binding ∈ result.bindings,
        result.exchanges.lookup binding.exchange = recording.exchanges.lookup binding.exchange ∧
          binding.exchange ∈ recording.exchanges := by
  induction bindings generalizing client with
  | nil => cases ran; exact ⟨(List.append_nil _).symm, rfl, kept⟩
  | cons binding bindings ih =>
    rw [List.foldlM_cons] at ran
    cases held : recording.exchanges.lookup binding.exchange with
    | none =>
      rw [subRecordBinding, held] at ran
      cases ran
    | some exchange =>
      rw [subRecordBinding, held] at ran
      suffices stillKept : _ from by
        obtain ⟨bound, queues, exchanges⟩ := ih stillKept ran
        refine ⟨?_, queues, exchanges⟩
        rw [bound, List.append_assoc, List.singleton_append]
      · intro other member
        have present : binding.exchange ∈ recording.exchanges :=
          AList.lookup_isSome.mp (by rw [held]; rfl)
        by_cases same : other.exchange = binding.exchange
        · rw [same, held]
          exact ⟨AList.lookup_insert _, present⟩
        · rcases List.mem_append.mp member with earlier | last
          · rw [AList.lookup_insert_ne same]
            exact kept other earlier
          · rw [List.mem_singleton.mp last] at same
            exact absurd rfl same

/-- With every exchange at hand, the bindings are all taken over. -/
theorem foldlM_subRecordBinding_ok {recording : TopologyRecording} {bindings : List RecordedBinding}
    (held : ∀ binding ∈ bindings, binding.exchange ∈ recording.exchanges) (client : TopologyRecording) :
    ∃ result, bindings.foldlM recording.subRecordBinding client = .ok result := by
  induction bindings generalizing client with
  | nil => exact ⟨client, rfl⟩
  | cons binding bindings ih =>
    obtain ⟨first, rest⟩ := List.forall_mem_cons.mp held
    obtain ⟨exchange, found⟩ := Option.isSome_iff_exists.mp (AList.lookup_isSome.mpr first)
    rw [List.foldlM_cons, subRecordBinding, found]
    exact ih rest _

structure Mirrors (recording client : TopologyRecording) : Prop where
  exchanges : ∀ binding ∈ client.bindings,
    client.exchanges.lookup binding.exchange = recording.exchanges.lookup binding.exchange ∧
      binding.exchange ∈ recording.exchanges
  queues : ∀ queue record, client.queues.lookup queue = some record →
    recording.lookupQueueInHierarchy queue = some record

theorem foldlM_subRecordQueue {recording client result : TopologyRecording} {queues : List String}
    (found : ∀ queue ∈ queues, ∃ record, recording.lookupQueueInHierarchy queue = some record)
    (mirrors : Mirrors recording client)
    (ran : queues.foldlM recording.subRecordQueue client = .ok result) :
    result.bindings = client.bindings ++ queues.flatMap recording.getBindingsFor ∧
      (∀ queue, queue ∈ queues ∨ queue ∈ client.queues → queue ∈ result.queues) ∧
      Mirrors recording result := by
  induction queues generalizing client with
  | nil =>
    cases ran
    exact ⟨(List.append_nil _).symm, fun queue held => held.resolve_left List.not_mem_nil, mirrors⟩
  | cons queue queues ih =>
    obtain ⟨⟨record, first⟩, rest⟩ := List.forall_mem_cons.mp found
    rw [List.foldlM_cons, subRecordQueue, lookup_addChild first] at ran
    dsimp only at ran
    cases bound : (recording.getBindingsFor queue).foldlM recording.subRecordBinding
        { client with queues := client.queues.putIfAbsent queue record } with
    | error failure => rw [bound] at ran; cases ran
    | ok next =>
      rw [bound] at ran
      have kept : ∀ binding ∈
          ({ client with queues := client.queues.putIfAbsent queue record } : TopologyRecording).bindings,
          client.exchanges.lookup binding.exchange = recording.exchanges.lookup binding.exchange ∧
            binding.exchange ∈ recording.exchanges := mirrors.exchanges
      obtain ⟨bindings, same, exchanges⟩ := foldlM_subRecordBinding kept bound
      have stillMirrors : Mirrors recording next := by
        refine ⟨exchanges, fun other found held => ?_⟩
        rw [same] at held
        rcases lookup_putIfAbsent held with earlier | ⟨rfl, rfl⟩
        · exact mirrors.queues other found earlier
        · exact first
      obtain ⟨all, members, mirrored⟩ := ih rest stillMirrors ran
      refine ⟨?_, fun other held => members other ?_, mirrored⟩
      · rw [all, bindings, List.flatMap_cons, List.append_assoc]
      · rw [same, mem_putIfAbsent]
        rcases held with listed | earlier
        · rcases List.mem_cons.mp listed with here | later
          · exact .inr (.inl here)
          · exact .inl later
        · exact .inr (.inr earlier)

theorem foldlM_subRecordQueue_ok {recording : TopologyRecording} {queues : List String}
    (found : ∀ queue ∈ queues, ∃ record, recording.lookupQueueInHierarchy queue = some record)
    (held : ∀ queue ∈ queues, ∀ binding ∈ recording.getBindingsFor queue,
      binding.exchange ∈ recording.exchanges)
    (client : TopologyRecording) :
    ∃ result, queues.foldlM recording.subRecordQueue client = .ok result := by
  induction queues generalizing client with
  | nil => exact ⟨client, rfl⟩
  | cons queue queues ih =>
    obtain ⟨⟨record, first⟩, rest⟩ := List.forall_mem_cons.mp found
    obtain ⟨exchanges, others⟩ := List.forall_mem_cons.mp held
    obtain ⟨next, bound⟩ := foldlM_subRecordBinding_ok exchanges
      { client with queues := client.queues.putIfAbsent queue record }
    rw [List.foldlM_cons, subRecordQueue, lookup_addChild first]
    dsimp only
    rw [bound]
    exact ih rest others next

/-- The sub-recording is complete exactly when the bindings of its queues are recorded where it is
    asked for, and their exchanges too: queues are looked up in the tree, bindings and exchanges not. -/
theorem subRecordsAll_iff (recording : TopologyRecording) {queues : List String}
    (recorded : ∀ queue ∈ queues, ∃ node ∈ nodes recording, queue ∈ node.queues) :
    SubRecordsAll recording queues ↔ ∀ queue ∈ queues, HoldsBindings recording queue := by
  have found : ∀ queue ∈ queues, ∃ record, recording.lookupQueueInHierarchy queue = some record := by
    intro queue listed
    obtain ⟨_, _, record, found, _⟩ := lookup_recorded (recorded queue listed)
    exact ⟨record, found⟩
  have empty : Mirrors recording recording.child := ⟨List.forall_mem_nil _, nofun⟩
  constructor
  · rintro ⟨client, ran, complete⟩ queue listed node held binding bound
    obtain ⟨bindings, _, mirrors⟩ := foldlM_subRecordQueue found empty ran
    have member := (complete queue listed).bindings node held binding bound
    refine ⟨?_, (mirrors.exchanges binding member).2⟩
    rw [bindings] at member
    rcases List.mem_append.mp member with none | taken
    · cases none
    · obtain ⟨other, _, own⟩ := List.mem_flatMap.mp taken
      exact List.mem_of_mem_filter own
  · intro holds
    have exchanges : ∀ queue ∈ queues, ∀ binding ∈ recording.getBindingsFor queue,
        binding.exchange ∈ recording.exchanges := fun queue listed binding own =>
      (holds queue listed recording (self_mem_nodes recording) binding own).2
    obtain ⟨client, ran⟩ := foldlM_subRecordQueue_ok found exchanges recording.child
    obtain ⟨bindings, members, mirrors⟩ := foldlM_subRecordQueue found empty ran
    refine ⟨client, ran, fun queue listed => ?_⟩
    have taken : ∀ node ∈ nodes recording, ∀ binding ∈ node.getBindingsFor queue,
        binding ∈ client.bindings := by
      intro node held binding bound
      have own := (holds queue listed node held binding bound).1
      rw [bindings]
      refine List.mem_append_right _ (List.mem_flatMap.mpr ⟨queue, listed, ?_⟩)
      exact List.mem_filter.mpr ⟨own, (List.mem_filter.mp bound).2⟩
    refine ⟨?_, taken, fun node held binding bound _ => ?_⟩
    · obtain ⟨record, has⟩ := Option.isSome_iff_exists.mp
        (AList.lookup_isSome.mpr (members queue (.inl listed)))
      obtain ⟨node, held, other, found, holder⟩ := lookup_recorded (recorded queue listed)
      rw [mirrors.queues queue record has] at found
      cases found
      exact ⟨node, held, record, holder, has⟩
    · obtain ⟨same, present⟩ := mirrors.exchanges binding (taken node held binding bound)
      obtain ⟨exchange, has⟩ := Option.isSome_iff_exists.mp (AList.lookup_isSome.mpr present)
      exact ⟨recording, self_mem_nodes recording, exchange, has, same.trans has⟩

end PerfTestProof
