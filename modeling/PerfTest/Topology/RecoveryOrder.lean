import PerfTest.Systems.Restoring
import PerfTest.Topology.Configuration
import PerfTest.Topology.Restoration

namespace PerfTestModel

open Systems

def TopologyHandlerResult.recording (root : TopologyRecording) (result : TopologyHandlerResult) :
    TopologyRecording := root.children.getD result.topologyRecording root.child

def recoverResults (broker : Broker) (root : TopologyRecording) (order : List TopologyHandlerResult) : Call Unit :=
  forM order fun result => (result.recording root).recover broker result.connection

inductive Resource where
  | exchange (name : String)
  | queue (name : String)

namespace Resource

def On (topology : BrokerTopology) : Set Resource := fun resource =>
  match resource with
  | .exchange name => name ∈ topology.exchanges
  | .queue name => name ∈ topology.queues

def In (recording : TopologyRecording) : Set Resource := fun resource =>
  match resource with
  | .exchange name => ∃ exchange ∈ recording.exchanges.values, exchange.name = name
  | .queue name => name ∈ recording.queues

end Resource

def restoringRecordings (root : TopologyRecording) :
    Restoring TopologyHandlerResult Resource RecordedBinding where
  provides result := Resource.In (result.recording root)
  holds result := {binding | binding ∈ (result.recording root).bindings}
  needs binding := {.exchange binding.exchange, .queue binding.queue}

end PerfTestModel

namespace PerfTestProof

open Systems Program PerfTestModel TopologyRecording

structure SharedOut (listed : List String) (root : TopologyRecording) (results : List TopologyHandlerResult)
    (records : QueueRef → RecordedQueue) : Prop where
  recorded : ∀ result ∈ results, ∀ name record, (result.recording root).queues.lookup name = some record →
    (name ∈ listed → (records record).serverNamed = false ∧ (records record).name = name) ∧
      (name ∉ listed → (records record).serverNamed = true)
  apart : ∀ result ∈ results, ∀ other ∈ results, ∀ name otherName record,
    (result.recording root).queues.lookup name = some record →
    (other.recording root).queues.lookup otherName = some record → result = other ∧ name = otherName
  held : ∀ result ∈ results, ∀ binding ∈ (result.recording root).bindings, binding.queue ∉ listed →
    binding.queue ∈ (result.recording root).queues
  once : ∀ result ∈ results, ∀ other ∈ results, ∀ binding ∈ (result.recording root).bindings,
    ∀ same ∈ (other.recording root).bindings, binding.queue ∉ listed → binding.queue = same.queue →
      result = other ∧ binding = same

def population (root : TopologyRecording) (results : List TopologyHandlerResult) : Set QueueRef :=
  {record | ∃ result ∈ results, record ∈ (result.recording root).queues.values}

theorem mem_values_iff {Value : Type} {map : NameMap Value} {value : Value} :
    value ∈ map.values ↔ ∃ name, map.lookup name = some value := by
  rw [NameMap.values, List.mem_map]
  constructor
  · rintro ⟨⟨name, _⟩, member, rfl⟩
    exact ⟨name, AList.mem_lookup_iff.mpr member⟩
  · rintro ⟨name, found⟩
    exact ⟨⟨name, value⟩, AList.mem_lookup_iff.mp found, rfl⟩

section

variable {listed : List String} {root : TopologyRecording} {results : List TopologyHandlerResult} {world : World}
  {records : QueueRef → RecordedQueue} {result other : TopologyHandlerResult} {binding same : RecordedBinding}

theorem SharedOut.recovered_listed (shared : SharedOut listed root results records) (member : result ∈ results)
    {queue : String} (inList : queue ∈ listed) : (result.recording root).recoveredName records queue = queue := by
  unfold recoveredName
  cases found : (result.recording root).queues.lookup queue with
  | none => rfl
  | some record => exact ((shared.recorded result member queue record found).1 inList).2

theorem SharedOut.recovered_server (shared : SharedOut listed root results records) (member : result ∈ results)
    (holds : binding ∈ (result.recording root).bindings) (unlisted : binding.queue ∉ listed) :
    ∃ record, (result.recording root).queues.lookup binding.queue = some record ∧
      (records record).serverNamed = true ∧
      (result.recording root).recoveredName records binding.queue = (records record).name := by
  have recorded := shared.held result member binding holds unlisted
  obtain ⟨record, found⟩ := Option.isSome_iff_exists.mp (AList.lookup_isSome.mpr recorded)
  refine ⟨record, found, (shared.recorded result member _ record found).2 unlisted, ?_⟩
  rw [recoveredName, found]

theorem bindingTo_routingKey {queue : String} (named : queue = binding.queue) :
    (if binding.routingKeyIsQueue then queue else binding.routingKey) = binding.routingKey := by
  unfold RecordedBinding.routingKeyIsQueue
  split
  · rename_i isQueue
    rw [named, beq_iff_eq.mp isQueue]
  · rfl

theorem SharedOut.kept {after : QueueRef → RecordedQueue} (shared : SharedOut listed root results records)
    (clients : ∀ record, (records record).serverNamed = false → after record = records record)
    (kinds : ∀ record, (after record).serverNamed = (records record).serverNamed) :
    SharedOut listed root results after := by
  refine ⟨fun result member name record found => ?_, shared.apart, shared.held, shared.once⟩
  obtain ⟨client, server⟩ := shared.recorded result member name record found
  constructor
  · intro inList
    rw [clients record (client inList).1]
    exact client inList
  · intro unlisted
    rw [kinds]
    exact server unlisted

theorem SharedOut.rebinding_inj (shared : SharedOut listed root results world.records)
    (named : Named listed (population root results) world)
    (member : result ∈ results) (holds : binding ∈ (result.recording root).bindings)
    (otherMember : other ∈ results) (otherHolds : same ∈ (other.recording root).bindings)
    (equal : rebinding (result.recording root) world.records binding =
      rebinding (other.recording root) world.records same) : binding = same := by
  unfold rebinding bindingTo at equal
  obtain ⟨names, exchanges, routingKeys⟩ := BrokerOperation.queueBind.inj equal
  -- no name that the broker made up is listed
  have apart : ∀ result ∈ results, ∀ binding ∈ (result.recording root).bindings, binding.queue ∉ listed →
      (result.recording root).recoveredName world.records binding.queue ∉ listed := by
    intro result member binding holds unlisted
    obtain ⟨record, found, server, name⟩ := shared.recovered_server member holds unlisted
    rw [name]
    exact (named.server record ⟨result, member, mem_values_iff.mpr ⟨_, found⟩⟩ server).1
  by_cases inList : binding.queue ∈ listed
  · have name := shared.recovered_listed member inList
    by_cases sameInList : same.queue ∈ listed
    · have sameName := shared.recovered_listed otherMember sameInList
      rw [bindingTo_routingKey name, bindingTo_routingKey sameName] at routingKeys
      rw [name, sameName] at names
      cases binding
      cases same
      subst names exchanges routingKeys
      rfl
    · refine absurd ?_ (apart other otherMember same otherHolds sameInList)
      rw [← names, name]
      exact inList
  · by_cases sameInList : same.queue ∈ listed
    · refine absurd ?_ (apart result member binding holds inList)
      rw [names, shared.recovered_listed otherMember sameInList]
      exact sameInList
    · obtain ⟨record, found, server, name⟩ := shared.recovered_server member holds inList
      obtain ⟨sameRecord, sameFound, _, sameName⟩ := shared.recovered_server otherMember otherHolds sameInList
      rw [name, sameName] at names
      have one : record = sameRecord := named.apart record ⟨result, member, mem_values_iff.mpr ⟨_, found⟩⟩
        sameRecord ⟨other, otherMember, mem_values_iff.mpr ⟨_, sameFound⟩⟩ server names
      subst one
      have queues := (shared.apart result member other otherMember _ _ record found sameFound).2
      exact (shared.once result member other otherMember binding holds same otherHolds inList queues).2

theorem SharedOut.rebinding_eq (shared : SharedOut listed root results records)
    (member : result ∈ results) (holds : binding ∈ (result.recording root).bindings)
    (otherMember : other ∈ results) (otherHolds : binding ∈ (other.recording root).bindings) :
    rebinding (result.recording root) records binding = rebinding (other.recording root) records binding := by
  by_cases inList : binding.queue ∈ listed
  · rw [rebinding, rebinding, shared.recovered_listed member inList, shared.recovered_listed otherMember inList]
  · rw [(shared.once result member other otherMember binding holds binding otherHolds inList rfl).1]

/-- A binding can be made exactly if what it needs is there. A queue that the broker named comes back with
    the recording that holds the binding. -/
theorem SharedOut.has_rebinding_iff {topology : BrokerTopology} {available : Set Resource}
    (shared : SharedOut listed root results world.records) (member : result ∈ results)
    (holds : binding ∈ (result.recording root).bindings)
    (exchanges : ∀ name, name ∈ topology.exchanges ↔ Resource.exchange name ∈ available)
    (queues : ∀ name ∈ listed, name ∈ topology.queues ↔ Resource.queue name ∈ available)
    (present : ∀ record ∈ (result.recording root).queues.values, (world.records record).name ∈ topology.queues)
    (provided : Resource.In (result.recording root) ⊆ available) :
    topology.Has (rebinding (result.recording root) world.records binding) ↔
      (restoringRecordings root).needs binding ⊆ available := by
  change (_ ∈ topology.queues ∧ binding.exchange ∈ topology.exchanges) ↔
    ({.exchange binding.exchange, .queue binding.queue} : Set Resource) ⊆ available
  rw [Set.insert_subset_iff, Set.singleton_subset_iff, exchanges, and_comm]
  apply and_congr_right
  intro _
  by_cases inList : binding.queue ∈ listed
  · rw [shared.recovered_listed member inList]
    exact queues _ inList
  · obtain ⟨record, found, _, name⟩ := shared.recovered_server member holds inList
    rw [name]
    apply iff_of_true
    · exact present record (mem_values_iff.mpr ⟨_, found⟩)
    · exact provided (shared.held result member binding holds inList)

end

structure OrderRestored (listed : List String) (root : TopologyRecording) (results : List TopologyHandlerResult)
    (kept : BrokerTopology) (world : World) (done : List TopologyHandlerResult) (events : List Performed)
    (after : World) : Prop where
  performed : after.performed = world.performed ++ events
  closed : after.closed = world.closed
  named : Named listed (population root results) after
  shared : SharedOut listed root results after.records
  exchanges : ∀ name, name ∈ (kept.afterAll events).exchanges ↔
    Resource.exchange name ∈ ((restoringRecordings root).restoreAll (Resource.On kept) done).available
  queues : ∀ name ∈ listed, name ∈ (kept.afterAll events).queues ↔
    Resource.queue name ∈ ((restoringRecordings root).restoreAll (Resource.On kept) done).available
  bound : ∀ operation, (boundQueue operation).isSome = true → Accepted events operation →
    ∃ result ∈ done, ∃ binding ∈ (result.recording root).bindings,
      operation = rebinding (result.recording root) after.records binding
  made : ∀ binding, binding ∈ ((restoringRecordings root).restoreAll (Resource.On kept) done).made ↔
    ∃ result ∈ done, binding ∈ (result.recording root).bindings ∧
      Accepted events (rebinding (result.recording root) after.records binding)

section

variable {broker : Broker} {listed : List String} {root : TopologyRecording} {results done : List TopologyHandlerResult}
  {kept : BrokerTopology} {world middle after : World} {events more : List Performed} {last : TopologyHandlerResult}

theorem OrderRestored.refl (named : Named listed (population root results) world)
    (shared : SharedOut listed root results world.records) :
    OrderRestored listed root results kept world [] [] world := by
  refine ⟨(List.append_nil _).symm, rfl, named, shared, fun _ => Iff.rfl, fun _ _ => Iff.rfl, ?_, fun binding => ?_⟩
  · rintro operation _ ⟨event, held, _⟩
    cases held
  · apply iff_of_false
    · exact Set.notMem_empty binding
    · rintro ⟨result, held, _⟩
      cases held

theorem OrderRestored.exchanges_next
    (restored : OrderRestored listed root results kept world done events middle)
    (recovered : RecordingRestored listed (population root results) (last.recording root) middle
      (kept.afterAll events) more after) :
    ∀ name, name ∈ (kept.afterAll (events ++ more)).exchanges ↔
      Resource.exchange name ∈
        ((restoringRecordings root).restoreAll (Resource.On kept) (done ++ [last])).available := by
  intro name
  rw [afterAll_append, recovered.exchanges, restored.exchanges, Restoring.restoreAll_concat]
  rfl

theorem OrderRestored.queues_next
    (restored : OrderRestored listed root results kept world done events middle) (member : last ∈ results)
    (recovered : RecordingRestored listed (population root results) (last.recording root) middle
      (kept.afterAll events) more after) :
    ∀ name ∈ listed, name ∈ (kept.afterAll (events ++ more)).queues ↔
      Resource.queue name ∈
        ((restoringRecordings root).restoreAll (Resource.On kept) (done ++ [last])).available := by
  intro name inList
  rw [afterAll_append, recovered.queues name inList, restored.queues name inList, Restoring.restoreAll_concat]
  apply or_congr_right
  change _ ↔ name ∈ (last.recording root).queues
  constructor
  · rintro ⟨record, held, client, rfl⟩
    obtain ⟨key, found⟩ := mem_values_iff.mp held
    obtain ⟨isClient, isServer⟩ := restored.shared.recorded last member key record found
    by_cases keyInList : key ∈ listed
    · rw [(isClient keyInList).2]
      exact AList.lookup_isSome.mp (Option.isSome_of_eq_some found)
    · rw [isServer keyInList] at client
      cases client
  · intro recorded
    obtain ⟨record, found⟩ := Option.isSome_iff_exists.mp (AList.lookup_isSome.mpr recorded)
    exact ⟨record, mem_values_iff.mpr ⟨name, found⟩, (restored.shared.recorded last member name record found).1 inList⟩

theorem SharedOut.rebinding_stable (shared : SharedOut listed root results middle.records)
    (recovered : RecordingRestored listed (population root results) (last.recording root) middle
      (kept.afterAll events) more after)
    (member : last ∈ results) {result : TopologyHandlerResult} (other : result ∈ results) (distinct : result ≠ last)
    (binding : RecordedBinding) :
    rebinding (result.recording root) after.records binding =
      rebinding (result.recording root) middle.records binding := by
  have same : (result.recording root).recoveredName after.records binding.queue =
      (result.recording root).recoveredName middle.records binding.queue := by
    unfold recoveredName
    cases found : (result.recording root).queues.lookup binding.queue with
    | none => rfl
    | some record =>
      have outside : record ∉ (last.recording root).queues.values := by
        intro inside
        obtain ⟨key, lastFound⟩ := mem_values_iff.mp inside
        exact distinct (shared.apart result other last member _ _ record found lastFound).1
      exact congrArg RecordedQueue.name (recovered.others record outside)
  rw [rebinding, rebinding, same]

theorem OrderRestored.bound_next (restored : OrderRestored listed root results kept world done events middle)
    (members : ∀ result ∈ done, result ∈ results) (member : last ∈ results) (fresh : last ∉ done)
    (recovered : RecordingRestored listed (population root results) (last.recording root) middle
      (kept.afterAll events) more after) {operation : BrokerOperation}
    (binds : (boundQueue operation).isSome = true) (accepted : Accepted (events ++ more) operation) :
    ∃ result ∈ done ++ [last], ∃ binding ∈ (result.recording root).bindings,
      operation = rebinding (result.recording root) after.records binding := by
  rcases accepted_append.mp accepted with before | now
  · obtain ⟨result, held, binding, holds, rfl⟩ := restored.bound operation binds before
    refine ⟨result, List.mem_append_left _ held, binding, holds, ?_⟩
    apply Eq.symm
    apply restored.shared.rebinding_stable recovered member (members result held)
    intro same
    exact fresh (same ▸ held)
  · obtain ⟨_, binding, holds, same⟩ := (recovered.bindings operation binds).mp now
    exact ⟨last, List.mem_append_right _ (List.mem_singleton_self last), binding, holds, same⟩

/-- The last one makes exactly those of its bindings that it can make. -/
theorem OrderRestored.accepted_last (restored : OrderRestored listed root results kept world done events middle)
    (shared : SharedOut listed root results after.records) (member : last ∈ results)
    (recovered : RecordingRestored listed (population root results) (last.recording root) middle
      (kept.afterAll events) more after) {binding : RecordedBinding}
    (holds : binding ∈ (last.recording root).bindings) :
    Accepted more (rebinding (last.recording root) after.records binding) ↔
      (restoringRecordings root).needs binding ⊆
        ((restoringRecordings root).restoreAll (Resource.On kept) (done ++ [last])).available := by
  have exchanges := restored.exchanges_next recovered
  have queues := restored.queues_next member recovered
  rw [afterAll_append] at exchanges queues
  rw [recovered.bindings _ rfl, ← shared.has_rebinding_iff member holds exchanges queues recovered.present]
  · apply and_iff_left
    exact ⟨binding, holds, rfl⟩
  · rw [Restoring.restoreAll_concat]
    exact Set.subset_union_right

theorem OrderRestored.made_next (restored : OrderRestored listed root results kept world done events middle)
    (members : ∀ result ∈ done, result ∈ results) (member : last ∈ results) (fresh : last ∉ done)
    (shared : SharedOut listed root results after.records)
    (recovered : RecordingRestored listed (population root results) (last.recording root) middle
      (kept.afterAll events) more after) (binding : RecordedBinding) :
    binding ∈ ((restoringRecordings root).restoreAll (Resource.On kept) (done ++ [last])).made ↔
      ∃ result ∈ done ++ [last], binding ∈ (result.recording root).bindings ∧
        Accepted (events ++ more) (rebinding (result.recording root) after.records binding) := by
  have stable : ∀ result ∈ done, ∀ binding, rebinding (result.recording root) after.records binding =
      rebinding (result.recording root) middle.records binding := by
    intro result held
    apply restored.shared.rebinding_stable recovered member (members result held)
    intro same
    exact fresh (same ▸ held)
  rw [Restoring.mem_made_concat, restored.made]
  constructor
  · rintro (⟨result, held, holds, accepted⟩ | ⟨holds, needs⟩)
    · refine ⟨result, List.mem_append_left _ held, holds, accepted_append.mpr (.inl ?_)⟩
      rwa [stable result held]
    · refine ⟨last, List.mem_append_right _ (List.mem_singleton_self last), holds, accepted_append.mpr (.inr ?_)⟩
      exact (restored.accepted_last shared member recovered holds).mpr needs
  · rintro ⟨result, held, holds, accepted⟩
    have listedResult : result ∈ results := by
      rcases List.mem_append.mp held with earlier | now
      · exact members result earlier
      · rw [List.mem_singleton.mp now]
        exact member
    rcases accepted_append.mp accepted with before | now
    · -- the operation was that of the same binding, by the one that made it
      obtain ⟨maker, done, made, holdsToo, same⟩ := restored.bound _ rfl before
      have here := same
      rw [← stable maker done] at same
      obtain rfl := shared.rebinding_inj recovered.named listedResult holds (members maker done) holdsToo same
      left
      refine ⟨maker, done, holdsToo, ?_⟩
      rwa [← here]
    · obtain ⟨_, made, holdsToo, same⟩ := (recovered.bindings _ rfl).mp now
      obtain rfl := shared.rebinding_inj recovered.named listedResult holds member holdsToo same
      right
      refine ⟨holdsToo, (restored.accepted_last shared member recovered holdsToo).mp ?_⟩
      rwa [← same]

theorem OrderRestored.next (restored : OrderRestored listed root results kept world done events middle)
    (members : ∀ result ∈ done, result ∈ results) (member : last ∈ results) (fresh : last ∉ done)
    (recovered : RecordingRestored listed (population root results) (last.recording root) middle
      (kept.afterAll events) more after) :
    OrderRestored listed root results kept world (done ++ [last]) (events ++ more) after := by
  have shared := restored.shared.kept recovered.clients recovered.kinds
  refine ⟨?_, recovered.closed.trans restored.closed, recovered.named, shared, restored.exchanges_next recovered,
    restored.queues_next member recovered, ?_, restored.made_next members member fresh shared recovered⟩
  · rw [recovered.performed, restored.performed, List.append_assoc]
  · intro operation binds accepted
    exact restored.bound_next members member fresh recovered binds accepted

theorem recoverResults_ends (answers : broker.AnswersBy world.performed kept listed)
    (order : List TopologyHandlerResult)
    (restored : OrderRestored listed root results kept world done events middle)
    (members : ∀ result ∈ done ++ order, result ∈ results) (once : (done ++ order).Nodup)
    (live : ∀ result ∈ results, result.connection ∉ world.closed) :
    (recoverResults broker root order).ends
      (fun _ after => ∃ events, OrderRestored listed root results kept world (done ++ order) events after)
      (fun _ _ => False) middle := by
  induction order generalizing done events middle with
  | nil =>
    rw [List.append_nil]
    exact ⟨events, restored⟩
  | cons last order ih =>
    rw [List.append_cons] at members once ⊢
    have doneMembers : ∀ result ∈ done, result ∈ results := by
      intro result held
      exact members result (List.mem_append_left _ (List.mem_append_left _ held))
    have member : last ∈ results :=
      members last (List.mem_append_left _ (List.mem_append_right _ (List.mem_singleton_self last)))
    have fresh : last ∉ done := by
      intro held
      exact (List.nodup_append.mp (List.Nodup.of_append_left once)).2.2 last held last
        (List.mem_singleton_self last) rfl
    have answersNow := answers_later answers events
    rw [← restored.performed] at answersNow
    have stillLive := live last member
    rw [← restored.closed] at stillLive
    rw [recoverResults, List.forM_cons, ends_bind]
    refine ends_mono (recover_restores answersNow restored.named stillLive ?_) ?_ fun _ _ => id
    · intro record held
      exact ⟨last, member, held⟩
    · rintro _ after ⟨more, recovered⟩
      exact ih (restored.next doneMembers member fresh recovered) members once

def RecoversBindings (broker : Broker) (root : TopologyRecording) (results : List TopologyHandlerResult)
    (world : World) : Prop :=
  ∀ order, order.Perm results → ∀ result ∈ results, ∀ binding ∈ (result.recording root).bindings,
    Accepted ((recoverResults broker root order world).2.performed.drop world.performed.length)
      (rebinding (result.recording root) (recoverResults broker root order world).2.records binding)

/-- That is so exactly if what a binding needs was kept or is in a recording that holds the binding. -/
theorem recoversBindings_iff (answers : broker.AnswersBy world.performed kept listed)
    (named : Named listed (population root results) world) (shared : SharedOut listed root results world.records)
    (once : results.Nodup) (live : ∀ result ∈ results, result.connection ∉ world.closed) :
    RecoversBindings broker root results world ↔ ∀ result ∈ results, ∀ binding ∈ (result.recording root).bindings,
      (restoringRecordings root).Supported (Resource.On kept) results binding := by
  have restores : ∀ order, order.Perm results → ∃ events, OrderRestored listed root results kept world order events
      (recoverResults broker root order world).2 := by
    intro order perm
    have start : OrderRestored listed root results kept world [] [] world := .refl named shared
    rcases ends_cases (recoverResults_ends answers order start (fun result => perm.mem_iff.mp)
      (perm.nodup_iff.mpr once) live) with ⟨_, after, ran, restored⟩ | ⟨_, _, _, impossible⟩
    · rwa [ran]
    · exact impossible.elim
  have makes : ∀ order, order.Perm results → ∀ result ∈ results, ∀ binding ∈ (result.recording root).bindings,
      Accepted ((recoverResults broker root order world).2.performed.drop world.performed.length)
          (rebinding (result.recording root) (recoverResults broker root order world).2.records binding) ↔
        binding ∈ ((restoringRecordings root).restoreAll (Resource.On kept) order).made := by
    intro order perm result member binding holds
    obtain ⟨events, restored⟩ := restores order perm
    rw [restored.performed, List.drop_left, restored.made]
    constructor
    · intro accepted
      exact ⟨result, perm.mem_iff.mpr member, holds, accepted⟩
    · rintro ⟨maker, held, holdsToo, accepted⟩
      rwa [restored.shared.rebinding_eq member holds (perm.mem_iff.mp held) holdsToo]
  constructor
  · intro recovers result member binding holds
    apply (Restoring.made_in_every_order_iff ⟨result, member, holds⟩).mp
    intro order perm
    exact (makes order perm result member binding holds).mp (recovers order perm result member binding holds)
  · intro supported order perm result member binding holds
    apply (makes order perm result member binding holds).mpr
    exact (Restoring.made_in_every_order_iff ⟨result, member, holds⟩).mpr (supported result member binding holds)
      order perm

end

end PerfTestProof
