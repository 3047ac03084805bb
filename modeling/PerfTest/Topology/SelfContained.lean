import PerfTest.Topology.DealtNames
import PerfTest.Topology.RecoveryOrder

namespace PerfTestModel

open Systems

def SelfContained (params : MulticastParams) (before : BrokerTopology) (root : TopologyRecording)
    (results : List TopologyHandlerResult) : Prop :=
  ExchangeThere params before ∨ ∀ result ∈ results, ∀ binding ∈ (result.recording root).bindings,
    binding.exchange ∈ (result.recording root).exchanges

end PerfTestModel

namespace PerfTestProof

open Systems Program PerfTestModel TopologyRecording

def SameBinding (handler : TopologyHandler) (advances : Bool) (start : ℕ) (queues : List String)
    (position other : ℕ) : Prop :=
  position = other ∨ queues[position]? ≠ some "" ∧ queues[position]? = queues[other]? ∧
    routingKeyAt (indexAt handler advances start position) handler =
      routingKeyAt (indexAt handler advances start other) handler

structure ComesBack (params : MulticastParams) (handler : TopologyHandler) (advances : Bool) (start count : ℕ)
    (before kept : BrokerTopology) (queues : List String) (position : ℕ) (queue : String) : Prop where
  exchange : params.exchangeName ∈ kept.exchanges ∨ ¬ ExchangeThere params before ∧
    ∃ other < queues.length, SameBinding handler advances start queues position other ∧ other % count = 0
  queue : queue = "" ∨ queue ∈ kept.queues ∨
    ∃ other < queues.length, SameBinding handler advances start queues position other ∧
      ∃ declarer, queues[declarer]? = some queue ∧ ¬ QueueThere params before queues declarer queue ∧
        declarer % count = other % count

theorem opensEach_live {broker : Broker} {world : World} {connections : List Connection}
    (opens : opensEach broker world connections = true) : ∀ connection ∈ connections, connection ∉ world.closed := by
  induction connections generalizing world with
  | nil => exact List.forall_mem_nil _
  | cons connection connections ih =>
    rw [opensEach, Bool.and_eq_true, Bool.and_eq_true, decide_eq_true_eq] at opens
    rw [List.forall_mem_cons]
    have rest := ih opens.2
    exact ⟨opens.1.1, rest⟩

section

variable {broker : Broker} {params : MulticastParams} {handler : TopologyHandler} {advances : Bool}
  {setup after : Setup} {connections : List Connection} {queues : List String} {check declaration : List Performed}
  {dealt : List DealtQueue} {recordingOf : ℕ → TopologyRecording} {results : List TopologyHandlerResult}
  {before : BrokerTopology} {turn : ℕ} {result : TopologyHandlerResult}

theorem Dealt.at_turn (all : Dealt broker params handler advances setup connections queues check declaration dealt
      recordingOf results after) (found : results[turn]? = some result) :
    turn < connections.length ∧ result.recording after.topologyRecording = recordingOf turn ∧
      result.connection ∉ after.world.closed := by
  obtain ⟨connection, position⟩ := all.results turn result found
  have less : turn < connections.length := (List.getElem?_eq_some_iff.mp connection).1
  refine ⟨less, ?_, ?_⟩
  · rw [TopologyHandlerResult.recording, position, List.getD_eq_getElem?_getD, all.dealing.children turn less]
    rfl
  · rw [all.dealing.closed]
    exact opensEach_live all.opened result.connection (List.mem_of_getElem? connection)

theorem Dealt.of_turn (all : Dealt broker params handler advances setup connections queues check declaration dealt
      recordingOf results after) (less : turn < connections.length) : ∃ result, results[turn]? = some result := by
  rw [← all.length] at less
  exact ⟨results[turn], List.getElem?_eq_getElem less⟩

theorem Dealt.same_turn (all : Dealt broker params handler advances setup connections queues check declaration dealt
      recordingOf results after) {other : ℕ} (found : results[turn]? = some result)
    (again : results[other]? = some result) : turn = other := by
  have first := (all.results turn result found).2
  have second := (all.results other result again).2
  omega

theorem Dealt.nodup (all : Dealt broker params handler advances setup connections queues check declaration dealt
      recordingOf results after) : results.Nodup := by
  rw [List.nodup_iff_getElem?_ne_getElem?]
  intro first second less inside same
  have found : results[second]? = some results[second] := List.getElem?_eq_getElem inside
  rw [found] at same
  exact absurd (all.same_turn same found) (Nat.ne_of_lt less)

/-- A binding of a connection's recording is that of a queue that was dealt to it. -/
theorem Dealt.binding_of (all : Dealt broker params handler advances setup connections queues check declaration dealt
      recordingOf results after) (member : result ∈ results) {binding : RecordedBinding}
    (holds : binding ∈ (result.recording after.topologyRecording).bindings) :
    bindsQueues params = true ∧ ∃ position queue, dealt[position]? = some queue ∧ binding = queue.bound params ∧
      results[position % connections.length]? = some result := by
  obtain ⟨turn, found⟩ := List.mem_iff_getElem?.mp member
  obtain ⟨less, recording, _⟩ := all.at_turn found
  rw [recording, (all.dealing.holds turn less).bindings] at holds
  obtain ⟨binds, queue, ⟨position, at_position, rfl⟩, rfl⟩ := holds
  exact ⟨binds, position, queue, at_position, rfl, found⟩

theorem Dealt.record_of (all : Dealt broker params handler advances setup connections queues check declaration dealt
      recordingOf results after) (member : result ∈ results) {name : String} {record : QueueRef}
    (recorded : (result.recording after.topologyRecording).queues.lookup name = some record) :
    ∃ position queue, dealt[position]? = some queue ∧ queue.found = false ∧ queue.name = name ∧
      after.world.records record = queue.recorded params ∧
      results[position % connections.length]? = some result := by
  obtain ⟨turn, found⟩ := List.mem_iff_getElem?.mp member
  obtain ⟨less, recording, _⟩ := all.at_turn found
  rw [recording] at recorded
  obtain ⟨_, queue, ⟨position, at_position, rfl⟩, missing, named, record⟩ :=
    (all.dealing.holds turn less).records name record recorded
  exact ⟨position, queue, at_position, missing, named, record, found⟩

/-- A queue with a name that no client listed is the server-named one at its position. -/
theorem DealtNames.server_of_unlisted (names : DealtNames params before queues dealt) {position : ℕ}
    {queue : DealtQueue}
    (at_position : dealt[position]? = some queue) : queue.name ∉ queues ↔ queue.requested = "" := by
  constructor
  · intro unlisted
    by_contra named
    obtain ⟨same, inList⟩ := names.client position queue at_position named
    exact unlisted (same ▸ inList)
  · intro server
    exact (names.server position queue at_position server).2.1

theorem Dealt.shared (all : Dealt broker params handler advances setup connections queues check declaration dealt
      recordingOf results after) (names : DealtNames params before queues dealt) :
    SharedOut queues after.topologyRecording results after.world.records := by
  refine ⟨fun result member name record recorded => ?_, ?_, fun result member binding holds unlisted => ?_, ?_⟩
  · obtain ⟨position, queue, at_position, _, rfl, holds, _⟩ := all.record_of member recorded
    have isServer := names.server_of_unlisted at_position
    rw [holds, DealtQueue.recorded]
    constructor
    · intro inList
      have named : queue.requested ≠ "" := fun server => isServer.mpr server inList
      exact ⟨beq_eq_false_iff_ne.mpr named, rfl⟩
    · intro unlisted
      exact beq_iff_eq.mpr (isServer.mp unlisted)
  · intro result member other otherMember name otherName record recorded otherRecorded
    obtain ⟨turn, found⟩ := List.mem_iff_getElem?.mp member
    obtain ⟨otherTurn, otherFound⟩ := List.mem_iff_getElem?.mp otherMember
    obtain ⟨less, recording, _⟩ := all.at_turn found
    obtain ⟨otherLess, otherRecording, _⟩ := all.at_turn otherFound
    rw [recording] at recorded
    rw [otherRecording] at otherRecorded
    obtain ⟨rfl, same⟩ := all.dealing.apart turn less otherTurn otherLess name otherName record recorded otherRecorded
    rw [found] at otherFound
    exact ⟨Option.some.inj otherFound, same⟩
  · obtain ⟨_, position, queue, at_position, rfl, found⟩ := all.binding_of member holds
    obtain ⟨less, recording, _⟩ := all.at_turn found
    have server := (names.server_of_unlisted at_position).mp unlisted
    rw [recording, (all.dealing.holds _ less).queues]
    exact ⟨queue, ⟨position, at_position, rfl⟩, (names.server position queue at_position server).1, rfl⟩
  · intro result member other otherMember binding holds same otherHolds unlisted name
    obtain ⟨_, position, queue, at_position, rfl, found⟩ := all.binding_of member holds
    obtain ⟨_, otherPosition, otherQueue, at_other, rfl, otherFound⟩ := all.binding_of otherMember otherHolds
    have server := (names.server_of_unlisted at_position).mp unlisted
    obtain rfl := names.once position queue at_position server otherPosition otherQueue at_other name.symm
    rw [at_position] at at_other
    rw [found] at otherFound
    rw [Option.some.inj at_other, Option.some.inj otherFound]
    exact ⟨rfl, rfl⟩

theorem Dealt.known (all : Dealt broker params handler advances setup connections queues check declaration dealt
      recordingOf results after) {position : ℕ} {queue : DealtQueue} (at_position : dealt[position]? = some queue)
    (missing : queue.found = false) : Known after.world.performed queue.name := by
  obtain ⟨event, held, declares⟩ := (all.dealing.declares position queue at_position).known missing
  refine ⟨event, ?_, declares⟩
  rw [all.dealing.performed]
  apply List.mem_append_right
  exact List.mem_flatMap.mpr ⟨queue, List.mem_of_getElem? at_position, held⟩

theorem Dealt.named (all : Dealt broker params handler advances setup connections queues check declaration dealt
      recordingOf results after) (names : DealtNames params before queues dealt) :
    Named queues (population after.topologyRecording results) after.world := by
  -- a record in the population is that of a queue that was declared
  have of_record : ∀ record ∈ population after.topologyRecording results, ∃ result ∈ results, ∃ position queue,
      (result.recording after.topologyRecording).queues.lookup queue.name = some record ∧
      dealt[position]? = some queue ∧ queue.found = false ∧ after.world.records record = queue.recorded params ∧
      results[position % connections.length]? = some result := by
    rintro record ⟨result, member, held⟩
    obtain ⟨name, recorded⟩ := mem_values_iff.mp held
    obtain ⟨position, queue, at_position, missing, rfl, holds, found⟩ := all.record_of member recorded
    exact ⟨result, member, position, queue, recorded, at_position, missing, holds, found⟩
  refine ⟨fun record held client => ?_, fun record held server => ?_, ?_⟩
  · obtain ⟨_, _, position, queue, _, at_position, _, holds, _⟩ := of_record record held
    rw [holds, DealtQueue.recorded] at client ⊢
    have named : queue.requested ≠ "" := beq_eq_false_iff_ne.mp client
    obtain ⟨same, inList⟩ := names.client position queue at_position named
    rw [same]
    exact ⟨inList, named⟩
  · obtain ⟨_, _, position, queue, _, at_position, missing, holds, _⟩ := of_record record held
    rw [holds, DealtQueue.recorded] at server ⊢
    exact ⟨(names.server_of_unlisted at_position).mpr (beq_iff_eq.mp server), all.known at_position missing⟩
  · intro record held other otherHeld server same
    obtain ⟨_, _, position, queue, recorded, at_position, _, holds, found⟩ := of_record record held
    obtain ⟨_, _, otherPosition, otherQueue, otherRecorded, at_other, _, otherHolds, otherFound⟩ :=
      of_record other otherHeld
    rw [holds, DealtQueue.recorded] at server
    rw [holds, otherHolds] at same
    obtain rfl := names.once position queue at_position (beq_iff_eq.mp server) otherPosition otherQueue at_other
      same.symm
    rw [at_position] at at_other
    rw [found] at otherFound
    rw [← Option.some.inj at_other, ← Option.some.inj otherFound, recorded] at otherRecorded
    exact Option.some.inj otherRecorded

theorem Dealt.length_eq (all : Dealt broker params handler advances setup connections queues check declaration dealt
      recordingOf results after) : dealt.length = (queuesToConfigure params queues).length := by
  rw [← all.requested, List.length_map]

/-- The exchange is recorded for the first connection only, and not if it was found. -/
theorem Dealt.exchanges_cases (all : Dealt broker params handler advances setup connections queues check declaration
      dealt recordingOf results after) (checks : broker.ChecksBy setup.world.performed before queues)
    (less : turn < connections.length) :
    (turn = 0 ∧ ¬ ExchangeThere params before) ∧ (recordingOf turn).exchanges =
        NameMap.putIfAbsent ∅ params.exchangeName ⟨params.exchangeName, params.exchangeType⟩ ∨
      ¬ (turn = 0 ∧ ¬ ExchangeThere params before) ∧ (recordingOf turn).exchanges = ∅ := by
  have recorded := all.dealing.exchanges turn less
  rw [← exchangeFound_iff all.exchange checks, Bool.not_eq_true]
  split at recorded
  · rename_i here
    rw [Bool.not_eq_true'] at here
    exact .inl ⟨here, recorded⟩
  · rename_i elsewhere
    rw [Bool.not_eq_true'] at elsewhere
    exact .inr ⟨elsewhere, recorded⟩

theorem Dealt.mem_exchanges (all : Dealt broker params handler advances setup connections queues check declaration dealt
      recordingOf results after) (checks : broker.ChecksBy setup.world.performed before queues)
    (less : turn < connections.length) :
    params.exchangeName ∈ (recordingOf turn).exchanges ↔ turn = 0 ∧ ¬ ExchangeThere params before := by
  rcases all.exchanges_cases checks less with ⟨here, recorded⟩ | ⟨elsewhere, none⟩
  · rw [recorded, mem_putIfAbsent]
    exact iff_of_true (.inl rfl) here
  · rw [none]
    exact iff_of_false (AList.notMem_empty _) elsewhere

theorem Dealt.mem_exchange_values (all : Dealt broker params handler advances setup connections queues check declaration
      dealt recordingOf results after) (checks : broker.ChecksBy setup.world.performed before queues)
    (less : turn < connections.length) :
    (∃ exchange ∈ (recordingOf turn).exchanges.values, exchange.name = params.exchangeName) ↔
      turn = 0 ∧ ¬ ExchangeThere params before := by
  rcases all.exchanges_cases checks less with ⟨here, recorded⟩ | ⟨elsewhere, none⟩
  · rw [recorded]
    exact iff_of_true ⟨⟨params.exchangeName, params.exchangeType⟩, List.mem_singleton_self _, rfl⟩ here
  · rw [none]
    apply iff_of_false _ elsewhere
    rintro ⟨exchange, held, _⟩
    cases held

theorem Dealt.mem_queues (all : Dealt broker params handler advances setup connections queues check declaration dealt
      recordingOf results after) (names : DealtNames params before queues dealt) (less : turn < connections.length)
    {name : String} (named : name ≠ "") (inList : name ∈ queues) :
    name ∈ (recordingOf turn).queues ↔ ∃ declarer, (queuesToConfigure params queues)[declarer]? = some name ∧
      ¬ QueueThere params before (queuesToConfigure params queues) declarer name ∧
      declarer % connections.length = turn := by
  rw [(all.dealing.holds turn less).queues, ← all.requested]
  constructor
  · rintro ⟨queue, ⟨declarer, at_declarer, turns⟩, missing, rfl⟩
    have client : queue.requested ≠ "" := by
      intro server
      exact (names.server_of_unlisted at_declarer).mpr server inList
    have same := (names.client declarer queue at_declarer client).1
    refine ⟨declarer, ?_, ?_, turns⟩
    · rw [List.getElem?_map, at_declarer, same]
      rfl
    · rw [same, ← names.found declarer queue at_declarer client, missing]
      exact Bool.false_ne_true
  · rintro ⟨declarer, found, absent, turns⟩
    rw [List.getElem?_map] at found
    obtain ⟨queue, at_declarer, rfl⟩ := Option.map_eq_some_iff.mp found
    refine ⟨queue, ⟨declarer, at_declarer, turns⟩, ?_, (names.client declarer queue at_declarer named).1⟩
    rw [← names.found declarer queue at_declarer named, Bool.not_eq_true] at absent
    exact absent

/-- Queues have the same binding exactly at the positions that are told apart by nothing. -/
theorem Dealt.bound_eq_iff (all : Dealt broker params handler advances setup connections queues check declaration dealt
      recordingOf results after) (names : DealtNames params before queues dealt) (binds : bindsQueues params = true)
    {position other : ℕ} {queue same : DealtQueue} (at_position : dealt[position]? = some queue)
    (at_other : dealt[other]? = some same) : queue.bound params = same.bound params ↔
      SameBinding handler advances setup.index (queuesToConfigure params queues) position other := by
  have routingKey := (all.dealing.binds position queue at_position).routingKey binds
  have otherKey := (all.dealing.binds other same at_other).routingKey binds
  unfold SameBinding
  rw [routingKey, otherKey, Option.some_inj, ← all.requested, List.getElem?_map, List.getElem?_map, at_position,
    at_other]
  change _ ↔ _ ∨ some queue.requested ≠ some "" ∧ some queue.requested = some same.requested ∧ _
  rw [Option.some_inj, ne_eq, Option.some_inj]
  constructor
  · intro equal
    obtain ⟨name, _, key⟩ := RecordedBinding.mk.inj equal
    by_cases server : queue.requested = ""
    · exact .inl (names.once position queue at_position server other same at_other name.symm).symm
    · right
      obtain ⟨named, inList⟩ := names.client position queue at_position server
      have client : same.requested ≠ "" := by
        intro server
        exact (names.server_of_unlisted at_other).mpr server (name ▸ named ▸ inList)
      rw [← named, ← (names.client other same at_other client).1]
      exact ⟨named ▸ server, name, key⟩
  · rintro (rfl | ⟨client, requested, key⟩)
    · rw [at_position] at at_other
      rw [Option.some.inj at_other]
    · have named := (names.client position queue at_position client).1
      have otherNamed := (names.client other same at_other (requested ▸ client)).1
      rw [DealtQueue.bound, DealtQueue.bound, named, otherNamed, requested, key]

theorem Dealt.exists_holder_iff (all : Dealt broker params handler advances setup connections queues check declaration
      dealt recordingOf results after) (names : DealtNames params before queues dealt)
    (binds : bindsQueues params = true) {position : ℕ} {queue : DealtQueue}
    (at_position : dealt[position]? = some queue) (has : TopologyRecording → Prop) :
    (∃ holder ∈ results, queue.bound params ∈ (holder.recording after.topologyRecording).bindings ∧
        has (holder.recording after.topologyRecording)) ↔
      ∃ other < (queuesToConfigure params queues).length,
        SameBinding handler advances setup.index (queuesToConfigure params queues) position other ∧
        has (recordingOf (other % connections.length)) := by
  constructor
  · rintro ⟨holder, member, holds, held⟩
    obtain ⟨_, other, same, at_other, equal, found⟩ := all.binding_of member holds
    refine ⟨other, ?_, (all.bound_eq_iff names binds at_position at_other).mp equal, ?_⟩
    · rw [← all.length_eq]
      exact (List.getElem?_eq_some_iff.mp at_other).1
    · rwa [← (all.at_turn found).2.1]
  · rintro ⟨other, less, sameBinding, held⟩
    rw [← all.length_eq] at less
    have at_other : dealt[other]? = some dealt[other] := List.getElem?_eq_getElem less
    have below : other % connections.length < connections.length := Nat.mod_lt _ all.connected
    obtain ⟨holder, found⟩ := all.of_turn below
    obtain ⟨_, recording, _⟩ := all.at_turn found
    refine ⟨holder, List.mem_of_getElem? found, ?_, by rwa [recording]⟩
    rw [recording, (all.dealing.holds _ below).bindings]
    refine ⟨binds, dealt[other], ⟨other, at_other, rfl⟩, ?_⟩
    exact (all.bound_eq_iff names binds at_position at_other).mpr sameBinding

theorem Dealt.requested_at (all : Dealt broker params handler advances setup connections queues check declaration dealt
      recordingOf results after) {position : ℕ} {requested : String} :
    (queuesToConfigure params queues)[position]? = some requested ↔
      ∃ queue, dealt[position]? = some queue ∧ queue.requested = requested := by
  rw [← all.requested, List.getElem?_map, Option.map_eq_some_iff]

theorem Dealt.selfContained_iff (all : Dealt broker params handler advances setup connections queues check declaration
      dealt recordingOf results after) (checks : broker.ChecksBy setup.world.performed before queues) :
    SelfContained params before after.topologyRecording results ↔
      bindsQueues params = false ∨ ExchangeThere params before ∨ connections.length ≤ 1 ∨
        (queuesToConfigure params queues).length ≤ 1 := by
  constructor
  · rintro (found | contained)
    · exact .inr (.inl found)
    · by_contra! wrong
      obtain ⟨binds, absent, several, more⟩ := wrong
      rw [Bool.ne_false_iff] at binds
      rw [← all.length_eq] at more
      obtain ⟨result, found⟩ := all.of_turn several
      obtain ⟨_, recording, _⟩ := all.at_turn found
      have holds : (dealt[1]).bound params ∈ (recordingOf 1).bindings := by
        rw [(all.dealing.holds 1 several).bindings]
        exact ⟨binds, dealt[1], ⟨1, List.getElem?_eq_getElem more, Nat.mod_eq_of_lt several⟩, rfl⟩
      rw [← recording] at holds
      have recorded := contained result (List.mem_of_getElem? found) _ holds
      rw [recording] at recorded
      exact absurd ((all.mem_exchanges checks several).mp recorded).1 Nat.one_ne_zero
  · intro condition
    by_cases found : ExchangeThere params before
    · exact .inl found
    · right
      intro result member binding holds
      obtain ⟨binds, position, queue, at_position, rfl, at_turn⟩ := all.binding_of member holds
      obtain ⟨less, recording, _⟩ := all.at_turn at_turn
      rw [recording]
      apply (all.mem_exchanges checks less).mpr
      refine ⟨?_, found⟩
      have within := (List.getElem?_eq_some_iff.mp at_position).1
      rw [all.length_eq] at within
      rcases condition with unbound | there | one | few
      · rw [binds] at unbound
        cases unbound
      · exact absurd there found
      · omega
      · rw [show position = 0 by omega, Nat.zero_mod]

theorem Dealt.exchange_provided_iff (all : Dealt broker params handler advances setup connections queues check
      declaration dealt recordingOf results after) (names : DealtNames params before queues dealt)
    (checks : broker.ChecksBy setup.world.performed before queues) (binds : bindsQueues params = true)
    {position : ℕ} {queue : DealtQueue} (at_position : dealt[position]? = some queue) :
    (∃ holder ∈ results, queue.bound params ∈ (holder.recording after.topologyRecording).bindings ∧
      Resource.exchange params.exchangeName ∈ Resource.In (holder.recording after.topologyRecording)) ↔
      ¬ ExchangeThere params before ∧ ∃ other < (queuesToConfigure params queues).length,
        SameBinding handler advances setup.index (queuesToConfigure params queues) position other ∧
        other % connections.length = 0 := by
  have below : ∀ other, other % connections.length < connections.length := fun other => Nat.mod_lt _ all.connected
  rw [all.exists_holder_iff names binds at_position fun recording =>
    Resource.exchange params.exchangeName ∈ Resource.In recording]
  constructor
  · rintro ⟨other, less, same, held⟩
    obtain ⟨first, absent⟩ := (all.mem_exchange_values checks (below other)).mp held
    exact ⟨absent, other, less, same, first⟩
  · rintro ⟨absent, other, less, same, first⟩
    exact ⟨other, less, same, (all.mem_exchange_values checks (below other)).mpr ⟨first, absent⟩⟩

theorem Dealt.queue_provided_iff (all : Dealt broker params handler advances setup connections queues check
      declaration dealt recordingOf results after) (names : DealtNames params before queues dealt)
    (binds : bindsQueues params = true) {position : ℕ} {queue : DealtQueue}
    (at_position : dealt[position]? = some queue) (client : queue.requested ≠ "") :
    (∃ holder ∈ results, queue.bound params ∈ (holder.recording after.topologyRecording).bindings ∧
      Resource.queue queue.requested ∈ Resource.In (holder.recording after.topologyRecording)) ↔
      ∃ other < (queuesToConfigure params queues).length,
        SameBinding handler advances setup.index (queuesToConfigure params queues) position other ∧
        ∃ declarer, (queuesToConfigure params queues)[declarer]? = some queue.requested ∧
          ¬ QueueThere params before (queuesToConfigure params queues) declarer queue.requested ∧
          declarer % connections.length = other % connections.length := by
  rw [all.exists_holder_iff names binds at_position fun recording =>
    Resource.queue queue.requested ∈ Resource.In recording]
  apply exists_congr
  intro other
  apply and_congr_right
  intro _
  apply and_congr_right
  intro _
  exact all.mem_queues names (Nat.mod_lt _ all.connected) client (names.client position queue at_position client).2

/-- A queue that the broker named comes back with the only recording that binds it. -/
theorem Dealt.server_provided (all : Dealt broker params handler advances setup connections queues check
      declaration dealt recordingOf results after) (names : DealtNames params before queues dealt)
    (binds : bindsQueues params = true) {position : ℕ} {queue : DealtQueue}
    (at_position : dealt[position]? = some queue) (server : queue.requested = "") :
    ∃ holder ∈ results, queue.bound params ∈ (holder.recording after.topologyRecording).bindings ∧
      Resource.queue queue.name ∈ Resource.In (holder.recording after.topologyRecording) := by
  apply (all.exists_holder_iff names binds at_position fun recording =>
    Resource.queue queue.name ∈ Resource.In recording).mpr
  refine ⟨position, ?_, .inl rfl, ?_⟩
  · rw [← all.length_eq]
    exact (List.getElem?_eq_some_iff.mp at_position).1
  · apply ((all.dealing.holds _ (Nat.mod_lt _ all.connected)).queues queue.name).mpr
    exact ⟨queue, ⟨position, at_position, rfl⟩, (names.server position queue at_position server).1, rfl⟩

theorem Dealt.supported_iff (all : Dealt broker params handler advances setup connections queues check declaration dealt
      recordingOf results after) (names : DealtNames params before queues dealt)
    (checks : broker.ChecksBy setup.world.performed before queues) (binds : bindsQueues params = true)
    {kept : BrokerTopology} {position : ℕ} {queue : DealtQueue} (at_position : dealt[position]? = some queue) :
    (restoringRecordings after.topologyRecording).Supported (Resource.On kept) results (queue.bound params) ↔
      ComesBack params handler advances setup.index connections.length before kept (queuesToConfigure params queues)
        position queue.requested := by
  have exchange := all.exchange_provided_iff names checks binds at_position
  constructor
  · intro supported
    refine ⟨(supported (.exchange params.exchangeName) (.inl rfl)).imp id exchange.mp, ?_⟩
    by_cases server : queue.requested = ""
    · exact .inl server
    · have back := supported (.queue queue.name) (.inr rfl)
      rw [(names.client position queue at_position server).1] at back
      exact .inr (back.imp id (all.queue_provided_iff names binds at_position server).mp)
  · rintro ⟨exchangeBack, queueBack⟩ resource (rfl | rfl)
    · exact exchangeBack.imp id exchange.mpr
    · by_cases server : queue.requested = ""
      · exact .inr (all.server_provided names binds at_position server)
      · change Resource.queue queue.name ∈ _ ∨ ∃ holder ∈ results, _ ∧ Resource.queue queue.name ∈ _
        rw [(names.client position queue at_position server).1]
        exact (queueBack.resolve_left server).imp id (all.queue_provided_iff names binds at_position server).mpr

/-- Distinct queues are each bound by one connection, so all have to be dealt to the first. -/
theorem comesBack_iff_of_nodup {count start : ℕ} {kept : BrokerTopology} (declared : params.predeclared = false)
    (distinct : queues.Nodup) (lost : params.exchangeName ∉ kept.exchanges) :
    (∀ position queue, queues[position]? = some queue →
      ComesBack params handler advances start count before kept queues position queue) ↔
      count = 1 ∨ queues.length ≤ 1 := by
  have absent : ¬ ExchangeThere params before := by
    rintro ⟨predeclared, _⟩
    rw [declared] at predeclared
    cases predeclared
  constructor
  · intro comesBack
    by_contra! wrong
    obtain ⟨several, more⟩ := wrong
    have found : queues[1]? = some queues[1] := List.getElem?_eq_getElem more
    obtain ⟨_, other, less, same, first⟩ := (comesBack 1 _ found).exchange.resolve_left lost
    have here : other = 1 := by
      rcases same with same | ⟨_, same, _⟩
      · exact same.symm
      · exact ((List.getElem?_inj more distinct).mp same).symm
    rw [here] at first
    have divides := Nat.dvd_of_mod_eq_zero first
    exact several (Nat.dvd_one.mp divides)
  · intro few position queue found
    have less := (List.getElem?_eq_some_iff.mp found).1
    have first : position % count = 0 := by
      rcases few with one | few
      · rw [one, Nat.mod_one]
      · rw [show position = 0 by omega, Nat.zero_mod]
    refine ⟨.inr ⟨absent, position, less, .inl rfl, first⟩,
      .inr (.inr ⟨position, less, .inl rfl, position, found, ?_, rfl⟩)⟩
    rintro ⟨predeclared, _⟩
    rw [declared] at predeclared
    cases predeclared

/-- The recordings of the connections are self-contained exactly if there is no binding, or the exchange was
    found, or there is one connection or one queue at most. After what they declared was lost they bring every
    binding back, in whichever order the connections come back, exactly if each binding comes back with the
    connections that bound it. -/
theorem recordings_self_contained_iff (broker restored : Broker) (params : MulticastParams)
    (handler : TopologyHandler) (advances : Bool) (connections : List Connection) (queues : List String)
    (setup after : Setup) (results : List TopologyHandlerResult) (before kept : BrokerTopology)
    (nameless : "" ∉ before.queues) (checks : broker.ChecksBy setup.world.performed before queues)
    (configured : configureQueues broker params handler connections queues (afterQueue handler advances) setup =
      (.ok results, after))
    (answers : restored.AnswersBy after.world.performed kept queues) :
    (SelfContained params before after.topologyRecording results ↔
      bindsQueues params = false ∨ ExchangeThere params before ∨ connections.length ≤ 1 ∨
        (queuesToConfigure params queues).length ≤ 1) ∧
    (RecoversBindings restored after.topologyRecording results after.world ↔
      (bindsQueues params = true → ∀ position queue, (queuesToConfigure params queues)[position]? = some queue →
        ComesBack params handler advances setup.index connections.length before kept
          (queuesToConfigure params queues) position queue)) := by
  have ends := configureQueues_ends broker params handler advances connections queues setup
  rw [ends_of_return configured] at ends
  obtain ⟨check, declaration, dealt, recordingOf, all⟩ := ends
  have names := all.dealing.names all.exchange checks nameless all.requested
  apply And.intro (all.selfContained_iff checks)
  have live : ∀ result ∈ results, result.connection ∉ after.world.closed := by
    intro result member
    obtain ⟨turn, found⟩ := List.mem_iff_getElem?.mp member
    exact (all.at_turn found).2.2
  rw [recoversBindings_iff answers (all.named names) (all.shared names) all.nodup live]
  constructor
  · intro supported binds position requested found
    obtain ⟨queue, at_position, rfl⟩ := all.requested_at.mp found
    rw [← all.supported_iff names checks binds at_position]
    have below : position % connections.length < connections.length := Nat.mod_lt _ all.connected
    obtain ⟨result, at_turn⟩ := all.of_turn below
    apply supported result (List.mem_of_getElem? at_turn)
    rw [(all.at_turn at_turn).2.1, (all.dealing.holds _ below).bindings]
    exact ⟨binds, queue, ⟨position, at_position, rfl⟩, rfl⟩
  · intro condition result member binding holds
    obtain ⟨binds, position, queue, at_position, rfl, _⟩ := all.binding_of member holds
    rw [all.supported_iff names checks binds at_position]
    exact condition binds position queue.requested (all.requested_at.mpr ⟨queue, at_position, rfl⟩)

end

def orderQueues : List String := ["orders-1", "orders-2"]

def orderQueuesRun (connections : List Connection) : Except Failure (List TopologyHandlerResult) × Setup :=
  configureQueues (keepingBroker [] ⟨∅, ∅⟩ orderQueues) (ordersParams "orders") (.fixedQueues "key" orderQueues)
    connections orderQueues (afterQueue (.fixedQueues "key" orderQueues) false)
    (Setup.init (ordersParams "orders") World.start)

def orderQueuesLost (connections : List Connection) : Broker :=
  keepingBroker (orderQueuesRun connections).2.world.performed ⟨∅, ∅⟩ orderQueues

theorem orderQueues_checks : (keepingBroker [] ⟨∅, ∅⟩ orderQueues).ChecksBy [] ⟨∅, ∅⟩ orderQueues :=
  (keepingBroker_answers [] (by simp)).toChecksBy

theorem orderQueuesLost_answers (connections : List Connection) :
    (orderQueuesLost connections).AnswersBy (orderQueuesRun connections).2.world.performed ⟨∅, ∅⟩ orderQueues :=
  keepingBroker_answers _ (by simp)

/-- Over one connection, everything comes back. -/
theorem recordings_self_contained_one : ∃ results, orderQueuesRun [0] = (.ok results, (orderQueuesRun [0]).2) ∧
    SelfContained (ordersParams "orders") ⟨∅, ∅⟩ (orderQueuesRun [0]).2.topologyRecording results ∧
    RecoversBindings (orderQueuesLost [0]) (orderQueuesRun [0]).2.topologyRecording results
      (orderQueuesRun [0]).2.world := by
  have returned : (orderQueuesRun [0]).1 = .ok [⟨0, 0, orderQueues⟩] := by decide +kernel
  have ran : orderQueuesRun [0] = (.ok [⟨0, 0, orderQueues⟩], (orderQueuesRun [0]).2) := by
    rw [← returned]
  obtain ⟨contained, recovers⟩ := recordings_self_contained_iff _ (orderQueuesLost [0]) (ordersParams "orders")
    (.fixedQueues "key" orderQueues) false [0] orderQueues _ _ _ ⟨∅, ∅⟩ ⟨∅, ∅⟩ (by decide)
    orderQueues_checks ran (orderQueuesLost_answers _)
  refine ⟨_, ran, contained.mpr (.inr (.inr (.inl (Nat.le_refl 1)))), recovers.mpr fun _ => ?_⟩
  exact (comesBack_iff_of_nodup rfl (by decide) (by decide)).mpr (.inl rfl)

/-- The second of two connections has a binding without its exchange. When it comes back first, the binding
    is not made. -/
theorem binding_not_recovered :
    (¬ ∀ (broker : Broker) (params : MulticastParams) (handler : TopologyHandler) (advances : Bool)
      (connections : List Connection) (queues : List String) (setup after : Setup)
      (results : List TopologyHandlerResult) (before : BrokerTopology),
      params.exclusive = false → params.skipBindingQueues = false → "" ∉ before.queues →
      broker.ChecksBy setup.world.performed before queues →
      configureQueues broker params handler connections queues (afterQueue handler advances) setup =
        (.ok results, after) →
      SelfContained params before after.topologyRecording results) ∧
    ¬ ∀ (broker restored : Broker) (params : MulticastParams) (handler : TopologyHandler) (advances : Bool)
      (connections : List Connection) (queues : List String) (setup after : Setup)
      (results : List TopologyHandlerResult) (before kept : BrokerTopology),
      params.exclusive = false → params.skipBindingQueues = false → "" ∉ before.queues →
      broker.ChecksBy setup.world.performed before queues →
      configureQueues broker params handler connections queues (afterQueue handler advances) setup =
        (.ok results, after) →
      ¬ ExchangeThere params before → restored.AnswersBy after.world.performed kept queues →
      RecoversBindings restored after.topologyRecording results after.world := by
  have returned : (orderQueuesRun [0, 1]).1 = .ok [⟨0, 0, ["orders-1"]⟩, ⟨1, 1, ["orders-2"]⟩] := by decide +kernel
  have ran : orderQueuesRun [0, 1] =
      (.ok [⟨0, 0, ["orders-1"]⟩, ⟨1, 1, ["orders-2"]⟩], (orderQueuesRun [0, 1]).2) := by
    rw [← returned]
  have absent : ¬ ExchangeThere (ordersParams "orders") ⟨∅, ∅⟩ := fun there => Bool.false_ne_true there.1
  constructor
  · intro always
    rcases always _ _ _ _ _ _ _ _ _ ⟨∅, ∅⟩ rfl rfl (by decide) orderQueues_checks ran with there | contained
    · exact absent there
    · have recorded := contained ⟨1, 1, ["orders-2"]⟩ (by decide) ⟨"orders-2", "orders", "key"⟩ (by decide +kernel)
      revert recorded
      decide +kernel
  · intro always
    have recovers := always _ (orderQueuesLost [0, 1]) _ _ _ _ _ _ _ _ ⟨∅, ∅⟩ ⟨∅, ∅⟩ rfl rfl (by decide)
      orderQueues_checks ran absent (orderQueuesLost_answers _)
    have made := recovers [⟨1, 1, ["orders-2"]⟩, ⟨0, 0, ["orders-1"]⟩] (List.Perm.swap _ _ _)
      ⟨1, 1, ["orders-2"]⟩ (by decide) ⟨"orders-2", "orders", "key"⟩ (by decide +kernel)
    revert made
    decide +kernel

end PerfTestProof
