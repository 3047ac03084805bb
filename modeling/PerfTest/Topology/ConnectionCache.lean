import PerfTest.Systems.FirstCome
import PerfTest.Topology.ClientConfiguration

namespace PerfTestProof

open Systems Program FirstCome PerfTestModel TopologyHandler

def requestFor (connection : Connection) (queues : List String) : List (Request Connection String) :=
  if queues = [] then [] else [⟨connection, listToString queues⟩]

def requests (handler : TopologyHandler) (channels count : ℕ) : List (Request Connection String) :=
  (List.range count).flatMap fun index => requestFor (index / channels) (requested handler index)

theorem requests_succ (handler : TopologyHandler) (channels count : ℕ) :
    requests handler channels (count + 1) =
      requests handler channels count ++ requestFor (count / channels) (requested handler count) := by
  rw [requests, List.range_succ, List.flatMap_append, List.flatMap_singleton, requests]

theorem requests_prefix (handler : TopologyHandler) (channels : ℕ) {first count : ℕ} (bound : first ≤ count) :
    ∃ later, requests handler channels count = requests handler channels first ++ later := by
  obtain ⟨more, rfl⟩ := Nat.exists_eq_add_of_le bound
  rw [requests, List.range_add, List.flatMap_append]
  exact ⟨_, rfl⟩

theorem mem_requestFor {connection : Connection} {queues : List String} {request : Request Connection String} :
    request ∈ requestFor connection queues ↔ queues ≠ [] ∧ request = ⟨connection, listToString queues⟩ := by
  unfold requestFor
  split
  · rename_i empty
    simp only [List.not_mem_nil, empty, ne_eq, not_true_eq_false, false_and]
  · rename_i some
    rw [List.mem_singleton]
    exact (and_iff_right some).symm

theorem request_made (connection : Connection) {queues : List String} (asks : queues ≠ []) :
    ⟨connection, listToString queues⟩ ∈ requestFor connection queues := mem_requestFor.mpr ⟨asks, rfl⟩

theorem mem_requests {handler : TopologyHandler} {channels count : ℕ} {request : Request Connection String} :
    request ∈ requests handler channels count ↔ ∃ index < count, requested handler index ≠ [] ∧
      request = ⟨index / channels, listToString (requested handler index)⟩ := by
  simp only [requests, List.mem_flatMap, List.mem_range, mem_requestFor]

theorem requested_sequence (queues : List String) (routingKey : Option String) (index : ℕ) :
    requested (.sequence queues routingKey) index = [] ∧ queues = [] ∨
      ∃ queue ∈ queues, requested (.sequence queues routingKey) index = [queue] := by
  rw [requested]
  cases found : queues[index % queues.length]? with
  | some queue => exact .inr ⟨queue, List.mem_of_getElem? found, rfl⟩
  | none =>
    refine .inl ⟨rfl, ?_⟩
    by_contra some
    have bound := Nat.mod_lt index (List.length_pos_of_ne_nil some)
    exact absurd (List.getElem?_eq_none_iff.mp found) (Nat.not_le.mpr bound)

theorem requested_empty {handler : TopologyHandler} {index : ℕ} (empty : requested handler index = [])
    (other : ℕ) : requested handler other = [] := by
  cases handler with
  | fixedQueues routingKey queueNames => exact empty
  | sequence queues routingKey =>
    rcases requested_sequence queues routingKey index with ⟨_, rfl⟩ | ⟨queue, _, one⟩
    · rfl
    · rw [empty] at one
      cases one

theorem listToString_requested {handler : TopologyHandler} {first second : ℕ}
    (same : listToString (requested handler first) = listToString (requested handler second)) :
    requested handler first = requested handler second := by
  cases handler with
  | fixedQueues routingKey queueNames => rfl
  | sequence queues routingKey =>
    rcases requested_sequence queues routingKey first with ⟨_, rfl⟩ | ⟨one, _, asked⟩
    · rfl
    · rcases requested_sequence queues routingKey second with ⟨_, rfl⟩ | ⟨two, _, askedNext⟩
      · rfl
      · rw [asked, askedNext] at same ⊢
        have stripped : "[" ++ one ++ "]" = "[" ++ two ++ "]" := same
        rw [String.append_left_inj, String.append_right_inj] at stripped
        rw [stripped]

/-- A request is served by the connection of the thread whose consumer made the first one like it. -/
theorem holder_requests {handler : TopologyHandler} {channels count index : ℕ} (below : index < count)
    (asks : requested handler index ≠ []) :
    ∃ first ≤ index, requested handler first = requested handler index ∧
      holder (requests handler channels count) (listToString (requested handler index)) =
        some (first / channels) := by
  have member : (⟨index / channels, listToString (requested handler index)⟩ : Request Connection String) ∈
      requests handler channels (index + 1) := mem_requests.mpr ⟨index, Nat.lt_succ_self index, asks, rfl⟩
  obtain ⟨connection, held⟩ := Option.isSome_iff_exists.mp (holder_isSome member)
  obtain ⟨later, split⟩ := requests_prefix handler channels (Nat.succ_le_of_lt below)
  obtain ⟨request, asked, key, rfl⟩ := exists_of_holder held
  obtain ⟨first, bound, _, rfl⟩ := mem_requests.mp asked
  refine ⟨first, Nat.le_of_lt_succ bound, listToString_requested key, ?_⟩
  rw [split]
  exact holder_append_of_some held later

/-- In a sound run, a consumer of a thread with several channels is served by its own connection. -/
theorem own_connection {handler : TopologyHandler} {threads channels index : ℕ}
    (sound : Sound (requests handler channels (threads * channels))) (several : 1 < channels)
    (below : index < threads * channels) (asks : requested handler index ≠ []) :
    holder (requests handler channels (threads * channels)) (listToString (requested handler index)) =
      some (index / channels) := by
  have positive : 0 < channels := Nat.lt_of_succ_lt several
  have thread : (index / channels + 1) * channels ≤ threads * channels :=
    Nat.mul_le_mul_right channels (Nat.div_lt_of_lt_mul (Nat.mul_comm threads channels ▸ below))
  rw [Nat.succ_mul] at thread
  -- another consumer of the same thread
  obtain ⟨other, otherBelow, different, same⟩ : ∃ other < threads * channels, other ≠ index ∧
      other / channels = index / channels := by
    by_cases first : index = index / channels * channels
    · refine ⟨index / channels * channels + 1, by omega, by omega, ?_⟩
      rw [Nat.add_comm, Nat.add_mul_div_right _ _ positive, Nat.div_eq_of_lt several, Nat.zero_add]
    · exact ⟨index / channels * channels, by omega, fun equal => first equal.symm,
        Nat.mul_div_cancel _ positive⟩
  have otherAsks : requested handler other ≠ [] := fun empty => asks (requested_empty empty index)
  have pairs := (List.pairwise_flatMap.mp (sound_iff.mp sound)).2
  have ordered := List.pairwise_iff_getElem.mp pairs
  simp only [List.length_range, List.getElem_range] at ordered
  have mine := request_made (index / channels) asks
  have others := request_made (other / channels) otherAsks
  rcases Nat.lt_or_gt_of_ne different with before | after
  · exact (ordered other index otherBelow below before _ others _ mine same).2
  · exact (ordered index other below otherBelow after _ mine _ others same.symm).1

theorem sound_requests (handler : TopologyHandler) (threads channels : ℕ) :
    Sound (requests handler channels (threads * channels)) ↔
      channels ≤ 1 ∨ ∀ first second, first < threads * channels → second < threads * channels →
        first / channels ≠ second / channels → requested handler first = requested handler second →
        requested handler first = [] := by
  constructor
  · intro sound
    refine or_iff_not_imp_left.mpr fun several first second firstBelow secondBelow apart same => ?_
    by_contra asks
    have mine := own_connection sound (Nat.lt_of_not_le several) firstBelow asks
    have other := own_connection sound (Nat.lt_of_not_le several) secondBelow (same ▸ asks)
    rw [← same, mine, Option.some_inj] at other
    exact apart other
  · intro apart
    refine sound_iff.mpr (List.pairwise_flatMap.mpr ⟨fun index _ => ?_, ?_⟩)
    · rw [requestFor]
      split
      · exact .nil
      · exact List.pairwise_singleton _ _
    · refine List.pairwise_lt_range.imp_of_mem fun {first second} firstBelow secondBelow before => ?_
      rintro one oneAsked two twoAsked same
      obtain ⟨firstAsks, rfl⟩ := mem_requestFor.mp oneAsked
      obtain ⟨secondAsks, rfl⟩ := mem_requestFor.mp twoAsked
      rcases apart with single | apart
      · rcases Nat.le_one_iff_eq_zero_or_eq_one.mp single with rfl | rfl
        · cases List.mem_range.mp firstBelow
        · have equal : first / 1 = second / 1 := same
          rw [Nat.div_one, Nat.div_one] at equal
          exact absurd equal (Nat.ne_of_lt before)
      · have granted : ∀ index < threads * channels, requested handler index ≠ [] →
            holder (requests handler channels (threads * channels)) (listToString (requested handler index)) =
              some (index / channels) := by
          intro index below asks
          obtain ⟨earlier, bound, alike, held⟩ := holder_requests below asks
          rw [held]
          by_contra other
          exact asks (alike ▸ apart earlier index (Nat.lt_of_le_of_lt bound below) below
            (fun equal => other (congrArg some equal)) alike)
        exact ⟨granted first (List.mem_range.mp firstBelow) firstAsks,
          granted second (List.mem_range.mp secondBelow) secondAsks⟩

def Uses (handler : TopologyHandler) (requests : List (Request Connection String)) (queues : List String)
    (connection : Connection) : Prop :=
  (∃ index, queues = requested handler index) ∧
    (queues ≠ [] → holder requests (listToString queues) = some connection)

theorem Uses.append {handler : TopologyHandler} {requests : List (Request Connection String)}
    {queues : List String} {connection : Connection} (uses : Uses handler requests queues connection)
    (later : List (Request Connection String)) : Uses handler (requests ++ later) queues connection :=
  ⟨uses.1, fun some => holder_append_of_some (uses.2 some) later⟩

structure ServesAll (broker : Broker) (handler : TopologyHandler) (requests : List (Request Connection String))
    (setup : Setup) : Prop where
  cache : ∀ name, setup.connectionCache.lookup name = holder requests name
  closed : setup.world.closed = returned requests
  consumers : ∀ consumer ∈ setup.consumers, ∃ queues,
    Uses handler requests queues consumer.channel.connection ∧
      ∀ name ∈ consumer.queueNames, NameFor consumer.channel.connection queues name setup.world
  events : ∀ event ∈ setup.world.performed, ∃ queues,
    Uses handler requests queues event.channel.connection ∧
      ∀ queue, declarationName event.operation = some queue → queue = "" ∨ queue ∈ queues
  truthful : Truthful broker setup.world.performed

namespace ServesAll

variable {broker : Broker} {handler : TopologyHandler} {earlier : List (Request Connection String)}
  {setup after : Setup} {queues : List String} {connection : Connection}

theorem append (serves : ServesAll broker handler earlier setup) (later : List (Request Connection String))
    (cache : ∀ name, after.connectionCache.lookup name = holder (earlier ++ later) name)
    (closed : after.world.closed = returned (earlier ++ later))
    (performed : after.world.performed = setup.world.performed)
    (consumers : after.consumers = setup.consumers) : ServesAll broker handler (earlier ++ later) after := by
  refine ⟨cache, closed, ?_, ?_, performed ▸ serves.truthful⟩
  · intro consumer member
    obtain ⟨queues, uses, names⟩ := serves.consumers consumer (consumers ▸ member)
    refine ⟨queues, uses.append later, fun name held => ?_⟩
    rw [NameFor, performed]
    exact names name held
  · intro event member
    obtain ⟨queues, uses, names⟩ := serves.events event (performed ▸ member)
    exact ⟨queues, uses.append later, names⟩

theorem configures (serves : ServesAll broker handler earlier setup)
    (uses : Uses handler earlier queues connection) (configures : Configures broker connection queues setup after) :
    ServesAll broker handler earlier after := by
  obtain ⟨events, performed, issued⟩ := configures.world.performed
  refine ⟨fun name => configures.connectionCache ▸ serves.cache name,
    configures.world.closed.trans serves.closed, ?_, ?_, configures.world.truthful serves.truthful⟩
  · intro consumer member
    obtain ⟨queues, uses, names⟩ := serves.consumers consumer (configures.consumers ▸ member)
    exact ⟨queues, uses, fun name held => (names name held).performs configures.world⟩
  · intro event member
    rw [performed] at member
    rcases List.mem_append.mp member with before | new
    · exact serves.events event before
    · obtain ⟨rfl, names⟩ := issued event new
      exact ⟨queues, uses, names⟩

/-- What the cache does is what the first-come cache does with one more request. -/
theorem maybeUseCachedConnection (serves : ServesAll broker handler earlier setup) (connection : Connection)
    (asked : ∃ index, queues = requested handler index) :
    (PerfTestModel.maybeUseCachedConnection queues connection).ends
      (fun connectionToUse after => ServesAll broker handler (earlier ++ requestFor connection queues) after ∧
        Uses handler (earlier ++ requestFor connection queues) queues connectionToUse ∧
        after.index = setup.index ∧ after.connectionCount = setup.connectionCount)
      (fun _ after => ServesAll broker handler (earlier ++ requestFor connection queues) after ∧
        ¬ Sound (earlier ++ requestFor connection queues)) setup := by
  unfold PerfTestModel.maybeUseCachedConnection
  by_cases empty : queues = []
  · subst empty
    rw [requestFor, if_pos rfl, List.append_nil]
    exact ⟨serves, ⟨asked, fun some => absurd rfl some⟩, rfl, rfl⟩
  · rw [if_neg (mt List.isEmpty_iff.mp empty), requestFor, if_neg empty, ends_bind, ends_get, serves.cache]
    cases held : holder earlier (listToString queues) with
    | none =>
      have first : holder (earlier ++ [⟨connection, listToString queues⟩]) (listToString queues) =
          some connection := by
        rw [holder_append, held, Option.none_or, holder_singleton, if_pos rfl]
      refine ⟨serves.append _ (fun name => ?_) ?_ rfl rfl, ⟨asked, fun _ => first⟩, rfl, rfl⟩
      · by_cases same : name = listToString queues
        · rw [same, first]
          exact AList.lookup_insert _
        · rw [holder_append, holder_singleton, if_neg (Ne.symm same), Option.or_none, ← serves.cache]
          exact AList.lookup_insert_ne same
      · exact serves.closed.trans (returned_first held).symm
    | some connectionToUse =>
      have still := holder_append_of_some held [⟨connection, listToString queues⟩]
      have cache : ∀ name, setup.connectionCache.lookup name =
          holder (earlier ++ [⟨connection, listToString queues⟩]) name := fun name => by
        rw [serves.cache, holder_append, holder_singleton]
        split
        · rename_i same
          rw [← same, held, Option.some_or]
        · rw [Option.or_none]
      have closes : returned (earlier ++ [⟨connection, listToString queues⟩]) =
          if connection = connectionToUse then returned earlier else returned earlier ++ [connection] :=
        returned_later held
      dsimp only
      split
      · rename_i other
        rw [if_neg other] at closes
        have closed : setup.world.closed ++ [connection] =
            returned (earlier ++ [⟨connection, listToString queues⟩]) := by rw [closes, serves.closed]
        simp only [ends_bind, ends_pure, onBroker, closeConnection, ends_within, ends_get, ends_set, ends_ite,
          ends_throw]
        split
        · rename_i twice
          refine ⟨serves.append _ cache closed rfl rfl, fun sound => ?_⟩
          have nodup := sound.once
          rw [← closed] at nodup
          exact (List.nodup_append.mp nodup).2.2 connection twice connection (List.mem_singleton_self _) rfl
        · exact ⟨serves.append _ cache closed rfl rfl, ⟨asked, fun _ => still⟩, trivial, trivial⟩
      · rename_i same
        rw [if_pos (not_not.mp same)] at closes
        exact ⟨serves.append _ cache (serves.closed.trans closes.symm) rfl rfl, ⟨asked, fun _ => still⟩, rfl, rfl⟩

end ServesAll

def AtTurn (handler : TopologyHandler) (count : ℕ) (setup : Setup) : Prop :=
  match handler with
  | .fixedQueues .. => True
  | .sequence .. => setup.index = count

theorem AtTurn.requested {handler : TopologyHandler} {count : ℕ} {setup : Setup}
    (turn : AtTurn handler count setup) : requested handler setup.index = PerfTestProof.requested handler count := by
  cases handler with
  | fixedQueues routingKey queueNames => rfl
  | sequence queues routingKey => rw [show setup.index = count from turn]

structure Created (broker : Broker) (handler : TopologyHandler) (channels connections count : ℕ)
    (setup : Setup) : Prop where
  serves : ServesAll broker handler (requests handler channels count) setup
  turn : AtTurn handler count setup
  connections : setup.connectionCount = connections

structure Stopped (broker : Broker) (handler : TopologyHandler) (channels count : ℕ) (setup : Setup) : Prop where
  serves : ServesAll broker handler (requests handler channels count) setup
  unsound : broker.Accepts → Sound (requests handler channels count) → ∀ index, requested handler index = []

section

variable {broker : Broker} {params : MulticastParams} {handler : TopologyHandler} {setup : Setup}
  {channels connections count : ℕ} {connection : Connection}

/-- The connection that a client is served by was not closed, if the cache is sound. -/
theorem open_of_uses {queues : List String} (serves : ServesAll broker handler (requests handler channels count) setup)
    (sound : Sound (requests handler channels count))
    (uses : Uses handler (requests handler channels count) queues connection) :
    connection ∉ setup.world.closed := by
  rw [serves.closed]
  by_cases empty : queues = []
  · obtain ⟨index, rfl⟩ := uses.1
    have nothing : requests handler channels count = [] := by
      refine List.eq_nil_iff_forall_not_mem.mpr fun request member => ?_
      obtain ⟨other, _, asks, _⟩ := mem_requests.mp member
      exact asks (requested_empty empty other)
    rw [nothing]
    exact List.not_mem_nil
  · exact sound.held _ connection (uses.2 empty)

theorem stopped_of_unserved {queues : List String}
    (serves : ServesAll broker handler (requests handler channels count) setup)
    (uses : Uses handler (requests handler channels count) queues connection)
    (unserved : Unserved broker handler connection setup) : Stopped broker handler channels count setup := by
  refine ⟨serves, fun accepts sound => ?_⟩
  rcases unserved accepts with closed | empty
  · exact absurd closed (open_of_uses serves sound uses)
  · exact requested_empty empty

structure ConfiguredFor (broker : Broker) (handler : TopologyHandler) (channels connections count : ℕ)
    (result : TopologyHandlerResult) (setup : Setup) : Prop where
  serves : ServesAll broker handler (requests handler channels (count + 1)) setup
  turn : AtTurn handler count setup
  connections : setup.connectionCount = connections
  uses : Uses handler (requests handler channels (count + 1)) (requested handler count) result.connection
  names : ∀ name ∈ result.configuredQueues,
    NameFor result.connection (requested handler count) name setup.world

theorem AtTurn.same_index {after : Setup} (turn : AtTurn handler count setup)
    (same : after.index = setup.index) : AtTurn handler count after := by
  cases handler with
  | fixedQueues routingKey queueNames => trivial
  | sequence queues routingKey => exact same.trans turn

theorem ConfiguredFor.configures {result : TopologyHandlerResult} {after : Setup}
    (configured : ConfiguredFor broker handler channels connections count result setup)
    (configures : Configures broker result.connection (requested handler count) setup after) :
    ConfiguredFor broker handler channels connections count result after :=
  ⟨configured.serves.configures configured.uses configures, configured.turn.same_index configures.index,
    configures.connectionCount.trans configured.connections, configured.uses, fun name member =>
      (configured.names name member).performs configures.world⟩

theorem ConfiguredFor.created {result : TopologyHandlerResult} {consumer : CreatedConsumer}
    (configured : ConfiguredFor broker handler channels connections count result setup)
    (on : consumer.channel.connection = result.connection)
    (queues : consumer.queueNames = result.configuredQueues) :
    handler.next.ends (fun _ => Created broker handler channels connections (count + 1))
      (fun _ _ => False) { setup with consumers := setup.consumers ++ [consumer] } := by
  have serves : ServesAll broker handler (requests handler channels (count + 1))
      { setup with consumers := setup.consumers ++ [consumer] } := by
    refine ⟨configured.serves.cache, configured.serves.closed, fun other member => ?_,
      configured.serves.events, configured.serves.truthful⟩
    rcases List.mem_append.mp member with before | new
    · exact configured.serves.consumers other before
    · rw [List.mem_singleton.mp new, on, queues]
      exact ⟨_, configured.uses, configured.names⟩
  cases handler with
  | fixedQueues routingKey queueNames => exact ⟨serves, trivial, configured.connections⟩
  | sequence names routingKey =>
    refine ⟨⟨serves.cache, serves.closed, serves.consumers, serves.events, serves.truthful⟩, ?_,
      configured.connections⟩
    exact congrArg (· + 1) configured.turn

variable (created : Created broker handler channels connections count setup)
  (own : connection = count / channels)

include created own

theorem configureOver_served {queues : List String} (asked : queues = requested handler count) :
    (do
      let connectionToUse ← maybeUseCachedConnection queues connection
      configureQueuesOver broker params handler connectionToUse queues : Setting TopologyHandlerResult).ends
      (ConfiguredFor broker handler channels connections count)
      (fun _ => Stopped broker handler channels (count + 1)) setup := by
  subst own asked
  have cached := created.serves.maybeUseCachedConnection (count / channels) ⟨count, rfl⟩
  rw [← requests_succ] at cached
  rw [ends_bind]
  refine ends_mono cached ?_ ?_
  · rintro connectionToUse middle ⟨serves, uses, index, connectionCount⟩
    have turn := created.turn.same_index index
    refine ends_mono configureQueuesOver_over ?_ ?_
    · rintro result after ⟨configures, rfl, names⟩
      exact ⟨serves.configures uses configures, turn.same_index configures.index,
        configures.connectionCount.trans (connectionCount.trans created.connections), uses, names⟩
    · rintro _ after ⟨configures, unserved⟩
      exact stopped_of_unserved (serves.configures uses configures) uses unserved
  · rintro _ after ⟨serves, unsound⟩
    exact ⟨serves, fun _ sound => absurd sound unsound⟩

theorem configureQueuesForClient_served (exclusive : params.exclusive = true) :
    (configureQueuesForClient broker params handler connection).ends
      (ConfiguredFor broker handler channels connections count)
      (fun _ => Stopped broker handler channels (count + 1)) setup := by
  cases handler with
  | fixedQueues routingKey queueNames =>
    simp only [configureQueuesForClient, exclusive, if_true]
    exact configureOver_served created own rfl
  | sequence queues routingKey =>
    simp only [configureQueuesForClient, exclusive, if_true]
    rw [ends_bind]
    refine ends_mono (getQueueNamesForClient_follows queues routingKey (· = ·) setup) ?_ ?_
    · rintro names _ ⟨rfl, asked⟩
      exact configureOver_served created own (asked.trans created.turn.requested)
    · rintro _ _ ⟨rfl, empty⟩
      have none : requestFor (count / channels) (requested (.sequence queues routingKey) count) = [] := by
        rw [requestFor, if_pos (requested_empty empty count)]
      refine ⟨?_, fun _ _ => requested_empty empty⟩
      rw [requests_succ, none, List.append_nil]
      exact created.serves

theorem createConsumer_created (exclusive : params.exclusive = true) :
    (createConsumer broker params handler connection).ends
      (fun _ => Created broker handler channels connections (count + 1))
      (fun _ => Stopped broker handler channels (count + 1)) setup := by
  rw [createConsumer, ends_bind]
  refine ends_mono (configureQueuesForClient_served created own exclusive) ?_ fun _ _ => id
  intro result configured held
  have stops : ∀ after, ConfiguredFor broker handler channels connections count result after →
      Unserved broker handler result.connection after → Stopped broker handler channels (count + 1) after :=
    fun after held => stopped_of_unserved held.serves held.uses
  rw [ends_bind]
  refine ends_mono (onBroker_over createChannel_follows) ?_ fun _ after ⟨configures, unserved⟩ =>
    stops after (held.configures configures) unserved
  rintro channel opened ⟨configures, on⟩
  have opening := held.configures configures
  rw [ends_bind]
  refine ends_mono (performModes_over (consumerModes_setMode params) on) ?_ fun _ after ⟨configures, unserved⟩ =>
    stops after (opening.configures configures) unserved
  rintro _ moded ⟨configures, _⟩
  have still := opening.configures configures
  rw [ends_bind]
  refine ends_mono getRoutingKey_over ?_ fun _ after ⟨configures, unserved⟩ =>
    stops after (still.configures configures) unserved
  rintro routingKey keyed ⟨configures, _⟩
  rw [ends_bind, ends_modify]
  exact ends_mono ((still.configures configures).created on rfl) (fun _ _ => id) fun _ _ => False.elim

end

section

variable {broker : Broker} {params : MulticastParams} {handler : TopologyHandler} {setup : Setup}

/-- A thread creates its consumers one after the other, and the threads come one after the other. -/
theorem createThreadConsumers_created (exclusive : params.exclusive = true) {thread : ℕ}
    (created : Created broker handler params.consumerChannelCount thread
      (thread * params.consumerChannelCount) setup) :
    (createThreadConsumers broker params handler).ends
      (fun _ => Created broker handler params.consumerChannelCount (thread + 1)
        ((thread + 1) * params.consumerChannelCount))
      (fun _ after => ∃ count ≤ (thread + 1) * params.consumerChannelCount,
        Stopped broker handler params.consumerChannelCount count after) setup := by
  simp only [createThreadConsumers, createConnection, ends_bind, ends_get, ends_set, ends_pure,
    created.connections, Nat.succ_mul]
  refine ends_foldlM_range (fun index _ => Created broker handler params.consumerChannelCount (thread + 1)
    (thread * params.consumerChannelCount + index)) ?_ ?_
  · intro index below _ setup created
    have own : thread = (thread * params.consumerChannelCount + index) / params.consumerChannelCount := by
      rw [Nat.mul_comm, Nat.mul_add_div (Nat.zero_lt_of_lt below), Nat.div_eq_of_lt below, Nat.add_zero]
    refine ends_mono (createConsumer_created created own exclusive) (fun _ _ => id) fun _ _ stopped => ?_
    exact ⟨_, Nat.add_le_add_left (Nat.succ_le_of_lt below) _, stopped⟩
  · have serves := created.serves
    refine ⟨⟨serves.cache, serves.closed, serves.consumers, serves.events, serves.truthful⟩,
      created.turn.same_index rfl, rfl⟩

theorem createConsumers_created (exclusive : params.exclusive = true)
    (created : Created broker handler params.consumerChannelCount 0 0 setup) :
    (createConsumers broker params handler).ends
      (fun _ => Created broker handler params.consumerChannelCount params.consumerCount
        (params.consumerCount * params.consumerChannelCount))
      (fun _ after => ∃ count ≤ params.consumerCount * params.consumerChannelCount,
        Stopped broker handler params.consumerChannelCount count after) setup := by
  refine ends_foldlM_range (fun thread _ => Created broker handler params.consumerChannelCount thread
    (thread * params.consumerChannelCount)) ?_ ?_
  · intro thread below _ setup created
    refine ends_mono (createThreadConsumers_created exclusive created) (fun _ _ => id) ?_
    rintro _ after ⟨count, bound, stopped⟩
    exact ⟨count, Nat.le_trans bound (Nat.mul_le_mul_right _ (Nat.succ_le_of_lt below)), stopped⟩
  · rw [Nat.zero_mul]
    exact created

end

def consumersRun (broker : Broker) (params : MulticastParams) (handler : TopologyHandler)
    (connections : List Connection) : Except Failure Unit × Setup :=
  (do
    let _ ← configureAllQueues broker params handler connections
    handler.reset
    createConsumers broker params handler : Setting Unit) (Setup.init params World.start)

theorem start_created (broker : Broker) (params : MulticastParams) (handler : TopologyHandler) (channels : ℕ) :
    Created broker handler channels 0 0 (Setup.init params World.start) :=
  ⟨⟨fun _ => rfl, rfl, List.forall_mem_nil _, List.forall_mem_nil _, .nil⟩, by cases handler <;> trivial, rfl⟩

/-- With exclusive queues nothing is configured before the consumers are created. -/
theorem configureAllQueues_created {broker : Broker} {params : MulticastParams} {handler : TopologyHandler}
    {setup : Setup} {channels : ℕ} (exclusive : params.exclusive = true) (connections : List Connection)
    (created : Created broker handler channels 0 0 setup) :
    (configureAllQueues broker params handler connections).ends
      (fun _ => Created broker handler channels 0 0) (fun _ _ => False) setup := by
  have children : (connections.foldlM childFor []).ends (fun _ => Created broker handler channels 0 0)
      (fun _ _ => False) setup := by
    refine ends_foldlM (fun _ _ => Created broker handler channels 0 0) ?_ created connections
    intro _ connection results setup created
    have serves := created.serves
    exact ⟨⟨serves.cache, serves.closed, serves.consumers, serves.events, serves.truthful⟩,
      created.turn.same_index rfl, created.connections⟩
  cases handler with
  | fixedQueues routingKey queueNames =>
    rw [configureAllQueues, if_neg (by simp [exclusive])]
    exact children
  | sequence queues routingKey =>
    rw [configureAllQueues, if_pos exclusive]
    exact children

theorem reset_created {broker : Broker} {handler : TopologyHandler} {setup : Setup} {channels : ℕ}
    (created : Created broker handler channels 0 0 setup) :
    handler.reset.ends (fun _ => Created broker handler channels 0 0) (fun _ _ => False) setup := by
  cases handler with
  | fixedQueues routingKey queueNames => exact created
  | sequence queues routingKey =>
    have serves := created.serves
    exact ⟨⟨serves.cache, serves.closed, serves.consumers, serves.events, serves.truthful⟩, rfl,
      created.connections⟩

/-- However the run ends, some of the consumers have asked the cache, all of them unless the broker
    refused something or a connection was closed that is still in use. -/
theorem consumersRun_serves (broker : Broker) {params : MulticastParams} (handler : TopologyHandler)
    (connections : List Connection) (exclusive : params.exclusive = true) :
    ∃ count ≤ params.consumerCount * params.consumerChannelCount,
      ServesAll broker handler (requests handler params.consumerChannelCount count)
        (consumersRun broker params handler connections).2 ∧
      (broker.Accepts → Sound (requests handler params.consumerChannelCount count) →
        Sound (requests handler params.consumerChannelCount
          (params.consumerCount * params.consumerChannelCount))) := by
  have ends : (do
      let _ ← configureAllQueues broker params handler connections
      handler.reset
      createConsumers broker params handler : Setting Unit).ends
      (fun _ => Created broker handler params.consumerChannelCount params.consumerCount
        (params.consumerCount * params.consumerChannelCount))
      (fun _ after => ∃ count ≤ params.consumerCount * params.consumerChannelCount,
        Stopped broker handler params.consumerChannelCount count after) (Setup.init params World.start) := by
    have start := start_created broker params handler params.consumerChannelCount
    rw [ends_bind]
    refine ends_mono (configureAllQueues_created exclusive connections start) ?_ fun _ _ => False.elim
    intro _ configured created
    rw [ends_bind]
    refine ends_mono (reset_created created) ?_ fun _ _ => False.elim
    exact fun _ reset created => createConsumers_created exclusive created
  rcases ends_cases ends with ⟨_, after, ran, created⟩ | ⟨_, after, ran, count, bound, stopped⟩
  · rw [consumersRun, ran]
    exact ⟨_, Nat.le_refl _, created.serves, fun _ => id⟩
  · rw [consumersRun, ran]
    refine ⟨count, bound, stopped.serves, fun accepts sound => ?_⟩
    have empty := stopped.unsound accepts sound
    refine (sound_requests handler _ _).mpr (.inr fun first _ _ _ _ _ => empty first)

end PerfTestProof
