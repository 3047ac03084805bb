import Mathlib.Algebra.Order.BigOperators.Group.List
import Mathlib.Algebra.Order.Group.Nat
import Mathlib.Data.List.Pairwise
import PerfTest.Topology.ConnectionCache

namespace PerfTestProof

open Systems Program FirstCome PerfTestModel TopologyHandler

def listedQueues : TopologyHandler → List String
  | .fixedQueues _ queueNames => queueNames
  | .sequence queues _ => queues

def declarationOf (event : Performed) : Option String :=
  match event.operation, event.reply with
  | .queueDeclare queue .., .ok name => some (declaredQueue queue name)
  | _, _ => none

def NamesApart (broker : Broker) (queues : List String) : Prop :=
  ∀ performed event name, event.reply = broker.reply performed event.operation →
    generatedName event = some name → name ∉ queues ∧ ∀ other ∈ performed, generatedName other ≠ some name

structure SharesConnections (setup : Setup) : Prop where
  once : setup.world.closed.Nodup
  cached : ∀ queues connection, setup.connectionCache.lookup queues = some connection →
    connection ∉ setup.world.closed
  used : ∀ consumer ∈ setup.consumers, consumer.channel.connection ∉ setup.world.closed
  shared : ∀ consumer ∈ setup.consumers, ∀ queue ∈ consumer.queueNames,
    ∀ other ∈ setup.consumers, queue ∈ other.queueNames →
      other.channel.connection = consumer.channel.connection
  declared : ∀ consumer ∈ setup.consumers, ∀ queue ∈ consumer.queueNames,
    ∀ event ∈ setup.world.performed, declarationOf event = some queue →
      event.channel.connection = consumer.channel.connection

/-- With several channels for each consumer, no queue is consumed over two connections. -/
def AsksApart (params : MulticastParams) (handler : TopologyHandler) : Prop :=
  params.consumerChannelCount ≤ 1 ∨
    ∀ first second, first < params.consumerCount * params.consumerChannelCount →
      second < params.consumerCount * params.consumerChannelCount →
      first / params.consumerChannelCount ≠ second / params.consumerChannelCount →
      requested handler first = requested handler second → requested handler first = []

theorem Truthful.generated {broker : Broker} {queues : List String} {performed : List Performed}
    (truthful : Truthful broker performed) (apart : NamesApart broker queues) :
    (∀ event ∈ performed, ∀ name ∈ generatedName event, name ∉ queues) ∧
      performed.Pairwise fun first second => ∀ name, generatedName first = some name →
        generatedName second ≠ some name := by
  induction truthful with
  | nil => exact ⟨List.forall_mem_nil _, .nil⟩
  | snoc _ answered ih =>
    refine ⟨fun event member name generated => ?_, List.pairwise_append.mpr ⟨ih.2, List.pairwise_singleton _ _, ?_⟩⟩
    · rcases List.mem_append.mp member with before | new
      · exact ih.1 event before name generated
      · cases List.mem_singleton.mp new
        exact (apart _ _ _ answered generated).1
    · intro earlier member later new name before generated
      cases List.mem_singleton.mp new
      exact (apart _ _ _ answered generated).2 earlier member before

section

variable {broker : Broker} {handler : TopologyHandler} {channels count : ℕ} {setup : Setup}

theorem mem_listedQueues {index : ℕ} {name : String} (member : name ∈ requested handler index) :
    name ∈ listedQueues handler := by
  cases handler with
  | fixedQueues routingKey queueNames => exact member
  | sequence queues routingKey =>
    exact List.mem_of_getElem? (Option.mem_toList.mp member)

theorem requested_unique {first second : ℕ} {name : String} (inFirst : name ∈ requested handler first)
    (inSecond : name ∈ requested handler second) : requested handler first = requested handler second := by
  cases handler with
  | fixedQueues routingKey queueNames => rfl
  | sequence queues routingKey =>
    rcases requested_sequence queues routingKey first with ⟨empty, _⟩ | ⟨one, _, asked⟩
    · rw [empty] at inFirst
      cases inFirst
    · rcases requested_sequence queues routingKey second with ⟨empty, _⟩ | ⟨two, _, askedNext⟩
      · rw [empty] at inSecond
        cases inSecond
      · rw [asked, List.mem_singleton] at inFirst
        rw [askedNext, List.mem_singleton] at inSecond
        rw [asked, askedNext, ← inFirst, inSecond]

/-- A name belongs to one connection: the one that serves its requests, or for which the broker made the
    name up. -/
theorem one_connection {requests : List (Request Connection String)} {queues others : List String}
    {connection other : Connection} {name : String} (apart : NamesApart broker (listedQueues handler))
    (truthful : Truthful broker setup.world.performed) (uses : Uses handler requests queues connection)
    (otherUses : Uses handler requests others other) (named : NameFor connection queues name setup.world)
    (otherNamed : NameFor other others name setup.world) : other = connection := by
  obtain ⟨unlisted, once⟩ := truthful.generated apart
  obtain ⟨⟨first, rfl⟩, held⟩ := uses
  obtain ⟨⟨second, rfl⟩, otherHeld⟩ := otherUses
  rcases named with listed | ⟨event, member, rfl, made⟩
  · rcases otherNamed with otherListed | ⟨event, member, _, made⟩
    · rw [← requested_unique listed otherListed] at otherHeld
      have served := held (List.ne_nil_of_mem listed)
      rw [otherHeld (List.ne_nil_of_mem listed), Option.some_inj] at served
      exact served
    · exact absurd (mem_listedQueues listed) (unlisted event member name made)
  · rcases otherNamed with otherListed | ⟨otherEvent, otherMember, rfl, otherMade⟩
    · exact absurd (mem_listedQueues otherListed) (unlisted event member name made)
    · by_contra different
      have symmetric : Std.Symm fun first second : Performed => ∀ name, generatedName first = some name →
          generatedName second ≠ some name := ⟨fun _ _ once name made other => once name other made⟩
      have distinct : otherEvent ≠ event := fun same => different (same ▸ rfl)
      exact once.forall otherMember member distinct name otherMade made

/-- The connection that declared a queue under this name uses its request. -/
theorem declaration_named {requests : List (Request Connection String)} {event : Performed} {name : String}
    (serves : ServesAll broker handler requests setup) (member : event ∈ setup.world.performed)
    (declared : declarationOf event = some name) :
    ∃ queues, Uses handler requests queues event.channel.connection ∧
      NameFor event.channel.connection queues name setup.world := by
  obtain ⟨queues, uses, issued⟩ := serves.events event member
  refine ⟨queues, uses, ?_⟩
  unfold declarationOf at declared
  split at declared
  · rename_i queue _ _ _ _ generated operation reply
    cases declared
    by_cases unnamed : queue = ""
    · refine .inr ⟨event, member, rfl, ?_⟩
      simp only [generatedName, operation, reply, unnamed, declaredQueue, if_true]
    · rw [declaredQueue, if_neg unnamed]
      exact .inl ((issued queue (by rw [operation, declarationName])).resolve_left unnamed)
  · cases declared

theorem shares_of_sound (apart : NamesApart broker (listedQueues handler))
    (serves : ServesAll broker handler (requests handler channels count) setup)
    (sound : Sound (requests handler channels count)) : SharesConnections setup := by
  refine ⟨serves.closed ▸ sound.once, fun queues connection found => ?_, fun consumer member => ?_,
    fun consumer member queue held other otherMember otherHeld => ?_,
    fun consumer member queue held event performed declared => ?_⟩
  · rw [serves.closed]
    exact sound.held queues connection (serves.cache queues ▸ found)
  · obtain ⟨queues, uses, _⟩ := serves.consumers consumer member
    exact open_of_uses serves sound uses
  · obtain ⟨queues, uses, names⟩ := serves.consumers consumer member
    obtain ⟨others, otherUses, otherNames⟩ := serves.consumers other otherMember
    exact one_connection apart serves.truthful uses otherUses (names queue held) (otherNames queue otherHeld)
  · obtain ⟨queues, uses, names⟩ := serves.consumers consumer member
    obtain ⟨others, otherUses, named⟩ := declaration_named serves performed declared
    exact one_connection apart serves.truthful uses otherUses (names queue held) named

theorem sound_of_shares {requests : List (Request Connection String)}
    (serves : ServesAll broker handler requests setup) (shares : SharesConnections setup) : Sound requests := by
  refine ⟨serves.closed ▸ shares.once, fun key connection held => ?_⟩
  rw [← serves.closed]
  exact shares.cached key connection ((serves.cache key).trans held)

end

/-- Connections are closed and shared properly whenever each consumer has one channel or no two threads
    ask for the same queues, and only then if the broker accepts what it is asked. -/
theorem connections_shared_iff (broker : Broker) (params : MulticastParams) (handler : TopologyHandler)
    (connections : List Connection) (exclusive : params.exclusive = true)
    (apart : NamesApart broker (listedQueues handler)) :
    (AsksApart params handler → SharesConnections (consumersRun broker params handler connections).2) ∧
      (broker.Accepts → (SharesConnections (consumersRun broker params handler connections).2 ↔
        AsksApart params handler)) := by
  obtain ⟨count, bound, serves, whole⟩ := consumersRun_serves broker handler connections exclusive
  have all := sound_requests handler params.consumerCount params.consumerChannelCount
  have enough : AsksApart params handler →
      SharesConnections (consumersRun broker params handler connections).2 := by
    intro asks
    have sound := all.mpr asks
    obtain ⟨later, split⟩ := requests_prefix handler params.consumerChannelCount bound
    rw [split] at sound
    exact shares_of_sound apart serves sound.of_append
  exact ⟨enough, fun accepts => ⟨fun shares => all.mp (whole accepts (sound_of_shares serves shares)), enough⟩⟩

def namingBroker : Broker :=
  ⟨fun performed operation =>
    match operation with
    | .queueDeclare .. => .ok ("amq.gen-" ++ String.join (performed.filterMap generatedName))
    | _ => .ok "",
    fun _ _ => true⟩

theorem namingBroker_accepts : namingBroker.Accepts := by
  refine ⟨fun _ _ => rfl, fun performed operation failure answer => ?_⟩
  cases operation <;> cases answer

theorem namingBroker_apart {queues : List String} (short : ∀ queue ∈ queues, queue.length < 8) :
    NamesApart namingBroker queues := by
  intro performed event name answered made
  have length : name.length = 8 + ((performed.filterMap generatedName).map String.length).sum := by
    unfold generatedName at made
    split at made
    · rename_i operation reply
      rw [operation, reply] at answered
      split at made
      · cases made
        cases answered
        rw [String.length_append, String.length_join]
        rfl
      · cases made
    · cases made
  refine ⟨fun listed => ?_, fun other member before => ?_⟩
  · have bound := short name listed
    omega
  · have among : name ∈ performed.filterMap generatedName := List.mem_filterMap.mpr ⟨other, member, before⟩
    have bound : name.length ≤ _ := List.le_sum_of_mem (List.mem_map_of_mem among)
    omega

def exclusiveParams (consumerCount consumerChannelCount : ℕ) : MulticastParams :=
  ⟨true, false, false, false, false, false, "direct", "direct", [], consumerCount, consumerChannelCount, 0, 0,
    0⟩

theorem connections_shared_by_three : SharesConnections
    (consumersRun namingBroker (exclusiveParams 3 1) (.sequence ["orders", "refunds"] none) []).2 := by
  have apart : NamesApart namingBroker ["orders", "refunds"] := namingBroker_apart (by decide)
  have shared := connections_shared_iff namingBroker (exclusiveParams 3 1)
    (.sequence ["orders", "refunds"] none) [] rfl apart
  exact (shared.2 namingBroker_accepts).mpr (.inl (Nat.le_refl 1))

/-- The second thread consumes the third queue over its own connection, and then closes it because the
    first queue is cached with that of the first thread. -/
theorem connection_in_use_closed :
    ¬ ∀ (broker : Broker) (params : MulticastParams) (handler : TopologyHandler)
      (connections : List Connection), params.exclusive = true → NamesApart broker (listedQueues handler) →
      broker.Accepts → SharesConnections (consumersRun broker params handler connections).2 := by
  intro shares
  have apart : NamesApart namingBroker ["orders", "refunds", "returns"] := namingBroker_apart (by decide)
  have shared := shares namingBroker (exclusiveParams 2 2) (.sequence ["orders", "refunds", "returns"] none)
    [] rfl apart namingBroker_accepts
  have used := shared.used ⟨⟨1, 5⟩, "returns", ["returns"], 2⟩ (by decide +kernel)
  exact used (by decide +kernel)

end PerfTestProof
