import PerfTest.Topology.BrokerTopology

namespace PerfTestProof

open Systems Program PerfTestModel TopologyRecording

def Known (performed : List Performed) (name : String) : Prop :=
  ∃ event ∈ performed, event.declaredName = some name

theorem Known.later {performed : List Performed} {name : String} (known : Known performed name)
    (events : List Performed) : Known (performed ++ events) name := by
  obtain ⟨event, member, declares⟩ := known
  exact ⟨event, List.mem_append_left events member, declares⟩

structure Named (listed : List String) (population : Set QueueRef) (world : World) : Prop where
  client : ∀ record ∈ population, (world.records record).serverNamed = false →
    (world.records record).name ∈ listed ∧ (world.records record).name ≠ ""
  server : ∀ record ∈ population, (world.records record).serverNamed = true →
    (world.records record).name ∉ listed ∧ Known world.performed (world.records record).name
  apart : ∀ record ∈ population, ∀ other ∈ population, (world.records record).serverNamed = true →
    (world.records record).name = (world.records other).name → record = other

inductive Renewed (listed : List String) (earlier events : List Performed) (queue : RecordedQueue) :
    String → Prop where
  | same : Renewed listed earlier events queue queue.name
  | new (name : String) (serverNamed : queue.serverNamed = true) (unlisted : name ∉ listed)
      (fresh : ¬ Known earlier name) (known : Known (earlier ++ events) name) :
      Renewed listed earlier events queue name

section

variable {broker : Broker} {listed : List String} {population : Set QueueRef} {world after : World}
  {record : QueueRef} {queue : RecordedQueue} {earlier events : List Performed} {name : String}
  {topology : BrokerTopology} {polling : Bool}

theorem Named.later (named : Named listed population world) (records : after.records = world.records)
    (performed : after.performed = world.performed ++ events) : Named listed population after := by
  refine ⟨?_, fun record member kind => ?_, ?_⟩
  · rw [records]
    exact named.client
  · rw [records] at kind ⊢
    rw [performed]
    exact (named.server record member kind).imp id fun known => known.later events
  · rw [records]
    exact named.apart

theorem Named.renewed (named : Named listed population world) (member : record ∈ population)
    (renewed : Renewed listed world.performed events (world.records record) name)
    (records : after.records = Function.update world.records record { world.records record with name })
    (performed : after.performed = world.performed ++ events) : Named listed population after := by
  have here : after.records record = { world.records record with name } := by
    rw [records, Function.update_self]
  have there : ∀ other, other ≠ record → after.records other = world.records other := by
    intro other distinct
    rw [records, Function.update_of_ne distinct]
  -- a name that the broker makes up now is not that of another queue
  have unused : ∀ other ∈ population, other ≠ record → (world.records record).serverNamed = true →
      name ≠ (world.records other).name := by
    intro other listedToo distinct serverNamed same
    cases renewed with
    | same => exact distinct (named.apart record member other listedToo serverNamed same).symm
    | new _ _ unlisted fresh _ =>
      cases kind : (world.records other).serverNamed with
      | true => exact fresh (same ▸ (named.server other listedToo kind).2)
      | false => exact unlisted (same ▸ (named.client other listedToo kind).1)
  refine ⟨fun other listedToo kind => ?_, fun other listedToo kind => ?_, ?_⟩
  · by_cases same : other = record
    · subst same
      rw [here] at kind ⊢
      cases renewed with
      | same => exact named.client other listedToo kind
      | new _ serverNamed _ _ _ =>
        rw [serverNamed] at kind
        cases kind
    · rw [there other same] at kind ⊢
      exact named.client other listedToo kind
  · rw [performed]
    by_cases same : other = record
    · subst same
      rw [here] at kind ⊢
      cases renewed with
      | same => exact (named.server other listedToo kind).imp id fun known => known.later events
      | new _ _ unlisted _ known => exact ⟨unlisted, known⟩
    · rw [there other same] at kind ⊢
      exact (named.server other listedToo kind).imp id fun known => known.later events
  · intro first firstListed second secondListed kind same
    by_cases isFirst : first = record
    · by_cases isSecond : second = record
      · rw [isFirst, isSecond]
      · subst isFirst
        rw [here] at kind same
        rw [there second isSecond] at same
        exact absurd same (unused second secondListed isSecond kind)
    · rw [there first isFirst] at kind same
      by_cases isSecond : second = record
      · subst isSecond
        rw [here] at same
        cases serverNamed : (world.records second).serverNamed with
        | true => exact absurd same.symm (unused first firstListed isFirst serverNamed)
        | false =>
          cases renewed with
          | same => exact named.apart first firstListed second secondListed kind same
          | new _ isServer _ _ _ =>
            rw [serverNamed] at isServer
            cases isServer
      · rw [there second isSecond] at same
        exact named.apart first firstListed second secondListed kind same

structure TurnOn (topology next : BrokerTopology) (queue : RecordedQueue) (name : String) : Prop where
  exchanges : next.exchanges = topology.exchanges
  present : name ∈ next.queues
  grows : ∀ other ∈ next.queues, other ∈ topology.queues ∨ other = name
  keeps : ∀ other ∈ topology.queues, other ≠ queue.name ∨ queue.serverNamed = false → other ∈ next.queues

theorem Recovers.found_on {turn : QueueTurn} (recovers : Recovers broker polling queue earlier turn name)
    (answers : broker.AnswersBy earlier topology listed)
    (passed : turn.check.any (fun event => !event.failed) = true) :
    isChecked queue = true ∧ queue.name ∈ topology.queues := by
  obtain ⟨event, member, success⟩ := List.any_eq_true.mp passed
  have checked : isChecked queue = true := by
    by_contra unchecked
    have none := recovers.checks
    rw [if_neg unchecked, List.map_eq_nil_iff] at none
    rw [none] at member
    cases member
  have reply := recovers.answers event member
  apply And.intro checked
  apply (answers_now answers (.queueDeclarePassive queue.name)).mp
  rw [← reply]
  unfold Performed.failed at success
  cases answer : event.reply with
  | ok generatedName => exact ⟨generatedName, rfl⟩
  | failed failure =>
    rw [answer] at success
    cases success

theorem Recovers.check_passive {turn : QueueTurn} (recovers : Recovers broker polling queue earlier turn name) :
    ∀ event ∈ turn.check, event.operation.isPassive = true := by
  intro event member
  have operation := List.mem_map_of_mem (f := Performed.operation) member
  rw [recovers.checks] at operation
  split at operation
  · rw [List.mem_singleton.mp operation]
    rfl
  · cases operation

theorem Recovers.deletion_of {turn : QueueTurn} (recovers : Recovers broker polling queue earlier turn name) :
    ∀ event ∈ turn.deletion, event.operation = .queueDelete queue.name ∧ isFormerDeleted polling queue = true := by
  intro event member
  have operation := List.mem_map_of_mem (f := Performed.operation) member
  rw [recovers.deletes] at operation
  split at operation
  · rename_i former
    exact ⟨List.mem_singleton.mp operation, former⟩
  · cases operation

/-- A queue that is found needs no new name, and nothing is deleted then. -/
theorem Recovers.no_deletion {turn : QueueTurn} (recovers : Recovers broker polling queue earlier turn name)
    (kept : isFormerDeleted polling queue = false) : turn.deletion = [] := by
  apply List.eq_nil_iff_forall_not_mem.mpr
  intro event member
  have former := (recovers.deletion_of event member).2
  rw [kept] at former
  cases former

theorem not_former_of_checked (checked : isChecked queue = true) : isFormerDeleted polling queue = false := by
  unfold isChecked at checked
  unfold isFormerDeleted
  cases autoDelete : queue.autoDelete with
  | true => simp [autoDelete] at checked
  | false => simp

theorem not_former_of_client (client : queue.serverNamed = false) : isFormerDeleted polling queue = false := by
  unfold isFormerDeleted
  rw [client]
  simp

theorem afterAll_deletes (topology : BrokerTopology) {queue : String}
    (deletes : ∀ event ∈ events, event.operation = .queueDelete queue) :
    (topology.afterAll events).exchanges = topology.exchanges ∧
      (∀ other ∈ (topology.afterAll events).queues, other ∈ topology.queues) ∧
      ∀ other ∈ topology.queues, other ≠ queue → other ∈ (topology.afterAll events).queues := by
  induction events generalizing topology with
  | nil => exact ⟨rfl, fun _ present => present, fun _ present _ => present⟩
  | cons event events ih =>
    rw [List.forall_mem_cons] at deletes
    obtain ⟨exchanges, fewer, kept⟩ := ih (topology.after event) deletes.2
    have step : topology.after event = topology ∨
        topology.after event = { topology with queues := topology.queues.erase queue } := by
      unfold BrokerTopology.after
      rw [deletes.1]
      cases event.reply with
      | ok generatedName => exact .inr rfl
      | failed failure => exact .inl rfl
    rw [BrokerTopology.afterAll, List.foldl_cons]
    rcases step with same | erased
    · rw [same] at exchanges fewer kept ⊢
      exact ⟨exchanges, fewer, kept⟩
    · rw [erased] at exchanges fewer kept ⊢
      refine ⟨exchanges, fun other present => Finset.mem_of_mem_erase (fewer other present), ?_⟩
      exact fun other present distinct => kept other (Finset.mem_erase.mpr ⟨distinct, present⟩) distinct

/-- A queue that is declared again is there, and its former name may not be. -/
theorem TurnOn.redeclared {turn : QueueTurn}
    (recovers : Recovers broker polling queue earlier turn name) {generatedName : String} {event : Performed}
    (declared : turn.declaration = [event]) (operation : event.operation = redeclaration queue)
    (reply : event.reply = .ok generatedName) (named : name = declaredQueue (requestedName queue) generatedName)
    (renewed : name ≠ queue.name ∨ queue.serverNamed = false) :
    TurnOn topology (topology.afterAll turn.events) queue name := by
  have step : topology.after event = { topology with queues := insert name topology.queues } := by
    rw [named]
    unfold BrokerTopology.after
    rw [operation, reply]
    rfl
  have events : topology.afterAll turn.events =
      (BrokerTopology.mk topology.exchanges (insert name topology.queues)).afterAll turn.deletion := by
    rw [QueueTurn.events, afterAll_append, afterAll_append, afterAll_passive recovers.check_passive, declared,
      ← step]
    rfl
  obtain ⟨exchanges, fewer, kept⟩ := afterAll_deletes
    ⟨topology.exchanges, insert name topology.queues⟩ fun event member =>
      (recovers.deletion_of event member).1
  have remains : ∀ other ∈ insert name topology.queues, other ≠ queue.name ∨ queue.serverNamed = false →
      other ∈ (topology.afterAll turn.events).queues := by
    intro other present distinct
    rw [events]
    rcases distinct with distinct | client
    · exact kept other present distinct
    · rw [recovers.no_deletion (not_former_of_client client)]
      exact present
  refine ⟨?_, remains name (Finset.mem_insert_self _ _) renewed, fun other present => ?_, ?_⟩
  · rw [events, exchanges]
  · rw [events] at present
    exact (Finset.mem_insert.mp (fewer other present)).symm
  · exact fun other present => remains other (Finset.mem_insert_of_mem present)

theorem Recovers.on {turn : QueueTurn} (recovers : Recovers broker polling queue earlier turn name)
    (answers : broker.AnswersBy earlier topology listed)
    (client : queue.serverNamed = false → queue.name ≠ "")
    (server : queue.serverNamed = true → Known earlier queue.name) :
    Renewed listed earlier turn.events queue name ∧
      TurnOn topology (topology.afterAll turn.events) queue name := by
  have redeclares := recovers.redeclares
  cases declared : turn.declaration with
  | nil =>
    rw [declared] at redeclares
    cases redeclares with
    | around passed =>
      obtain ⟨checked, present⟩ := recovers.found_on answers passed
      have unchanged : topology.afterAll turn.events = topology := by
        rw [QueueTurn.events, declared, recovers.no_deletion (not_former_of_checked checked), List.append_nil,
          List.append_nil]
        exact afterAll_passive recovers.check_passive
      rw [unchanged]
      exact ⟨.same, rfl, present, fun _ => .inl, fun _ there _ => there⟩
  | cons event rest =>
    rw [declared] at redeclares
    cases redeclares with
    | again _ missing operation reply =>
      obtain ⟨generatedName, answer⟩ :=
        (answers_now (answers_later answers turn.check) (redeclaration queue)).mpr trivial
      rw [answer] at reply
      have named : nameAfter queue event.reply = declaredQueue (requestedName queue) generatedName := by
        rw [reply]
        rfl
      cases kind : queue.serverNamed with
      | false =>
        have same : declaredQueue (requestedName queue) generatedName = queue.name := by
          rw [requestedName, kind, if_neg Bool.false_ne_true, declaredQueue, if_neg (client kind)]
        apply And.intro
        · rw [named, same]
          exact .same
        · exact TurnOn.redeclared recovers declared operation reply named (.inr kind)
      | true =>
        have requested : requestedName queue = "" := by rw [requestedName, kind, if_pos rfl]
        have made : nameAfter queue event.reply = generatedName := by
          rw [named, requested, declaredQueue, if_pos rfl]
        rw [redeclaration, requested] at answer
        obtain ⟨_, unlisted, _, undeclared⟩ := answers.fresh _ _ _ _ _ _ answer
        have unknown : ¬ Known earlier generatedName := by
          rintro ⟨event, member, declares⟩
          exact undeclared event (List.mem_append_left _ member) declares
        have declares : event.declaredName = some generatedName := by
          rw [Performed.declaredName, operation, reply, redeclaration]
          change some (declaredQueue (requestedName queue) generatedName) = _
          rw [← named, made]
        apply And.intro
        · rw [made]
          apply Renewed.new generatedName kind unlisted unknown
          refine ⟨event, ?_, declares⟩
          rw [QueueTurn.events, declared]
          simp
        · apply TurnOn.redeclared recovers declared operation reply named
          left
          rw [made]
          intro same
          exact unknown (same ▸ server kind)

theorem Renewed.client (renewed : Renewed listed earlier events queue name) (client : queue.serverNamed = false) :
    name = queue.name := by
  cases renewed with
  | same => rfl
  | new _ serverNamed =>
    rw [client] at serverNamed
    cases serverNamed

end

structure QueuesRestored (listed : List String) (population : Set QueueRef) (done : List QueueRef)
    (world : World) (topology : BrokerTopology) (events : List Performed) (after : World) : Prop where
  performed : after.performed = world.performed ++ events
  unbound : ∀ event ∈ events, boundQueue event.operation = none
  members : ∀ record ∈ done, record ∈ population
  named : Named listed population after
  others : ∀ record, record ∉ done → after.records record = world.records record
  clients : ∀ record, (world.records record).serverNamed = false → after.records record = world.records record
  kinds : ∀ record, (after.records record).serverNamed = (world.records record).serverNamed
  exchanges : (topology.afterAll events).exchanges = topology.exchanges
  present : ∀ record ∈ done, (after.records record).name ∈ (topology.afterAll events).queues
  queues : ∀ name ∈ listed, name ∈ (topology.afterAll events).queues ↔
    name ∈ topology.queues ∨ ∃ record ∈ done, (world.records record).serverNamed = false ∧
      (world.records record).name = name

section

variable {broker : Broker} {listed : List String} {population : Set QueueRef} {world after : World}
  {events : List Performed} {topology : BrokerTopology} {polling : Bool} {done : List QueueRef}

theorem QueuesRestored.refl (named : Named listed population world) :
    QueuesRestored listed population [] world topology [] world :=
  ⟨(List.append_nil _).symm, List.forall_mem_nil _, List.forall_mem_nil _, named, fun _ _ => rfl, fun _ _ => rfl,
    fun _ => rfl, rfl, List.forall_mem_nil _, fun _ _ => by simp [BrokerTopology.afterAll]⟩

section

variable {call : QueueCall} {last : Channel} {turn : QueueTurn} {name : String}

theorem Completes.here (completes : Completes broker polling call last turn name) :
    (call.after broker polling).records call.record = { call.queue with name } := by
  rw [completes.records, Function.update_self]

theorem Completes.there (completes : Completes broker polling call last turn name) {record : QueueRef}
    (other : record ≠ call.record) :
    (call.after broker polling).records record = call.world.records record := by
  rw [completes.records, Function.update_of_ne other]

theorem QueuesRestored.renewed_on (restored : QueuesRestored listed population done world topology events call.world)
    (answers : broker.AnswersBy world.performed topology listed)
    (completes : Completes broker polling call last turn name) (member : call.record ∈ population) :
    Renewed listed call.world.performed turn.events call.queue name ∧
      TurnOn (topology.afterAll events) (topology.afterAll (events ++ turn.events)) call.queue name := by
  have answersNow := answers_later answers events
  rw [← restored.performed] at answersNow
  rw [afterAll_append]
  exact completes.recovers.on answersNow (fun client => (restored.named.client call.record member client).2)
    (fun server => (restored.named.server call.record member server).2)

theorem QueuesRestored.client (restored : QueuesRestored listed population done world topology events call.world)
    (client : call.queue.serverNamed = false) : world.records call.record = call.queue := by
  have kind := restored.kinds call.record
  rw [show (call.world.records call.record).serverNamed = false from client] at kind
  exact (restored.clients call.record kind.symm).symm

theorem QueuesRestored.present_next
    (restored : QueuesRestored listed population done world topology events call.world)
    (completes : Completes broker polling call last turn name) (member : call.record ∈ population)
    (on : TurnOn (topology.afterAll events) (topology.afterAll (events ++ turn.events)) call.queue name) :
    ∀ record ∈ done ++ [call.record], ((call.after broker polling).records record).name ∈
      (topology.afterAll (events ++ turn.events)).queues := by
  intro record held
  by_cases same : record = call.record
  · subst same
    rw [completes.here]
    exact on.present
  · rw [completes.there same]
    have earlier : record ∈ done := by
      rw [List.mem_append, List.mem_singleton] at held
      exact held.resolve_right same
    apply on.keeps _ (restored.present record earlier)
    cases kind : call.queue.serverNamed with
    | false => exact .inr rfl
    | true =>
      left
      intro clash
      exact same (restored.named.apart call.record member record (restored.members record earlier) kind
        clash.symm).symm

theorem QueuesRestored.queues_next
    (restored : QueuesRestored listed population done world topology events call.world)
    (completes : Completes broker polling call last turn name) (member : call.record ∈ population)
    (renewed : Renewed listed call.world.performed turn.events call.queue name)
    (on : TurnOn (topology.afterAll events) (topology.afterAll (events ++ turn.events)) call.queue name)
    (named : Named listed population (call.after broker polling)) :
    ∀ other ∈ listed, other ∈ (topology.afterAll (events ++ turn.events)).queues ↔
      other ∈ topology.queues ∨ ∃ record ∈ done ++ [call.record], (world.records record).serverNamed = false ∧
        (world.records record).name = other := by
  intro other inList
  have before := restored.queues other inList
  have still : other ∈ (topology.afterAll events).queues →
      other ∈ (topology.afterAll (events ++ turn.events)).queues := by
    intro there
    apply on.keeps other there
    cases kind : call.queue.serverNamed with
    | false => exact .inr rfl
    | true =>
      left
      intro clash
      exact (restored.named.server call.record member kind).1 (clash ▸ inList)
  constructor
  · intro now
    rcases on.grows other now with there | rfl
    · apply (before.mp there).imp id
      rintro ⟨record, held, rest⟩
      exact ⟨record, List.mem_append_left _ held, rest⟩
    · right
      refine ⟨call.record, List.mem_append_right _ (List.mem_singleton_self _), ?_⟩
      cases kind : call.queue.serverNamed with
      | false =>
        rw [restored.client kind]
        exact ⟨kind, (renewed.client kind).symm⟩
      | true =>
        have server : ((call.after broker polling).records call.record).serverNamed = true := by
          rw [completes.here]
          exact kind
        have unlisted := (named.server call.record member server).1
        rw [completes.here] at unlisted
        exact absurd inList unlisted
  · rintro (first | ⟨record, held, kind, rfl⟩)
    · exact still (before.mpr (.inl first))
    · rcases List.mem_append.mp held with earlier | now
      · exact still (before.mpr (.inr ⟨record, earlier, kind, rfl⟩))
      · obtain rfl := List.mem_singleton.mp now
        have isClient : call.queue.serverNamed = false := (restored.kinds call.record).trans kind
        rw [restored.client isClient, ← renewed.client isClient]
        exact on.present

theorem QueuesRestored.next (restored : QueuesRestored listed population done world topology events call.world)
    (answers : broker.AnswersBy world.performed topology listed)
    (completes : Completes broker polling call last turn name) (member : call.record ∈ population) :
    QueuesRestored listed population (done ++ [call.record]) world topology (events ++ turn.events)
      (call.after broker polling) := by
  obtain ⟨renewed, on⟩ := restored.renewed_on answers completes member
  have performed := completes.issues.performed
  have named := restored.named.renewed member renewed completes.records performed
  refine ⟨?_, ?_, ?_, named, ?_, ?_, ?_, on.exchanges.trans restored.exchanges,
    restored.present_next completes member on, restored.queues_next completes member renewed on named⟩
  · rw [performed, restored.performed, List.append_assoc]
  · intro event held
    rcases List.mem_append.mp held with before | now
    · exact restored.unbound event before
    · apply completes.no_binding
      rw [completes.events]
      exact List.mem_map_of_mem now
  · intro record held
    rcases List.mem_append.mp held with before | now
    · exact restored.members record before
    · rw [List.mem_singleton.mp now]
      exact member
  · intro record outside
    rw [List.mem_append, List.mem_singleton, not_or] at outside
    rw [completes.there outside.2]
    exact restored.others record outside.1
  · intro record kind
    by_cases same : record = call.record
    · subst same
      have now : call.queue.serverNamed = false := (restored.kinds call.record).trans kind
      rw [completes.here, renewed.client now, restored.client now]
    · rw [completes.there same]
      exact restored.clients record kind
  · intro record
    by_cases same : record = call.record
    · subst same
      rw [completes.here]
      exact restored.kinds call.record
    · rw [completes.there same]
      exact restored.kinds record

end

theorem queuesRestored_ends (world : World) (answers : broker.AnswersBy world.performed topology listed)
    (named : Named listed population world) {channel : Channel} (live : channel.connection ∉ world.closed)
    (records : List QueueRef) (members : ∀ record ∈ records, record ∈ population) :
    (records.foldlM (recoverQueue broker polling) channel).ends
      (fun last after => ∃ events, QueuesRestored listed population records world topology events after ∧
        last.connection = channel.connection ∧ after.closed = world.closed)
      (fun _ _ => False) world := by
  suffices rest : ∀ (records done : List QueueRef) (first : Channel) (middle : World) events,
      (∀ record ∈ records, record ∈ population) →
      QueuesRestored listed population done world topology events middle →
      first.connection = channel.connection → middle.closed = world.closed →
      (records.foldlM (recoverQueue broker polling) first).ends
        (fun last after => ∃ events, QueuesRestored listed population (done ++ records) world topology events after ∧
          last.connection = channel.connection ∧ after.closed = world.closed)
        (fun _ _ => False) middle from
    rest records [] channel world [] members (.refl named) rfl rfl
  intro records
  induction records with
  | nil =>
    intro done first middle events _ restored linked closed
    rw [List.append_nil]
    exact ⟨events, restored, linked, closed⟩
  | cons record records ih =>
    intro done first middle events members restored linked closed
    rw [List.forall_mem_cons] at members
    rw [List.foldlM_cons, ends_bind]
    have stillLive : first.connection ∉ middle.closed := by rwa [linked, closed]
    rcases queueCall_outcome answers.opens polling ⟨first, record, middle⟩ stillLive with
      ⟨last, turn, name, completes⟩ | ⟨failure, aborts⟩
    · rw [ends_of_return completes.ran, List.append_cons]
      exact ih _ _ _ _ members.2 (restored.next answers completes members.1)
        (completes.issues.connection.trans linked) (completes.issues.closed.trans closed)
    · -- what is missing is NOT_FOUND
      have answer := aborts.answer
      change broker.reply middle.performed _ = _ at answer
      rw [restored.performed] at answer
      cases answers.notFound _ _ _ answer

end

section

variable {broker : Broker} {listed : List String} {earlier events : List Performed} {topology : BrokerTopology}

theorem Answered.uncons {event : Performed} (answered : Answered broker earlier (event :: events)) :
    event.reply = broker.reply earlier event.operation ∧ Answered broker (earlier ++ [event]) events := by
  apply And.intro
  · have reply := answered [] event events rfl
    rwa [List.append_nil] at reply
  · intro first other rest split
    rw [List.append_assoc]
    apply answered (event :: first) other rest
    rw [split, List.cons_append]

theorem exchanges_restored (answers : broker.AnswersBy earlier topology listed)
    (answered : Answered broker earlier events) (exchanges : List RecordedExchange)
    (operations : events.map Performed.operation = exchanges.map exchangeDeclaration) :
    (topology.afterAll events).queues = topology.queues ∧
      ∀ name, name ∈ (topology.afterAll events).exchanges ↔
        name ∈ topology.exchanges ∨ ∃ exchange ∈ exchanges, exchange.name = name := by
  induction exchanges generalizing events earlier topology with
  | nil =>
    rw [List.map_nil, List.map_eq_nil_iff] at operations
    rw [operations]
    exact ⟨rfl, fun name => by simp [BrokerTopology.afterAll]⟩
  | cons exchange exchanges ih =>
    obtain ⟨event, rest, rfl, operation, later⟩ := List.map_eq_cons_iff.mp operations
    obtain ⟨reply, answeredLater⟩ := answered.uncons
    obtain ⟨generatedName, answer⟩ := (answers_now answers event.operation).mpr (by rw [operation]; trivial)
    rw [answer] at reply
    have step : topology.after event = { topology with exchanges := insert exchange.name topology.exchanges } := by
      unfold BrokerTopology.after
      rw [operation, reply]
      rfl
    obtain ⟨queues, declared⟩ := ih (answers_later answers [event]) answeredLater later
    change ((topology.after event).afterAll rest).queues = _ ∧
      ∀ name, name ∈ ((topology.after event).afterAll rest).exchanges ↔ _
    change ((topology.after event).afterAll rest).queues = (topology.after event).queues at queues
    change ∀ name, name ∈ ((topology.after event).afterAll rest).exchanges ↔
      name ∈ (topology.after event).exchanges ∨ _ at declared
    rw [queues, step]
    apply And.intro rfl
    intro name
    rw [← step, declared, step, Finset.mem_insert, List.exists_mem_cons_iff]
    rw [eq_comm (a := name), or_assoc, or_left_comm]

/-- Bindings change nothing that others need, and are accepted if what they need is there. -/
theorem bindings_restored (answers : broker.AnswersBy earlier topology listed)
    (answered : Answered broker earlier events)
    (binds : ∀ event ∈ events, (boundQueue event.operation).isSome = true) :
    topology.afterAll events = topology ∧
      ∀ event ∈ events, event.failed = false ↔ topology.Has event.operation := by
  induction events generalizing earlier with
  | nil => exact ⟨rfl, List.forall_mem_nil _⟩
  | cons event events ih =>
    rw [List.forall_mem_cons] at binds
    obtain ⟨reply, answeredLater⟩ := answered.uncons
    have step : topology.after event = topology := after_binding binds.1
    have now := answers_now answers event.operation
    rw [← reply] at now
    have later := answers_later answers [event]
    change broker.AnswersBy (earlier ++ [event]) (topology.after event) listed at later
    rw [step] at later
    obtain ⟨unchanged, accepted⟩ := ih later answeredLater binds.2
    rw [BrokerTopology.afterAll, List.foldl_cons, step, List.forall_mem_cons]
    refine ⟨unchanged, ?_, accepted⟩
    rw [← now, Performed.failed]
    cases event.reply with
    | ok generatedName => simp
    | failed failure => simp

end

structure RecordingRestored (listed : List String) (population : Set QueueRef) (recording : TopologyRecording)
    (world : World) (topology : BrokerTopology) (events : List Performed) (after : World) : Prop where
  performed : after.performed = world.performed ++ events
  closed : after.closed = world.closed
  named : Named listed population after
  others : ∀ record, record ∉ recording.queues.values → after.records record = world.records record
  clients : ∀ record, (world.records record).serverNamed = false → after.records record = world.records record
  kinds : ∀ record, (after.records record).serverNamed = (world.records record).serverNamed
  exchanges : ∀ name, name ∈ (topology.afterAll events).exchanges ↔
    name ∈ topology.exchanges ∨ ∃ exchange ∈ recording.exchanges.values, exchange.name = name
  present : ∀ record ∈ recording.queues.values, (after.records record).name ∈ (topology.afterAll events).queues
  queues : ∀ name ∈ listed, name ∈ (topology.afterAll events).queues ↔
    name ∈ topology.queues ∨ ∃ record ∈ recording.queues.values, (world.records record).serverNamed = false ∧
      (world.records record).name = name
  bindings : ∀ operation, (boundQueue operation).isSome = true → (Accepted events operation ↔
    (topology.afterAll events).Has operation ∧
      ∃ binding ∈ recording.bindings, operation = rebinding recording after.records binding)

section

variable {broker : Broker} {listed : List String} {population : Set QueueRef} {world : World}
  {topology : BrokerTopology} {recording : TopologyRecording} {connection : Connection}

theorem accepted_bindings_iff {queues exchanges bindings : List Performed} {next : BrokerTopology}
    {records : QueueRef → RecordedQueue} (unbound : ∀ event ∈ queues, boundQueue event.operation = none)
    (declared : exchanges.map Performed.operation = recording.exchanges.values.map exchangeDeclaration)
    (bound : bindings.map Performed.operation = recording.bindings.map (rebinding recording records))
    (accepted : ∀ event ∈ bindings, event.failed = false ↔ next.Has event.operation) {operation : BrokerOperation}
    (binds : (boundQueue operation).isSome = true) :
    Accepted (queues ++ exchanges ++ bindings) operation ↔
      next.Has operation ∧ ∃ binding ∈ recording.bindings, operation = rebinding recording records binding := by
  have others : ¬ Accepted (queues ++ exchanges) operation := by
    rintro ⟨event, held, rfl, _⟩
    rcases List.mem_append.mp held with queue | exchange
    · rw [unbound event queue] at binds
      cases binds
    · have operation := List.mem_map_of_mem (f := Performed.operation) exchange
      rw [declared] at operation
      obtain ⟨recorded, _, same⟩ := List.mem_map.mp operation
      rw [← same] at binds
      cases binds
  rw [accepted_append, or_iff_right others]
  constructor
  · rintro ⟨event, held, rfl, passed⟩
    apply And.intro ((accepted event held).mp passed)
    have operation := List.mem_map_of_mem (f := Performed.operation) held
    rw [bound] at operation
    obtain ⟨binding, recorded, same⟩ := List.mem_map.mp operation
    exact ⟨binding, recorded, same.symm⟩
  · rintro ⟨has, binding, recorded, rfl⟩
    have operation : rebinding recording records binding ∈ bindings.map Performed.operation := by
      rw [bound]
      exact List.mem_map_of_mem recorded
    obtain ⟨event, held, same⟩ := List.mem_map.mp operation
    refine ⟨event, held, same, (accepted event held).mpr ?_⟩
    rwa [same]

theorem recover_restores (answers : broker.AnswersBy world.performed topology listed)
    (named : Named listed population world) (live : connection ∉ world.closed)
    (members : ∀ record ∈ recording.queues.values, record ∈ population) :
    (recording.recover broker connection).ends
      (fun _ after => ∃ events, RecordingRestored listed population recording world topology events after)
      (fun _ _ => False) world := by
  have opened : Named listed population world.opened := named.later rfl (List.append_nil _).symm
  unfold recover
  rw [ends_tryCatch, ends_bind, ends_of_return (createChannel_ran answers.opens live), ends_bind]
  refine ends_mono (queuesRestored_ends world.opened answers opened live recording.queues.values members)
    ?_ fun _ _ => False.elim
  rintro channel queued ⟨queues, restored, linked, closed⟩
  have stillLive : connection ∉ queued.closed := by rwa [closed]
  have answersQueued := answers_later answers queues
  change broker.AnswersBy (world.opened.performed ++ queues) _ _ at answersQueued
  rw [← restored.performed] at answersQueued
  rw [ends_bind]
  refine ends_mono (recoverExchanges_ends answers.opens linked stillLive recording.exchanges.values)
    ?_ fun _ _ => False.elim
  rintro next declared ⟨exchanges, declares, answeredExchanges, sameDeclared, second⟩
  obtain ⟨sameQueues, exchangesNow⟩ := exchanges_restored answersQueued answeredExchanges _ declares
  have answersDeclared := answers_later answersQueued exchanges
  rw [← second.performed] at answersDeclared
  rw [ends_bind]
  refine ends_mono (recoverBindings_ends answers.opens (second.connection.trans linked)
    (by rwa [second.closed]) recording recording.bindings) ?_ fun _ _ => False.elim
  rintro last after ⟨bindings, bound, answeredBindings, sameAfter, third⟩
  have binds : ∀ event ∈ bindings, (boundQueue event.operation).isSome = true := by
    intro event held
    have operation := List.mem_map_of_mem (f := Performed.operation) held
    rw [bound] at operation
    obtain ⟨binding, _, same⟩ := List.mem_map.mp operation
    rw [← same]
    rfl
  obtain ⟨unchanged, accepted⟩ := bindings_restored answersDeclared answeredBindings binds
  have records : after.records = queued.records := sameAfter.trans sameDeclared
  have topologyNow : topology.afterAll (queues ++ exchanges ++ bindings) =
      (topology.afterAll queues).afterAll exchanges := by
    rw [afterAll_append, afterAll_append, unchanged]
  refine ⟨queues ++ exchanges ++ bindings, ⟨?_, ?_, ?_, ?_, ?_, ?_, ?_, ?_, ?_, ?_⟩⟩
  · rw [third.performed, second.performed, restored.performed]
    simp only [List.append_assoc]
    rfl
  · rw [third.closed, second.closed, closed]
    rfl
  · exact (restored.named.later sameDeclared second.performed).later sameAfter third.performed
  · rw [records]
    exact restored.others
  · rw [records]
    exact restored.clients
  · rw [records]
    exact restored.kinds
  · intro name
    rw [topologyNow, exchangesNow, restored.exchanges]
  · rw [topologyNow, records, sameQueues]
    exact restored.present
  · rw [topologyNow, sameQueues]
    exact restored.queues
  · intro operation isBinding
    rw [topologyNow]
    apply accepted_bindings_iff restored.unbound declares _ accepted isBinding
    rw [bound, sameAfter]

end

end PerfTestProof
