import PerfTest.Topology.BrokerTopology
import PerfTest.Topology.Dealing

namespace PerfTestModel

def ExchangeThere (params : MulticastParams) (before : BrokerTopology) : Prop :=
  params.predeclared = true ∧ (reserved params.exchangeName = true ∨ params.exchangeName ∈ before.exchanges)

def QueueThere (params : MulticastParams) (before : BrokerTopology) (queues : List String) (position : ℕ)
    (queue : String) : Prop :=
  params.predeclared = true ∧ (queue ∈ before.queues ∨ ∃ earlier < position, queues[earlier]? = some queue)

end PerfTestModel

namespace PerfTestProof

open Systems Program PerfTestModel TopologyRecording

section

variable {broker : Broker} {params : MulticastParams} {handler : TopologyHandler} {index : ℕ}
  {earlier check declaration : List Performed} {queue : DealtQueue} {dealt : List DealtQueue}
  {topology : BrokerTopology}

theorem Declares.check_passive (declares : Declares broker params earlier queue) :
    ∀ event ∈ queue.check, event.operation = .queueDeclarePassive queue.requested ∧ params.predeclared = true := by
  intro event held
  have operation := List.mem_map_of_mem (f := Performed.operation) held
  rw [declares.checks] at operation
  split at operation
  · rename_i predeclared
    exact ⟨List.mem_singleton.mp operation, predeclared⟩
  · cases operation

theorem Declares.after (declares : Declares broker params earlier queue)
    (binds : BindsAt params handler index queue) : topology.afterAll queue.events =
      if queue.found then topology else { topology with queues := insert queue.name topology.queues } := by
  have checked : topology.afterAll queue.check = topology := by
    apply afterAll_passive
    intro event held
    rw [(declares.check_passive event held).1]
    rfl
  have bound : ∀ topology : BrokerTopology, topology.afterAll queue.binding = topology := by
    intro topology
    cases binding : bindsQueues params with
    | true =>
      obtain ⟨channel, generatedName, performed⟩ := binds.bound binding
      rw [performed]
      rfl
    | false =>
      rw [binds.unbound binding]
      rfl
  rw [DealtQueue.events, afterAll_append, afterAll_append, checked, bound]
  rcases declares.declares with ⟨found, none, _⟩ | ⟨missing, channel, generatedName, performed, _, name⟩
  · rw [none, found]
    rfl
  · rw [performed, missing, name]
    rfl

theorem mem_queues_dealt (each : ∀ queue ∈ dealt, (∃ earlier, Declares broker params earlier queue) ∧
      ∃ index, BindsAt params handler index queue) {name : String} :
    name ∈ (topology.afterAll (dealt.flatMap DealtQueue.events)).queues ↔
      name ∈ topology.queues ∨ ∃ queue ∈ dealt, queue.found = false ∧ queue.name = name := by
  induction dealt generalizing topology with
  | nil => simp [BrokerTopology.afterAll]
  | cons queue dealt ih =>
    rw [List.forall_mem_cons] at each
    obtain ⟨⟨⟨earlier, declares⟩, index, binds⟩, later⟩ := each
    rw [List.flatMap_cons, afterAll_append, ih later, declares.after binds, List.exists_mem_cons_iff]
    cases found : queue.found with
    | true => simp
    | false =>
      simp only [Bool.false_eq_true, if_false, Finset.mem_insert, true_and]
      rw [eq_comm (a := name), or_assoc, or_left_comm]

theorem DeclaresExchange.queues (declares : DeclaresExchange broker params earlier check declaration) :
    (topology.afterAll (check ++ declaration)).queues = topology.queues := by
  have checked : topology.afterAll check = topology := by
    apply afterAll_passive
    intro event held
    have operation := List.mem_map_of_mem (f := Performed.operation) held
    rw [declares.checks] at operation
    split at operation
    · rw [List.mem_singleton.mp operation]
      rfl
    · cases operation
  rw [afterAll_append, checked]
  cases found : exchangeFound params check with
  | true =>
    rw [declares.found found]
    rfl
  | false =>
    obtain ⟨channel, generatedName, performed⟩ := declares.missing found
    rw [performed]
    rfl

theorem any_passed_iff (operation : BrokerOperation)
    (checks : ∀ event ∈ check, event.operation = operation ∧ event.reply = broker.reply earlier operation)
    (asked : check ≠ []) :
    (check.any fun event => !event.failed) = true ↔ ∃ name, broker.reply earlier operation = .ok name := by
  have passed : ∀ event ∈ check, event.failed = false ↔ ∃ name, broker.reply earlier operation = .ok name := by
    intro event held
    rw [← (checks event held).2, Performed.failed]
    cases event.reply with
    | ok generatedName => simp
    | failed failure => simp
  rw [List.any_eq_true]
  constructor
  · rintro ⟨event, held, success⟩
    exact (passed event held).mp (Bool.not_eq_true' _ ▸ success)
  · intro accepted
    obtain ⟨event, held⟩ := List.exists_mem_of_ne_nil check asked
    refine ⟨event, held, ?_⟩
    rw [(passed event held).mpr accepted]
    rfl

end

structure DealtNames (params : MulticastParams) (before : BrokerTopology) (listed : List String)
    (dealt : List DealtQueue) : Prop where
  client : ∀ (position : ℕ) (queue : DealtQueue), dealt[position]? = some queue → queue.requested ≠ "" →
    queue.name = queue.requested ∧ queue.requested ∈ listed
  server : ∀ (position : ℕ) (queue : DealtQueue), dealt[position]? = some queue → queue.requested = "" →
    queue.found = false ∧ queue.name ∉ listed ∧ queue.name ∉ before.queues
  once : ∀ (position : ℕ) (queue : DealtQueue), dealt[position]? = some queue → queue.requested = "" →
    ∀ (other : ℕ) (same : DealtQueue), dealt[other]? = some same → same.name = queue.name → other = position
  found : ∀ (position : ℕ) (queue : DealtQueue), dealt[position]? = some queue → queue.requested ≠ "" →
    (queue.found = true ↔ QueueThere params before (dealt.map DealtQueue.requested) position queue.requested)

section

variable {broker : Broker} {params : MulticastParams} {handler : TopologyHandler} {advances declared : Bool}
  {setup after : Setup} {count : ℕ} {head check declaration : List Performed} {dealt : List DealtQueue}
  {recordingOf : ℕ → TopologyRecording} {before : BrokerTopology} {listed : List String} {queue : DealtQueue}
  {position : ℕ}

theorem findsQueues_of_checks {earlier : List Performed} (checks : broker.ChecksBy earlier before listed) :
    broker.FindsQueues earlier before :=
  fun events queue => checks.passive events (.queueDeclarePassive queue) rfl

theorem exchangeFound_iff (declares : DeclaresExchange broker params setup.world.performed check declaration)
    (checks : broker.ChecksBy setup.world.performed before listed) :
    exchangeFound params check = true ↔ ExchangeThere params before := by
  unfold exchangeFound ExchangeThere
  rw [Bool.and_eq_true, Bool.or_eq_true]
  apply and_congr_right
  intro predeclared
  by_cases isReserved : reserved params.exchangeName = true
  · exact iff_of_true (.inl isReserved) (.inl isReserved)
  · rw [or_iff_right isReserved, or_iff_right isReserved]
    have operations := declares.checks
    rw [predeclared, Bool.eq_false_of_not_eq_true isReserved] at operations
    obtain ⟨event, rfl, operation⟩ := List.map_eq_singleton_iff.mp operations
    have passive := checks.passive [] (.exchangeDeclarePassive params.exchangeName) rfl
    rw [List.append_nil] at passive
    change _ ↔ (before.Has (.exchangeDeclarePassive params.exchangeName))
    rw [any_passed_iff (.exchangeDeclarePassive params.exchangeName) _ (List.cons_ne_nil _ _), passive]
    · rfl
    · intro other held
      rw [List.mem_singleton.mp held, ← operation]
      exact ⟨rfl, declares.answers event (List.mem_singleton_self event)⟩

theorem Dealing.mem_queues (dealing : Dealing broker params handler advances setup count declared
      (check ++ declaration) dealt recordingOf after)
    (declares : DeclaresExchange broker params setup.world.performed check declaration) (position : ℕ) {name : String} :
    name ∈ (before.afterAll (check ++ declaration ++ (dealt.take position).flatMap DealtQueue.events)).queues ↔
      name ∈ before.queues ∨ ∃ earlier < position, ∃ queue, dealt[earlier]? = some queue ∧ queue.found = false ∧
        queue.name = name := by
  have each : ∀ queue ∈ dealt.take position, (∃ earlier, Declares broker params earlier queue) ∧
      ∃ index, BindsAt params handler index queue := by
    intro queue held
    obtain ⟨earlier, less, rfl⟩ := List.mem_iff_getElem.mp (List.mem_of_mem_take held)
    have found : dealt[earlier]? = some dealt[earlier] := List.getElem?_eq_getElem less
    exact ⟨⟨_, dealing.declares earlier _ found⟩, _, dealing.binds earlier _ found⟩
  rw [afterAll_append, mem_queues_dealt each, declares.queues]
  apply or_congr_right
  constructor
  · rintro ⟨queue, held, missing, name⟩
    obtain ⟨earlier, found⟩ := List.mem_iff_getElem?.mp held
    rw [List.getElem?_take] at found
    split at found
    · rename_i less
      exact ⟨earlier, less, queue, found, missing, name⟩
    · cases found
  · rintro ⟨earlier, less, queue, found, missing, name⟩
    refine ⟨queue, List.mem_iff_getElem?.mpr ⟨earlier, ?_⟩, missing, name⟩
    rw [List.getElem?_take, if_pos less]
    exact found

theorem Dealing.found_iff (dealing : Dealing broker params handler advances setup count declared
      (check ++ declaration) dealt recordingOf after)
    (declares : DeclaresExchange broker params setup.world.performed check declaration)
    (finds : broker.FindsQueues setup.world.performed before) (at_position : dealt[position]? = some queue) :
    queue.found = true ↔ params.predeclared = true ∧ (queue.requested ∈ before.queues ∨
      ∃ earlier < position, ∃ other, dealt[earlier]? = some other ∧ other.found = false ∧
        other.name = queue.requested) := by
  have asks := dealing.declares position queue at_position
  rw [List.append_assoc] at asks
  rw [← dealing.mem_queues declares position, ← finds]
  have passive : ∀ event ∈ queue.check, event.operation = .queueDeclarePassive queue.requested ∧
      event.reply = broker.reply (setup.world.performed ++
        (check ++ declaration ++ (dealt.take position).flatMap DealtQueue.events))
        (.queueDeclarePassive queue.requested) := by
    intro event held
    have operation := (asks.check_passive event held).1
    rw [← operation]
    exact ⟨rfl, asks.answers event held⟩
  have operations := asks.checks
  cases predeclared : params.predeclared with
  | true =>
    rw [predeclared, if_pos rfl] at operations
    rw [DealtQueue.found, any_passed_iff _ passive]
    · simp
    · intro none
      rw [none] at operations
      cases operations
  | false =>
    rw [predeclared, if_neg Bool.false_ne_true, List.map_eq_nil_iff] at operations
    rw [DealtQueue.found, operations]
    simp

structure Unused (before : BrokerTopology) (listed : List String) (history : List Performed) (name : String) :
    Prop where
  nonempty : name ≠ ""
  unlisted : name ∉ listed
  absent : name ∉ before.queues
  undeclared : ∀ event ∈ history, event.declaredName ≠ some name

theorem Dealing.declared_name (dealing : Dealing broker params handler advances setup count declared
      head dealt recordingOf after) (checks : broker.ChecksBy setup.world.performed before listed)
    (at_position : dealt[position]? = some queue) (missing : queue.found = false) :
    queue.requested ≠ "" ∧ queue.name = queue.requested ∨
      queue.requested = "" ∧ Unused before listed
        (setup.world.performed ++ head ++ (dealt.take position).flatMap DealtQueue.events) queue.name := by
  have asks := dealing.declares position queue at_position
  rcases asks.declares with ⟨found, _⟩ | ⟨_, channel, generatedName, _, answer, name⟩
  · rw [missing] at found
    cases found
  · by_cases requested : queue.requested = ""
    · right
      rw [name, declaredQueue, if_pos requested]
      rw [requested, queueDeclaration, List.append_assoc, List.append_assoc] at answer
      obtain ⟨nonempty, unlisted, absent, undeclared⟩ := checks.fresh _ _ _ _ _ _ answer
      refine ⟨requested, nonempty, unlisted, absent, fun event held => undeclared event ?_⟩
      rw [← List.append_assoc, ← List.append_assoc]
      exact List.mem_append_left _ held
    · left
      rw [name, declaredQueue, if_neg requested]
      exact ⟨requested, rfl⟩

theorem Declares.known {earlier : List Performed} (declares : Declares broker params earlier queue)
    (missing : queue.found = false) : ∃ event ∈ queue.events, event.declaredName = some queue.name := by
  rcases declares.declares with ⟨found, _⟩ | ⟨_, channel, generatedName, performed, _, name⟩
  · rw [missing] at found
    cases found
  · refine ⟨⟨channel, queueDeclaration params queue.requested, .ok generatedName⟩, ?_, ?_⟩
    · rw [DealtQueue.events, performed]
      simp
    · rw [name]
      rfl

theorem Dealing.known_later (dealing : Dealing broker params handler advances setup count declared
      head dealt recordingOf after) (at_position : dealt[position]? = some queue) (missing : queue.found = false)
    {later : ℕ} (less : position < later) :
    ∃ event ∈ setup.world.performed ++ head ++ (dealt.take later).flatMap DealtQueue.events,
      event.declaredName = some queue.name := by
  obtain ⟨event, held, declares⟩ := (dealing.declares position queue at_position).known missing
  refine ⟨event, List.mem_append_right _ (List.mem_flatMap.mpr ⟨queue, ?_, held⟩), declares⟩
  apply List.mem_iff_getElem?.mpr
  refine ⟨position, ?_⟩
  rw [List.getElem?_take, if_pos less]
  exact at_position

theorem Dealing.server_named (dealing : Dealing broker params handler advances setup count declared
      (check ++ declaration) dealt recordingOf after)
    (declares : DeclaresExchange broker params setup.world.performed check declaration)
    (checks : broker.ChecksBy setup.world.performed before listed) (nameless : "" ∉ before.queues)
    (at_position : dealt[position]? = some queue) (requested : queue.requested = "") :
    queue.found = false ∧ Unused before listed
      (setup.world.performed ++ (check ++ declaration) ++ (dealt.take position).flatMap DealtQueue.events)
      queue.name := by
  have missing : queue.found = false := by
    apply Bool.eq_false_of_not_eq_true
    rw [dealing.found_iff declares (findsQueues_of_checks checks) at_position, requested]
    rintro ⟨_, there | ⟨earlier, _, other, found, otherMissing, name⟩⟩
    · exact nameless there
    · rcases dealing.declared_name checks found otherMissing with ⟨named, same⟩ | ⟨_, unused⟩
      · rw [← same] at named
        exact named name
      · exact unused.nonempty name
  rcases dealing.declared_name checks at_position missing with ⟨named, _⟩ | ⟨_, unused⟩
  · exact absurd requested named
  · exact ⟨missing, unused⟩

theorem Dealing.client_named (dealing : Dealing broker params handler advances setup count declared
      head dealt recordingOf after) (checks : broker.ChecksBy setup.world.performed before listed)
    (at_position : dealt[position]? = some queue) (requested : queue.requested ≠ "") :
    queue.name = queue.requested := by
  cases missing : queue.found with
  | false =>
    rcases dealing.declared_name checks at_position missing with ⟨_, same⟩ | ⟨named, _⟩
    · exact same
    · exact absurd named requested
  | true =>
    rcases (dealing.declares position queue at_position).declares with ⟨_, _, same⟩ | ⟨found, _⟩
    · exact same
    · rw [missing] at found
      cases found

theorem requested_listed {queues : List String}
    (requested : dealt.map DealtQueue.requested = queuesToConfigure params queues)
    (at_position : dealt[position]? = some queue) (named : queue.requested ≠ "") : queue.requested ∈ queues := by
  have held := List.mem_map_of_mem (f := DealtQueue.requested) (List.mem_of_getElem? at_position)
  rw [requested, queuesToConfigure] at held
  split at held
  · exact absurd (List.mem_singleton.mp held) named
  · exact held

/-- A queue that was asked for by name was there before, or the name is in the list already. -/
theorem Dealing.there_iff (dealing : Dealing broker params handler advances setup count declared
      (check ++ declaration) dealt recordingOf after)
    (declares : DeclaresExchange broker params setup.world.performed check declaration)
    (checks : broker.ChecksBy setup.world.performed before listed)
    (inList : ∀ (position : ℕ) (queue : DealtQueue), dealt[position]? = some queue → queue.requested ≠ "" →
      queue.requested ∈ listed)
    (at_position : dealt[position]? = some queue) (named : queue.requested ≠ "") :
    queue.found = true ↔ QueueThere params before (dealt.map DealtQueue.requested) position queue.requested := by
  rw [dealing.found_iff declares (findsQueues_of_checks checks) at_position, QueueThere]
  apply and_congr_right
  intro predeclared
  constructor
  · rintro (there | ⟨earlier, less, other, found, missing, name⟩)
    · exact .inl there
    · right
      refine ⟨earlier, less, ?_⟩
      rw [List.getElem?_map, found]
      rcases dealing.declared_name checks found missing with ⟨_, same⟩ | ⟨_, unused⟩
      · rw [← name, same]
        rfl
      · exact absurd (name ▸ inList position queue at_position named) unused.unlisted
  · rintro (there | ⟨earlier, less, found⟩)
    · exact .inl there
    · rw [List.getElem?_map] at found
      obtain ⟨other, at_earlier, same⟩ := Option.map_eq_some_iff.mp found
      have otherNamed : other.requested ≠ "" := by rwa [same]
      cases missing : other.found with
      | false =>
        right
        refine ⟨earlier, less, other, at_earlier, missing, ?_⟩
        rw [dealing.client_named checks at_earlier otherNamed, same]
      | true =>
        rw [dealing.found_iff declares (findsQueues_of_checks checks) at_earlier, same] at missing
        apply missing.2.imp id
        rintro ⟨first, firstLess, rest⟩
        exact ⟨first, Nat.lt_trans firstLess less, rest⟩

theorem Dealing.names (dealing : Dealing broker params handler advances setup count declared
      (check ++ declaration) dealt recordingOf after)
    (declares : DeclaresExchange broker params setup.world.performed check declaration)
    (checks : broker.ChecksBy setup.world.performed before listed) (nameless : "" ∉ before.queues)
    (requested : dealt.map DealtQueue.requested = queuesToConfigure params listed) :
    DealtNames params before listed dealt := by
  have inList : ∀ (position : ℕ) (queue : DealtQueue), dealt[position]? = some queue → queue.requested ≠ "" →
      queue.requested ∈ listed := fun position queue => requested_listed requested
  -- a queue that is named later takes another name
  have ordered : ∀ (position later : ℕ) (queue last : DealtQueue), dealt[position]? = some queue →
      dealt[later]? = some last → last.requested = "" → position < later → queue.name ≠ last.name := by
    intro position later queue last at_position at_later server less same
    obtain ⟨_, unused⟩ := dealing.server_named declares checks nameless at_later server
    cases missing : queue.found with
    | false =>
      obtain ⟨event, held, known⟩ := dealing.known_later at_position missing less
      exact unused.undeclared event held (same ▸ known)
    | true =>
      have named : queue.requested ≠ "" := by
        intro empty
        rw [(dealing.server_named declares checks nameless at_position empty).1] at missing
        cases missing
      apply unused.unlisted
      rw [← same, dealing.client_named checks at_position named]
      exact inList position queue at_position named
  refine ⟨fun position queue at_position named => ?_, fun position queue at_position server => ?_, ?_,
    fun position queue => dealing.there_iff declares checks inList⟩
  · exact ⟨dealing.client_named checks at_position named, inList position queue at_position named⟩
  · obtain ⟨missing, unused⟩ := dealing.server_named declares checks nameless at_position server
    exact ⟨missing, unused.unlisted, unused.absent⟩
  · intro position queue at_position server other same at_other name
    rcases Nat.lt_trichotomy other position with less | equal | less
    · exact absurd name (ordered other position same queue at_other at_position server less)
    · exact equal
    · by_cases named : same.requested = ""
      · exact absurd name.symm (ordered position other queue same at_position at_other named less)
      · obtain ⟨_, unused⟩ := dealing.server_named declares checks nameless at_position server
        refine absurd ?_ unused.unlisted
        rw [← name, dealing.client_named checks at_other named]
        exact inList other same at_other named

end

end PerfTestProof
