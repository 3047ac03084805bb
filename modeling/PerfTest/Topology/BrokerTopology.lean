import Mathlib.Data.Finset.Basic
import PerfTest.Topology.BestEffort

namespace PerfTestModel

structure BrokerTopology where
  exchanges : Finset String
  queues : Finset String
  deriving DecidableEq

namespace BrokerTopology

def after (topology : BrokerTopology) (event : Performed) : BrokerTopology :=
  match event.operation, event.reply with
  | .exchangeDeclare exchange .., .ok _ =>
    { topology with exchanges := insert exchange topology.exchanges }
  | .queueDeclare queue .., .ok generatedName =>
    { topology with queues := insert (declaredQueue queue generatedName) topology.queues }
  | .queueDelete queue, .ok _ => { topology with queues := topology.queues.erase queue }
  | _, _ => topology

def afterAll (topology : BrokerTopology) (events : List Performed) : BrokerTopology :=
  events.foldl after topology

def Has (topology : BrokerTopology) : BrokerOperation → Prop
  | .exchangeDeclarePassive exchange => exchange ∈ topology.exchanges
  | .queueDeclarePassive queue => queue ∈ topology.queues
  | .queueBind queue exchange _ => queue ∈ topology.queues ∧ exchange ∈ topology.exchanges
  | .exchangeDeclare .. | .queueDeclare .. | .queueDelete _ | .txSelect | .confirmSelect | .basicQos ..
    | .channelClose => True

instance (topology : BrokerTopology) (operation : BrokerOperation) : Decidable (topology.Has operation) :=
  match operation with
  | .exchangeDeclarePassive exchange => inferInstanceAs (Decidable (exchange ∈ topology.exchanges))
  | .queueDeclarePassive queue => inferInstanceAs (Decidable (queue ∈ topology.queues))
  | .queueBind queue exchange _ =>
    inferInstanceAs (Decidable (queue ∈ topology.queues ∧ exchange ∈ topology.exchanges))
  | .exchangeDeclare .. | .queueDeclare .. | .queueDelete _ | .txSelect | .confirmSelect | .basicQos ..
    | .channelClose => inferInstanceAs (Decidable True)

end BrokerTopology

def Accepted (events : List Performed) (operation : BrokerOperation) : Prop :=
  ∃ event ∈ events, event.operation = operation ∧ event.failed = false

instance (events : List Performed) (operation : BrokerOperation) : Decidable (Accepted events operation) :=
  inferInstanceAs (Decidable (∃ event ∈ events, event.operation = operation ∧ event.failed = false))

def Performed.declaredName (event : Performed) : Option String :=
  match event.operation, event.reply with
  | .queueDeclare queue .., .ok generatedName => some (declaredQueue queue generatedName)
  | _, _ => none

def Broker.FindsQueues (broker : Broker) (earlier : List Performed) (topology : BrokerTopology) : Prop :=
  ∀ events queue, (∃ name, broker.reply (earlier ++ events) (.queueDeclarePassive queue) = .ok name) ↔
    queue ∈ (topology.afterAll events).queues

/-- From what was performed earlier on, the broker answers passive declarations by what there is, and
    the names that it makes up are new: no client listed them, and no queue has or had them. -/
structure Broker.ChecksBy (broker : Broker) (earlier : List Performed) (topology : BrokerTopology)
    (listed : List String) : Prop where
  passive : ∀ events operation, operation.isPassive = true →
    ((∃ name, broker.reply (earlier ++ events) operation = .ok name) ↔ (topology.afterAll events).Has operation)
  fresh : ∀ events durable exclusive autoDelete arguments name,
    broker.reply (earlier ++ events) (.queueDeclare "" durable exclusive autoDelete arguments) = .ok name →
    name ≠ "" ∧ name ∉ listed ∧ name ∉ topology.queues ∧
      ∀ event ∈ earlier ++ events, event.declaredName ≠ some name

structure Broker.AnswersBy (broker : Broker) (earlier : List Performed) (topology : BrokerTopology)
    (listed : List String) : Prop extends Broker.ChecksBy broker earlier topology listed where
  opens : broker.AlwaysOpens
  answers : ∀ events operation, operation.isPassive = false →
    ((∃ name, broker.reply (earlier ++ events) operation = .ok name) ↔ (topology.afterAll events).Has operation)
  notFound : ∀ events operation failure, broker.reply (earlier ++ events) operation = .failed failure →
    failure = .notFound

def lengths : List String → ℕ
  | [] => 0
  | name :: names => name.length + lengths names

def nextName (listed : List String) (performed : List Performed) : String :=
  String.ofList (List.replicate (lengths (listed ++ performed.filterMap Performed.declaredName) + 1) 'q')

def keepingBroker (earlier : List Performed) (topology : BrokerTopology) (listed : List String) : Broker where
  reply performed operation :=
    if (topology.afterAll (performed.drop earlier.length)).Has operation then .ok (nextName listed performed)
    else .failed .notFound
  opens _ _ := true

end PerfTestModel

namespace PerfTestProof

open Systems Program PerfTestModel TopologyRecording

section

variable {topology : BrokerTopology} {event : Performed} {events : List Performed}

theorem afterAll_append (topology : BrokerTopology) (first second : List Performed) :
    topology.afterAll (first ++ second) = (topology.afterAll first).afterAll second :=
  List.foldl_append ..

theorem after_passive (passive : event.operation.isPassive = true) : topology.after event = topology := by
  unfold BrokerTopology.after
  cases operation : event.operation <;> rw [operation] at passive <;> first | rfl | cases passive

theorem after_binding (binds : (boundQueue event.operation).isSome = true) : topology.after event = topology := by
  unfold BrokerTopology.after
  cases operation : event.operation <;> rw [operation] at binds <;> first | rfl | cases binds

theorem afterAll_unchanged (unchanged : ∀ event ∈ events, topology.after event = topology) :
    topology.afterAll events = topology := by
  induction events with
  | nil => rfl
  | cons event events ih =>
    rw [List.forall_mem_cons] at unchanged
    rw [BrokerTopology.afterAll, List.foldl_cons, unchanged.1]
    exact ih unchanged.2

theorem afterAll_passive (passive : ∀ event ∈ events, event.operation.isPassive = true) :
    topology.afterAll events = topology :=
  afterAll_unchanged fun event held => after_passive (passive event held)

theorem accepted_append {first second : List Performed} {operation : BrokerOperation} :
    Accepted (first ++ second) operation ↔ Accepted first operation ∨ Accepted second operation := by
  simp only [Accepted, List.mem_append, or_and_right, exists_or]

theorem mem_queues_after {name : String} (present : name ∈ (topology.after event).queues) :
    name ∈ topology.queues ∨ event.declaredName = some name := by
  unfold BrokerTopology.after at present
  unfold Performed.declaredName
  split at present
  · exact .inl present
  · rename_i declared generatedName operation reply
    rcases Finset.mem_insert.mp present with rfl | before
    · exact .inr (by rw [operation, reply])
    · exact .inl before
  · exact .inl (Finset.mem_of_mem_erase present)
  · exact .inl present

theorem mem_queues_afterAll {name : String} (present : name ∈ (topology.afterAll events).queues) :
    name ∈ topology.queues ∨ ∃ event ∈ events, event.declaredName = some name := by
  induction events generalizing topology with
  | nil => exact .inl present
  | cons event events ih =>
    rcases ih present with before | ⟨later, member, declares⟩
    · rcases mem_queues_after before with first | declares
      · exact .inl first
      · exact .inr ⟨event, List.mem_cons_self, declares⟩
    · exact .inr ⟨later, List.mem_cons_of_mem _ member, declares⟩

end

section

variable {broker : Broker} {earlier events : List Performed} {topology : BrokerTopology} {listed : List String}

theorem length_le_lengths {name : String} {names : List String} (member : name ∈ names) :
    name.length ≤ lengths names := by
  induction names with
  | nil => cases member
  | cons first names ih =>
    rw [lengths]
    rcases List.mem_cons.mp member with rfl | later
    · omega
    · have rest := ih later
      omega

theorem nextName_ne_empty (listed : List String) (performed : List Performed) : nextName listed performed ≠ "" := by
  intro empty
  have positive := congrArg String.length empty
  rw [nextName, String.length_ofList, List.length_replicate] at positive
  exact absurd positive (Nat.succ_ne_zero _)

theorem nextName_not_mem (listed : List String) (performed : List Performed) :
    nextName listed performed ∉ listed ++ performed.filterMap Performed.declaredName := by
  intro member
  have bounded := length_le_lengths member
  rw [nextName, String.length_ofList, List.length_replicate] at bounded
  omega

theorem keepingBroker_answers (earlier : List Performed) {topology : BrokerTopology} {listed : List String}
    (within : ∀ name ∈ topology.queues, name ∈ listed) :
    (keepingBroker earlier topology listed).AnswersBy earlier topology listed := by
  have replies : ∀ events operation, (keepingBroker earlier topology listed).reply (earlier ++ events) operation =
      if (topology.afterAll events).Has operation then .ok (nextName listed (earlier ++ events))
      else .failed .notFound := by
    intro events operation
    change (if (topology.afterAll ((earlier ++ events).drop earlier.length)).Has operation then _ else _) = _
    rw [List.drop_left]
  have answered : ∀ events operation,
      (∃ name, (keepingBroker earlier topology listed).reply (earlier ++ events) operation = .ok name) ↔
        (topology.afterAll events).Has operation := by
    intro events operation
    rw [replies]
    split
    · rename_i has
      exact iff_of_true ⟨_, rfl⟩ has
    · rename_i lacks
      exact iff_of_false nofun lacks
  refine ⟨⟨fun events operation _ => answered events operation, ?_⟩, fun _ _ => rfl,
    fun events operation _ => answered events operation, fun events operation failure answer => ?_⟩
  · intro events durable exclusive autoDelete arguments name answer
    rw [replies, if_pos (show (topology.afterAll events).Has (.queueDeclare ..) from trivial)] at answer
    obtain rfl := Reply.ok.inj answer
    have new := nextName_not_mem listed (earlier ++ events)
    rw [List.mem_append, not_or] at new
    refine ⟨nextName_ne_empty _ _, new.1, fun present => new.1 (within _ present), fun event held declares => ?_⟩
    exact new.2 (List.mem_filterMap.mpr ⟨event, held, declares⟩)
  · rw [replies] at answer
    split at answer
    · cases answer
    · exact (Reply.failed.inj answer).symm

theorem answers_later (answers : broker.AnswersBy earlier topology listed) (events : List Performed) :
    broker.AnswersBy (earlier ++ events) (topology.afterAll events) listed := by
  refine ⟨⟨fun more operation passive => ?_, ?_⟩, answers.opens, fun more operation active => ?_, ?_⟩
  · rw [List.append_assoc, ← afterAll_append]
    exact answers.passive (events ++ more) operation passive
  · intro more durable exclusive autoDelete arguments name answer
    rw [List.append_assoc] at answer ⊢
    obtain ⟨named, unlisted, new, undeclared⟩ := answers.fresh _ _ _ _ _ _ answer
    refine ⟨named, unlisted, fun present => ?_, undeclared⟩
    rcases mem_queues_afterAll present with before | ⟨event, member, declares⟩
    · exact new before
    · refine undeclared event ?_ declares
      exact List.mem_append_right _ (List.mem_append_left _ member)
  · rw [List.append_assoc, ← afterAll_append]
    exact answers.answers (events ++ more) operation active
  · intro more operation failure answer
    rw [List.append_assoc] at answer
    exact answers.notFound _ _ _ answer

theorem answers_now (answers : broker.AnswersBy earlier topology listed) (operation : BrokerOperation) :
    (∃ name, broker.reply earlier operation = .ok name) ↔ topology.Has operation := by
  have passive := answers.passive [] operation
  have active := answers.answers [] operation
  rw [List.append_nil] at passive active
  cases kind : operation.isPassive with
  | true => exact passive kind
  | false => exact active kind

end

end PerfTestProof
