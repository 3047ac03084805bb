import PerfTest.Consumer.ReceptionLimit

namespace PerfTestModel

/-- What a passive declaration ends with. A channel that is closed throws an AlreadyClosedException. -/
inductive DeclareOutcome
  | messageCount (count : ℕ)
  | ioException
  | alreadyClosed
  deriving DecidableEq, Repr

structure DeclareCheck where
  currentTime : ℤ
  declare : ℕ → DeclareOutcome
  closes : Bool

inductive EmptyEvent
  | delivery (delivery : Delivery)
  | check (check : DeclareCheck)

namespace DeclareCheck

def exitCheck (check : DeclareCheck) : ExitCheck := ⟨check.currentTime, fun _ => none⟩

def outcomes (check : DeclareCheck) (queues : List String) : List DeclareOutcome :=
  (List.range queues.length).map check.declare

def anyEmpty : Bool → List DeclareOutcome → Option Bool
  | empty, [] => some empty
  | empty, .messageCount count :: outcomes => anyEmpty (empty || count == 0) outcomes
  | empty, .ioException :: outcomes => anyEmpty empty outcomes
  | _, .alreadyClosed :: _ => none

end DeclareCheck

namespace Consumer

open DeclareCheck

def maybeStop (parameters : ConsumerParameters) (check : DeclareCheck) (consumer : Consumer) : Consumer :=
  if parameters.exitWhen = .never then consumer
  else if consumer.lastActivityTimestamp = -1 then { consumer with lastActivityTimestamp := check.currentTime }
  else if consumer.isIdle parameters check.exitCheck then
    if parameters.exitWhen = .idle then consumer.exitWith parameters .idle
    else
      let declared := if check.closes then consumer.closeChannel else consumer
      match anyEmpty false (check.outcomes consumer.queueNames) with
      | some true => declared.exitWith parameters .queueEmpty
      | some false | none => declared
  else consumer

def handleEvent (parameters : ConsumerParameters) (consumer : Consumer) : EmptyEvent → Consumer
  | .delivery delivery => consumer.handleDelivery parameters delivery
  | .check check => consumer.maybeStop parameters check

def checked (parameters : ConsumerParameters) (channel : ℕ) (queueNames : List String) (events : List EmptyEvent) :
    Consumer :=
  events.foldl (handleEvent parameters) (start channel queueNames)

end Consumer

end PerfTestModel

namespace PerfTestProof

open Systems PerfTestModel Consumer DeclareCheck

def outcomesOf (messageCount : String → Option ℕ) : List String → Bool → List DeclareOutcome
  | [], _ => []
  | _ :: queues, false => .alreadyClosed :: outcomesOf messageCount queues false
  | queue :: queues, true =>
    match messageCount queue with
    | some count => .messageCount count :: outcomesOf messageCount queues true
    | none => .ioException :: outcomesOf messageCount queues false

section

variable {messageCount : String → Option ℕ} {parameters : ConsumerParameters} {consumer : Consumer}

theorem length_outcomesOf (queues : List String) (open_ : Bool) :
    (outcomesOf messageCount queues open_).length = queues.length := by
  induction queues generalizing open_ with
  | nil => rfl
  | cons queue queues ih =>
    cases open_ with
    | false => exact congrArg (· + 1) (ih false)
    | true =>
      unfold outcomesOf
      split
      · exact congrArg (· + 1) (ih true)
      · exact congrArg (· + 1) (ih false)

/-- The flag tells whether some queue is empty, unless an exception leaves the loop. -/
theorem anyEmpty_eq (empty : Bool) (outcomes : List DeclareOutcome) :
    anyEmpty empty outcomes =
      if .alreadyClosed ∈ outcomes then none else some (empty || decide (.messageCount 0 ∈ outcomes)) := by
  induction outcomes generalizing empty with
  | nil => exact congrArg some (Bool.or_false empty).symm
  | cons outcome outcomes ih =>
    cases outcome with
    | messageCount count =>
      have zero : (DeclareOutcome.messageCount 0 ∈ DeclareOutcome.messageCount count :: outcomes) ↔
          count = 0 ∨ DeclareOutcome.messageCount 0 ∈ outcomes := by
        rw [List.mem_cons, DeclareOutcome.messageCount.injEq, eq_comm]
      unfold anyEmpty
      rw [ih]
      simp only [List.mem_cons, reduceCtorEq, false_or, zero, Bool.decide_or, Bool.or_assoc]
      rfl
    | ioException =>
      unfold anyEmpty
      rw [ih]
      simp only [List.mem_cons, reduceCtorEq, false_or]
    | alreadyClosed => rw [if_pos List.mem_cons_self]; rfl

theorem anyEmpty_or (empty : Bool) (outcomes : List DeclareOutcome) :
    anyEmpty empty outcomes = (anyEmpty false outcomes).map (empty || ·) := by
  rw [anyEmpty_eq, anyEmpty_eq false]
  split <;> rfl

theorem checkQueues_eq (queues : List String) (open_ : Bool) :
    (checkQueues messageCount queues open_).map Prod.fst = anyEmpty false (outcomesOf messageCount queues open_) := by
  induction queues generalizing open_ with
  | nil => rfl
  | cons queue queues ih =>
    cases open_ with
    | false => rfl
    | true =>
      unfold checkQueues outcomesOf
      cases messageCount queue with
      | some count =>
        dsimp only
        unfold anyEmpty
        rw [anyEmpty_or, ← ih true, Option.map_map, Option.map_map, Bool.false_or]
        rfl
      | none => exact ih false

theorem outcomes_getElem (outcomes : List DeclareOutcome) :
    (List.range outcomes.length).map (fun index => outcomes[index]?.getD .alreadyClosed) = outcomes := by
  refine List.ext_getElem ?_ fun index _ bound => ?_
  · rw [List.length_map, List.length_range]
  · rw [List.getElem_map, List.getElem_range, List.getElem?_eq_getElem bound, Option.getD_some]

def declareCheckOf (check : ExitCheck) (consumer : Consumer) : DeclareCheck where
  currentTime := check.currentTime
  declare := fun index => (outcomesOf check.messageCount consumer.queueNames
    (consumer.channel ∉ consumer.closedChannels))[index]?.getD .alreadyClosed
  closes :=
    match checkQueues check.messageCount consumer.queueNames (consumer.channel ∉ consumer.closedChannels) with
    | some (_, true) => false
    | some (_, false) | none => true

theorem maybeStop_eq (exitWhen : parameters.exitWhen = .empty) (check : ExitCheck) :
    consumer.maybeStopIfNoActivityOrQueueEmpty parameters check =
      consumer.maybeStop parameters (declareCheckOf check consumer) := by
  have outcomes : (declareCheckOf check consumer).outcomes consumer.queueNames =
      outcomesOf check.messageCount consumer.queueNames (consumer.channel ∉ consumer.closedChannels) := by
    unfold DeclareCheck.outcomes declareCheckOf
    dsimp only
    rw [← length_outcomesOf consumer.queueNames (consumer.channel ∉ consumer.closedChannels)]
    exact outcomes_getElem _
  unfold maybeStopIfNoActivityOrQueueEmpty maybeStop
  rw [outcomes, ← checkQueues_eq, exitWhen]
  unfold checkedQueues declareCheckOf
  rcases checkQueues check.messageCount consumer.queueNames (consumer.channel ∉ consumer.closedChannels) with
    _ | ⟨_ | _, _ | _⟩ <;> rfl

theorem anyEmpty_iff {outcomes : List DeclareOutcome} :
    anyEmpty false outcomes = some true ↔ .alreadyClosed ∉ outcomes ∧ .messageCount 0 ∈ outcomes := by
  rw [anyEmpty_eq]
  split
  · rename_i closed
    exact iff_of_false (by rintro ⟨⟩) fun found => found.1 closed
  · rename_i opened
    rw [Option.some_inj, Bool.false_or, decide_eq_true_eq, and_iff_right opened]

def emptyCountDowns (consumer : Consumer) : ℕ := consumer.actions.count (.countDown .queueEmpty)

theorem emptyCountDowns_delivery (delivery : Delivery) :
    emptyCountDowns (consumer.handleDelivery parameters delivery) = emptyCountDowns consumer := by
  obtain ⟨settling, only, processed⟩ := processing_settles parameters consumer.channel delivery consumer
  have quiet : ConsumerAction.countDown .queueEmpty ∉ settling := fun inside =>
    absurd (only _ inside) Bool.false_ne_true
  have silent : .countDown .queueEmpty ∉ handled parameters consumer.channel delivery consumer := by
    unfold handled report
    rw [processed, List.mem_append, not_or]
    constructor
    · split
      · simp [quiet]
      · exact List.not_mem_nil
    · split
      · split <;> simp
      · exact List.not_mem_nil
  have announced : ConsumerAction.delivered consumer.channel delivery.deliveryTag ≠ .countDown .queueEmpty :=
    ConsumerAction.noConfusion
  unfold emptyCountDowns
  rw [(handleDelivery_delivered parameters delivery consumer).actions, List.count_append,
    List.count_cons_of_ne announced]
  split
  · rfl
  · rw [List.count_eq_zero_of_not_mem silent, add_zero]

theorem emptyCountDowns_exitWith (reason : ConsumerStopReason) :
    emptyCountDowns (consumer.exitWith parameters reason) = emptyCountDowns consumer +
      if reason = .queueEmpty ∧ consumer.completed = false ∧ finalAckThrows parameters consumer = false then 1
      else 0 := by
  rw [exitWith_eq]
  unfold emptyCountDowns
  cases finalAckThrows parameters consumer with
  | true => rw [if_pos rfl, if_neg (by simp), add_zero]
  | false =>
    have acks : (if sendsFinalAck parameters consumer = true then finalFrames parameters consumer else []).count
        (.countDown .queueEmpty) = 0 := by
      unfold finalFrames
      split
      · split <;> rfl
      · rfl
    rw [if_neg Bool.false_ne_true]
    dsimp only
    rw [List.count_append, List.count_append, acks, add_zero]
    unfold report
    cases consumer.completed <;> cases reason <;> rfl

def afterDeclares (check : DeclareCheck) (consumer : Consumer) : Consumer :=
  if check.closes then consumer.closeChannel else consumer

def stoppable (parameters : ConsumerParameters) (check : DeclareCheck) (consumer : Consumer) : Bool :=
  parameters.exitWhen == .empty && consumer.lastActivityTimestamp != -1 &&
    consumer.isIdle parameters check.exitCheck && !consumer.completed &&
    !finalAckThrows parameters (afterDeclares check consumer)

theorem stoppable_idle {check : DeclareCheck} (stops : stoppable parameters check consumer = true) :
    consumer.isIdle parameters check.exitCheck = true := by
  unfold stoppable at stops
  simp only [Bool.and_eq_true] at stops
  exact stops.1.1.2

theorem emptyCountDowns_other (exitWhen : parameters.exitWhen ≠ .empty) (check : DeclareCheck) :
    emptyCountDowns (consumer.maybeStop parameters check) = emptyCountDowns consumer := by
  unfold maybeStop
  split
  · rfl
  · rename_i notNever
    have idle : parameters.exitWhen = .idle := by
      cases reason : parameters.exitWhen with
      | never => exact absurd reason notNever
      | idle => rfl
      | empty => exact absurd reason exitWhen
    rw [idle, if_pos rfl]
    split
    · rfl
    · split
      · rw [emptyCountDowns_exitWith, if_neg (by simp), add_zero]
      · rfl

/-- A check counts down for empty queues exactly if its flag is set in the end. -/
theorem emptyCountDowns_check (check : DeclareCheck) :
    emptyCountDowns (consumer.maybeStop parameters check) = emptyCountDowns consumer +
      if stoppable parameters check consumer = true ∧
        anyEmpty false (check.outcomes consumer.queueNames) = some true then 1 else 0 := by
  have same : emptyCountDowns (afterDeclares check consumer) = emptyCountDowns consumer ∧
      (afterDeclares check consumer).completed = consumer.completed := by
    unfold afterDeclares
    split <;> exact ⟨rfl, rfl⟩
  by_cases exitWhen : parameters.exitWhen = .empty
  · unfold maybeStop stoppable
    rw [exitWhen, if_neg (by decide)]
    by_cases first : consumer.lastActivityTimestamp = -1
    · rw [if_pos first, if_neg (by simp [first]), add_zero]
      rfl
    · rw [if_neg first]
      cases idle : consumer.isIdle parameters check.exitCheck with
      | false => rw [if_neg Bool.false_ne_true, if_neg (by simp), add_zero]
      | true =>
        rw [if_pos rfl, if_neg (by decide)]
        dsimp only
        rw [← afterDeclares]
        rcases anyEmpty false (check.outcomes consumer.queueNames) with _ | _ | _
        · rw [if_neg (by simp), add_zero]
          exact same.1
        · rw [if_neg (by simp), add_zero]
          exact same.1
        · dsimp only
          rw [emptyCountDowns_exitWith, same.1, same.2]
          refine congrArg _ (if_congr ?_ rfl rfl)
          simp [first]
  · have stays : stoppable parameters check consumer = false := by
      unfold stoppable
      rw [beq_false_of_ne exitWhen]
      rfl
    rw [stays, if_neg (fun stops => Bool.false_ne_true stops.1), add_zero]
    exact emptyCountDowns_other exitWhen check

end

section

variable (parameters : ConsumerParameters) (channel : ℕ) (queueNames : List String)

def StopsWhenEmpty : List EmptyEvent → Prop :=
  EachStep fun earlier event =>
    emptyCountDowns (checked parameters channel queueNames (earlier ++ [event])) ≠
        emptyCountDowns (checked parameters channel queueNames earlier) →
      ∃ check, event = .check check ∧
        (checked parameters channel queueNames earlier).isIdle parameters check.exitCheck = true ∧
        ∀ outcome ∈ check.outcomes (checked parameters channel queueNames earlier).queueNames,
          outcome = .messageCount 0

def NoneMixed : List EmptyEvent → Prop :=
  EachStep fun earlier event => ∀ check, event = .check check →
    stoppable parameters check (checked parameters channel queueNames earlier) = true →
      let outcomes := check.outcomes (checked parameters channel queueNames earlier).queueNames
      .alreadyClosed ∉ outcomes → .messageCount 0 ∈ outcomes → ∀ outcome ∈ outcomes, outcome = .messageCount 0

theorem stops_when_empty_iff (events : List EmptyEvent) :
    StopsWhenEmpty parameters channel queueNames events ↔ NoneMixed parameters channel queueNames events := by
  refine forall_congr' fun earlier => forall_congr' fun event => forall_congr' fun _ => ?_
  have next : checked parameters channel queueNames (earlier ++ [event]) =
      (checked parameters channel queueNames earlier).handleEvent parameters event := List.foldl_concat ..
  dsimp only
  rw [next]
  generalize checked parameters channel queueNames earlier = consumer
  cases event with
  | delivery delivery =>
    refine iff_of_true (fun counts => absurd (emptyCountDowns_delivery delivery) counts) ?_
    rintro check ⟨⟩
  | check check =>
    have counted : emptyCountDowns (consumer.handleEvent parameters (.check check)) ≠ emptyCountDowns consumer ↔
        stoppable parameters check consumer = true ∧ .alreadyClosed ∉ check.outcomes consumer.queueNames ∧
          .messageCount 0 ∈ check.outcomes consumer.queueNames := by
      have counts : emptyCountDowns (consumer.handleEvent parameters (.check check)) = _ := emptyCountDowns_check check
      rw [counts, ← anyEmpty_iff]
      split
      · rename_i stops
        exact iff_of_true (Nat.succ_ne_self _) stops
      · rename_i stays
        exact iff_of_false (fun different => different (add_zero _)) stays
    constructor
    · rintro only _ ⟨⟩ stops opened empty
      obtain ⟨_, ⟨⟩, -, all⟩ := only (counted.mpr ⟨stops, opened, empty⟩)
      exact all
    · intro unmixed counts
      obtain ⟨stops, opened, empty⟩ := counted.mp counts
      exact ⟨check, rfl, stoppable_idle stops, unmixed check rfl stops opened empty⟩

end

def emptyParameters : ConsumerParameters := ⟨0, true, 0, false, false, 0, .empty, true, true⟩

def mixedCheck (currentTime : ℤ) : DeclareCheck :=
  ⟨currentTime, fun index => .messageCount (if index = 0 then 0 else 7), false⟩

theorem stopped_with_messages_left :
    (checked emptyParameters 0 ["orders", "bills"] [.check (mixedCheck 5), .check (mixedCheck 2000)]).actions =
        [.countDown .queueEmpty] ∧
      ¬ StopsWhenEmpty emptyParameters 0 ["orders", "bills"] [.check (mixedCheck 5), .check (mixedCheck 2000)] := by
  refine ⟨by decide +kernel, ?_⟩
  intro stops
  have counts : emptyCountDowns (checked emptyParameters 0 ["orders", "bills"]
      ([.check (mixedCheck 5)] ++ [.check (mixedCheck 2000)])) ≠
        emptyCountDowns (checked emptyParameters 0 ["orders", "bills"] [.check (mixedCheck 5)]) := by decide +kernel
  obtain ⟨_, ⟨⟩, -, all⟩ := stops [.check (mixedCheck 5)] (.check (mixedCheck 2000)) List.prefix_rfl counts
  have seven : DeclareOutcome.messageCount 7 = .messageCount 0 := all (.messageCount 7) (by decide +kernel)
  cases seven

end PerfTestProof
