import PerfTest.Consumer.Deliveries
import PerfTest.Producer.MessageLimit
import PerfTest.Systems.Runs
import PerfTest.Systems.Tasks

namespace PerfTestModel

open Systems

structure CompletionParams where
  producerCount : ℕ
  producerChannelCount : ℕ
  consumerCount : ℕ
  consumerChannelCount : ℕ
  producerMsgCount : ℤ
  consumerMsgCount : ℤ
  exitWhen : ExitWhen
  timeLimit : ℤ
  deriving DecidableEq, Repr

inductive Agent where
  | producer (connection channel : ℕ)
  | consumer (connection channel : ℕ)
  deriving DecidableEq, Repr

inductive CompletionReason where
  | reachedTimeLimit
  | producer (reason : ProducerStopReason)
  | consumer (reason : ConsumerStopReason)
  deriving DecidableEq, Repr

def CompletionReason.text : CompletionReason → String
  | .reachedTimeLimit => "Reached time limit"
  | .producer reason => reason.text
  | .consumer reason => reason.text

structure DefaultCompletionHandler where
  timeLimit : ℤ
  latch : ℕ
  completed : Bool
  reasons : String → ℕ

def recordReason (reasons : String → ℕ) (reason : CompletionReason) : String → ℕ :=
  Function.update reasons reason.text (reasons reason.text + 1)

namespace CompletionParams

variable (params : CompletionParams)

def producerThreadCount : ℤ := Java.int (params.producerCount * params.producerChannelCount)

def consumerThreadCount : ℤ := Java.int (params.consumerCount * params.consumerChannelCount)

def hasLimit : Bool :=
  0 < params.timeLimit || 0 < params.consumerMsgCount || 0 < params.producerMsgCount ||
    params.exitWhen == .empty || params.exitWhen == .idle

def countLimit : ℤ :=
  let producers := if 0 < params.producerMsgCount then params.producerThreadCount else 0
  if 0 < params.consumerMsgCount ∨ params.exitWhen = .empty ∨ params.exitWhen = .idle then
    Java.int (producers + params.consumerThreadCount)
  else producers

def createProducers : List Agent :=
  (List.range params.producerCount).flatMap fun connection =>
    (List.range params.producerChannelCount).map fun channel => .producer connection channel

def createConsumers : List Agent :=
  (List.range params.consumerCount).flatMap fun connection =>
    (List.range params.consumerChannelCount).map fun channel => .consumer connection channel

end CompletionParams

namespace DefaultCompletionHandler

def create (timeLimit countLimit : ℤ) : DefaultCompletionHandler :=
  ⟨timeLimit, if countLimit ≤ 0 then 1 else countLimit.toNat, false, fun _ => 0⟩

end DefaultCompletionHandler

/-- Without any limit, it is a NoLimitCompletionHandler, which no limit counts down. -/
def getCompletionHandler (params : CompletionParams) : Option DefaultCompletionHandler :=
  if params.hasLimit then some (.create params.timeLimit params.countLimit) else none

inductive CountDownPhase where
  | called
  | checked
  | recorded
  deriving DecidableEq, Repr

structure CountDownCall where
  agent : Agent
  reason : CompletionReason
  phase : CountDownPhase
  deriving DecidableEq, Repr

inductive Waiter where
  | waiting
  | awaited (countedDown : Bool)
  | completed (countedDown : Bool)
  | returned (countedDown : Bool)
  deriving DecidableEq, Repr

/-- The agents whose flag `completed` is set, the calls that are going on in the handler, and the agents that
    decremented the latch, in order. -/
structure Completion where
  flagged : List Agent
  calls : List CountDownCall
  handler : DefaultCompletionHandler
  waiter : Waiter
  decrements : List Agent

inductive CompletionEvent where
  | countDown (agent : Agent) (reason : CompletionReason) (msgCount : ℕ)
  | advance (call : ℕ)
  | await (countedDown : Bool)
  | complete
  | finish
  deriving DecidableEq, Repr

namespace Completion

def start (params : CompletionParams) : Option Completion :=
  (getCompletionHandler params).map fun handler => ⟨[], [], handler, .waiting, []⟩

def messageLimitReached (msgLimit : ℤ) (msgCount : ℕ) : Bool := msgLimit != 0 && msgLimit ≤ msgCount

def stopsFor (params : CompletionParams) (msgCount : ℕ) : Agent → CompletionReason → Bool
  | .producer .., .producer .messageLimit => messageLimitReached params.producerMsgCount msgCount
  | .consumer .., .consumer .reachedMessageLimit => messageLimitReached params.consumerMsgCount msgCount
  | .consumer .., .consumer .idle => params.exitWhen == .idle
  | .consumer .., .consumer .queueEmpty => params.exitWhen == .empty
  | _, _ => false

def countDown (agent : Agent) (reason : CompletionReason) (state : Completion) : Completion :=
  if agent ∈ state.flagged then state
  else { state with flagged := agent :: state.flagged, calls := state.calls ++ [⟨agent, reason, .called⟩] }

def advance (index : ℕ) (call : CountDownCall) (state : Completion) : Completion :=
  match call.phase with
  | .called =>
    { state with
      calls := replace state.calls index (if state.handler.completed then [] else [{ call with phase := .checked }]) }
  | .checked =>
    { state with
      handler := { state.handler with reasons := recordReason state.handler.reasons call.reason }
      calls := replace state.calls index [{ call with phase := .recorded }] }
  | .recorded =>
    { state with
      handler := { state.handler with latch := state.handler.latch - 1 }
      calls := replace state.calls index []
      decrements := state.decrements ++ [call.agent] }

def mayEnd (handler : DefaultCompletionHandler) (countedDown : Bool) : Bool :=
  if countedDown then handler.latch = 0 else 0 < handler.timeLimit ∧ 0 < handler.latch

def finish (countedDown : Bool) (state : Completion) : Completion :=
  { state with
    waiter := .returned countedDown
    handler := if 0 < state.handler.timeLimit ∧ !countedDown then
        { state.handler with reasons := recordReason state.handler.reasons .reachedTimeLimit }
      else state.handler }

def step (params : CompletionParams) (state : Completion) : CompletionEvent → Option Completion
  | .countDown agent reason msgCount =>
    if agent ∈ params.createProducers ++ params.createConsumers ∧ stopsFor params msgCount agent reason then
      some (state.countDown agent reason)
    else none
  | .advance index => (state.calls[index]?).map fun call => state.advance index call
  | .await countedDown =>
    if state.waiter = .waiting ∧ mayEnd state.handler countedDown then
      some { state with waiter := .awaited countedDown }
    else none
  | .complete =>
    match state.waiter with
    | .awaited countedDown =>
      some { state with waiter := .completed countedDown, handler := { state.handler with completed := true } }
    | _ => none
  | .finish =>
    match state.waiter with
    | .completed countedDown => some (state.finish countedDown)
    | _ => none

end Completion

end PerfTestModel

namespace PerfTestProof

open PerfTestModel Systems Completion

def counting (params : CompletionParams) : List Agent :=
  (if 0 < params.producerMsgCount then params.createProducers else []) ++
    if 0 < params.consumerMsgCount ∨ params.exitWhen = .empty ∨ params.exitWhen = .idle then params.createConsumers
    else []

def tokens (state : Completion) : List Agent := state.calls.flatMap (fun call => [call.agent]) ++ state.decrements

def countedDown : Waiter → Option Bool
  | .waiting => none
  | .awaited countedDown | .completed countedDown | .returned countedDown => some countedDown

def timeLimitRecords (timeLimit : ℤ) : Waiter → ℕ
  | .returned countedDown => if 0 < timeLimit ∧ !countedDown then 1 else 0
  | _ => 0

structure CountsEach (params : CompletionParams) (state : Completion) : Prop where
  once : (tokens state).Nodup
  flagged : ∀ agent ∈ tokens state, agent ∈ state.flagged
  counts : ∀ agent ∈ state.flagged, agent ∈ counting params
  latch : state.handler.latch = (counting params).length - state.decrements.length
  timeLimit : state.handler.timeLimit = params.timeLimit
  reasons : ∀ call ∈ state.calls, call.reason ≠ .reachedTimeLimit
  recorded : state.handler.reasons CompletionReason.reachedTimeLimit.text =
    timeLimitRecords params.timeLimit state.waiter

section

variable {params : CompletionParams} {state next final : Completion} {agent : Agent} {reason : CompletionReason}
  {index msgCount : ℕ} {call : CountDownCall} {event : CompletionEvent}

theorem nodup_createProducers : params.createProducers.Nodup := by
  refine List.nodup_flatMap.mpr ⟨fun connection _ => ?_, ?_⟩
  · exact List.nodup_range.map fun first second same => (Agent.producer.inj same).2
  · refine List.nodup_range.imp fun {first second} differ agent inFirst inSecond => ?_
    obtain ⟨_, _, rfl⟩ := List.mem_map.mp inFirst
    obtain ⟨_, _, same⟩ := List.mem_map.mp inSecond
    exact differ (Agent.producer.inj same).1.symm

theorem nodup_createConsumers : params.createConsumers.Nodup := by
  refine List.nodup_flatMap.mpr ⟨fun connection _ => ?_, ?_⟩
  · exact List.nodup_range.map fun first second same => (Agent.consumer.inj same).2
  · refine List.nodup_range.imp fun {first second} differ agent inFirst inSecond => ?_
    obtain ⟨_, _, rfl⟩ := List.mem_map.mp inFirst
    obtain ⟨_, _, same⟩ := List.mem_map.mp inSecond
    exact differ (Agent.consumer.inj same).1.symm

theorem mem_createProducers : agent ∈ params.createProducers ↔
    ∃ connection < params.producerCount, ∃ channel < params.producerChannelCount,
      .producer connection channel = agent := by
  simp [CompletionParams.createProducers]

theorem mem_createConsumers : agent ∈ params.createConsumers ↔
    ∃ connection < params.consumerCount, ∃ channel < params.consumerChannelCount,
      .consumer connection channel = agent := by
  simp [CompletionParams.createConsumers]

theorem nodup_counting : (counting params).Nodup := by
  have apart : List.Disjoint params.createProducers params.createConsumers := by
    intro agent producer consumer
    obtain ⟨_, _, _, _, rfl⟩ := mem_createProducers.mp producer
    obtain ⟨_, _, _, _, same⟩ := mem_createConsumers.mp consumer
    cases same
  unfold counting
  split <;> split
  · exact nodup_createProducers.append nodup_createConsumers apart
  · rw [List.append_nil]
    exact nodup_createProducers
  · exact nodup_createConsumers
  · exact List.nodup_nil

theorem length_createProducers :
    params.createProducers.length = params.producerCount * params.producerChannelCount := by
  simp [CompletionParams.createProducers]

theorem length_createConsumers :
    params.createConsumers.length = params.consumerCount * params.consumerChannelCount := by
  simp [CompletionParams.createConsumers]

theorem counting_of_stopsFor (producers : 0 ≤ params.producerMsgCount) (consumers : 0 ≤ params.consumerMsgCount)
    (created : agent ∈ params.createProducers ++ params.createConsumers)
    (stops : stopsFor params msgCount agent reason = true) : agent ∈ counting params := by
  have positive {limit : ℤ} (natural : 0 ≤ limit) (reached : messageLimitReached limit msgCount = true) :
      0 < limit := by
    simp only [messageLimitReached, Bool.and_eq_true, bne_iff_ne] at reached
    omega
  rw [counting, List.mem_append]
  unfold stopsFor at stops
  rcases List.mem_append.mp created with producer | consumer
  · left
    obtain ⟨_, _, _, _, rfl⟩ := mem_createProducers.mp producer
    cases reason with
    | producer reason =>
      cases reason with
      | messageLimit => rwa [if_pos (positive producers stops)]
      | threadInterrupted => cases stops
    | reachedTimeLimit | consumer => cases stops
  · right
    obtain ⟨_, _, _, _, rfl⟩ := mem_createConsumers.mp consumer
    cases reason with
    | consumer reason =>
      cases reason with
      | reachedMessageLimit => rwa [if_pos (.inl (positive consumers stops))]
      | idle => rwa [if_pos (.inr (.inr (beq_iff_eq.mp stops)))]
      | queueEmpty => rwa [if_pos (.inr (.inl (beq_iff_eq.mp stops)))]
    | reachedTimeLimit | producer => cases stops

/-- A producer finds that it reached its limit, as the events say. -/
theorem producer_stopsFor {limits : ProducerLimits} (same : limits.msgLimit = params.producerMsgCount)
    (counts : ProducerCounts) (connection channel : ℕ) :
    counts.messageLimitReached limits =
      stopsFor params counts.msgCount (.producer connection channel) (.producer .messageLimit) := by
  rw [stopsFor, Completion.messageLimitReached, ← same]
  rfl

theorem consumer_stopsFor {parameters : ConsumerParameters} (same : parameters.msgLimit = params.consumerMsgCount)
    (consumer : Consumer) (connection channel : ℕ) :
    consumer.limitReached parameters =
      stopsFor params consumer.receivedMessageCount (.consumer connection channel)
        (.consumer .reachedMessageLimit) := by
  rw [stopsFor, Completion.messageLimitReached, ← same]
  rfl

theorem reason_of_stopsFor (stops : stopsFor params msgCount agent reason = true) : reason ≠ .reachedTimeLimit := by
  rintro rfl
  cases agent <;> cases stops

theorem text_ne_timeLimit (other : reason ≠ .reachedTimeLimit) :
    CompletionReason.reachedTimeLimit.text ≠ reason.text := by
  cases reason with
  | reachedTimeLimit => exact absurd rfl other
  | producer reason => cases reason <;> decide
  | consumer reason => cases reason <;> decide

theorem recordReason_other (reasons : String → ℕ) (other : reason ≠ .reachedTimeLimit) :
    recordReason reasons reason CompletionReason.reachedTimeLimit.text =
      reasons CompletionReason.reachedTimeLimit.text :=
  Function.update_of_ne (text_ne_timeLimit other) _ _

theorem nodup_of_subperm {fewer more : List Agent} (subperm : fewer.Subperm more) (nodup : more.Nodup) :
    fewer.Nodup := by
  obtain ⟨middle, same, sublist⟩ := subperm
  exact same.nodup_iff.mp (nodup.sublist sublist)

theorem advance_tokens (found : state.calls[index]? = some call) :
    (tokens (state.advance index call)).Subperm (tokens state) := by
  have moved (successors : List CountDownCall) (released : List Agent)
      (handed : (successors.flatMap (fun call => [call.agent]) ++ released).Subperm [call.agent]) :
      ((replace state.calls index successors).flatMap (fun call => [call.agent]) ++ released ++
        state.decrements).Subperm (tokens state) := by
    exact (held_replace found handed).append (List.Subperm.refl _)
  have held (phase : CountDownPhase) :
      ([{ call with phase := phase }].flatMap (fun (call : CountDownCall) => [call.agent]) ++ []).Subperm
        [call.agent] := List.Subperm.refl _
  unfold Completion.advance
  split
  · split
    · have gone := moved [] [] (List.nil_subperm)
      rwa [List.append_nil] at gone
    · have checked := moved _ [] (held .checked)
      rwa [List.append_nil] at checked
  · have recorded := moved _ [] (held .recorded)
    rwa [List.append_nil] at recorded
  · refine List.Subperm.trans ?_ (moved [] [call.agent] (List.Subperm.refl _))
    rw [tokens, List.append_assoc]
    exact (List.Subperm.refl _).append List.perm_append_comm.subperm

theorem CountsEach.countDown (counts : CountsEach params state) (isCounting : agent ∈ counting params)
    (other : reason ≠ .reachedTimeLimit) : CountsEach params (state.countDown agent reason) := by
  unfold Completion.countDown
  split
  · exact counts
  · rename_i unflagged
    have added : (tokens { state with
        flagged := agent :: state.flagged, calls := state.calls ++ [⟨agent, reason, .called⟩] }).Perm
        (agent :: tokens state) := by
      rw [tokens, List.flatMap_append, List.append_assoc]
      exact List.perm_middle
    refine ⟨?_, fun token held => ?_, ?_, counts.latch, counts.timeLimit, fun call made => ?_, counts.recorded⟩
    · exact added.nodup_iff.mpr (List.nodup_cons.mpr ⟨mt (counts.flagged agent) unflagged, counts.once⟩)
    · rcases List.mem_cons.mp (added.mem_iff.mp held) with rfl | earlier
      · exact List.mem_cons_self
      · exact List.mem_cons_of_mem _ (counts.flagged token earlier)
    · exact List.forall_mem_cons.mpr ⟨isCounting, counts.counts⟩
    · rcases List.mem_append.mp made with earlier | last
      · exact counts.reasons call earlier
      · rw [List.mem_singleton.mp last]
        exact other

theorem CountsEach.advance (counts : CountsEach params state) (found : state.calls[index]? = some call) :
    CountsEach params (state.advance index call) := by
  have fewer := advance_tokens found
  have other := counts.reasons call (List.mem_of_getElem? found)
  have calls (successors : List CountDownCall) (same : ∀ next ∈ successors, next.reason = call.reason) :
      ∀ next ∈ replace state.calls index successors, next.reason ≠ .reachedTimeLimit := by
    intro next listed
    rcases mem_replace listed with earlier | new
    · exact counts.reasons next earlier
    · rw [same next new]
      exact other
  have flagged : ∀ token ∈ tokens (state.advance index call), token ∈ state.flagged :=
    fun token held => counts.flagged token (fewer.subset held)
  have once := nodup_of_subperm fewer counts.once
  revert once flagged
  unfold Completion.advance
  split <;> intro flagged once
  · refine ⟨once, flagged, counts.counts, counts.latch, counts.timeLimit, calls _ ?_, counts.recorded⟩
    split <;> simp
  · refine ⟨once, flagged, counts.counts, counts.latch, counts.timeLimit, calls _ (by simp), ?_⟩
    exact (recordReason_other _ other).trans counts.recorded
  · refine ⟨once, flagged, counts.counts, ?_, counts.timeLimit, calls _ (by simp), counts.recorded⟩
    rw [counts.latch, List.length_append, List.length_singleton, Nat.sub_sub]

theorem CountsEach.step (counts : CountsEach params state) (producers : 0 ≤ params.producerMsgCount)
    (consumers : 0 ≤ params.consumerMsgCount) (stepped : state.step params event = some next) :
    CountsEach params next := by
  have recorded := counts.recorded
  obtain ⟨once, flagged, counted, latch, timeLimit, reasons, _⟩ := counts
  cases event with
  | countDown agent reason msgCount =>
    simp only [Completion.step] at stepped
    split at stepped <;> cases stepped
    rename_i allowed
    exact CountsEach.countDown ⟨once, flagged, counted, latch, timeLimit, reasons, recorded⟩
      (counting_of_stopsFor producers consumers allowed.1 allowed.2) (reason_of_stopsFor allowed.2)
  | advance index =>
    obtain ⟨call, found, rfl⟩ := Option.map_eq_some_iff.mp stepped
    exact CountsEach.advance ⟨once, flagged, counted, latch, timeLimit, reasons, recorded⟩ found
  | await countedDown =>
    simp only [Completion.step] at stepped
    split at stepped <;> cases stepped
    rename_i allowed
    rw [allowed.1] at recorded
    exact ⟨once, flagged, counted, latch, timeLimit, reasons, recorded⟩
  | complete =>
    simp only [Completion.step] at stepped
    split at stepped <;> cases stepped
    rename_i waiter
    rw [waiter] at recorded
    exact ⟨once, flagged, counted, latch, timeLimit, reasons, recorded⟩
  | finish =>
    simp only [Completion.step] at stepped
    split at stepped <;> cases stepped
    rename_i waiter
    rw [waiter] at recorded
    unfold Completion.finish
    refine ⟨once, flagged, counted, ?_, ?_, reasons, ?_⟩
    · split <;> exact latch
    · split <;> exact timeLimit
    · rw [timeLimit, timeLimitRecords]
      split
      · simp only [recordReason, Function.update_self, recorded, timeLimitRecords]
      · exact recorded

theorem int_eq {value : ℕ} (fits : value < 2 ^ 31) : Java.int value = value :=
  Java.int_eq_self.mpr ⟨by omega, by omega⟩

theorem countLimit_eq (fits : (counting params).length < 2 ^ 31) :
    params.countLimit = (counting params).length := by
  rw [counting, List.length_append] at fits
  simp only [CompletionParams.countLimit, counting, List.length_append]
  have producers : (if 0 < params.producerMsgCount then params.producerThreadCount else 0 : ℤ) =
      (if 0 < params.producerMsgCount then params.createProducers else []).length := by
    split at fits <;> rename_i limited
    · rw [if_pos limited, if_pos limited, length_createProducers, CompletionParams.producerThreadCount,
        ← Int.natCast_mul, int_eq]
      rw [length_createProducers] at fits
      omega
    · rw [if_neg limited, if_neg limited]
      rfl
  rw [producers]
  by_cases limited : 0 < params.consumerMsgCount ∨ params.exitWhen = .empty ∨ params.exitWhen = .idle
  · rw [if_pos limited] at fits ⊢
    rw [if_pos limited, CompletionParams.consumerThreadCount, ← Int.natCast_mul, ← length_createConsumers,
      int_eq (by omega), ← Int.natCast_add, int_eq fits]
  · rw [if_neg limited, if_neg limited, List.length_nil, Nat.add_zero]

theorem countsEach_start (some_ : counting params ≠ []) (fits : (counting params).length < 2 ^ 31)
    (started : Completion.start params = some state) : CountsEach params state ∧ state.waiter = .waiting := by
  obtain ⟨handler, created, rfl⟩ := Option.map_eq_some_iff.mp started
  unfold getCompletionHandler at created
  split at created <;> cases created
  refine ⟨⟨List.nodup_nil, nofun, nofun, ?_, rfl, nofun, rfl⟩, rfl⟩
  have positive := List.length_pos_iff.mpr some_
  rw [DefaultCompletionHandler.create, countLimit_eq fits]
  simp only [List.length_nil, Nat.sub_zero]
  rw [if_neg (by omega), Int.toNat_natCast]

/-- The latch is at 0 when all channels that count have decremented it. -/
theorem CountsEach.latch_zero_iff (counts : CountsEach params state) :
    state.handler.latch = 0 ↔ ∀ agent ∈ counting params, agent ∈ state.decrements := by
  have once : state.decrements.Nodup := (List.nodup_append.mp counts.once).2.1
  have among : state.decrements ⊆ counting params := fun agent listed =>
    counts.counts agent (counts.flagged agent (List.mem_append_right _ listed))
  rw [counts.latch, Nat.sub_eq_zero_iff_le]
  constructor
  · intro enough agent isCounting
    exact ((once.subperm among).perm_of_length_le enough).mem_iff.mpr isCounting
  · intro all
    exact (nodup_counting.subperm all).length_le

theorem run_counts {events : List CompletionEvent} (counts : CountsEach params state)
    (producers : 0 ≤ params.producerMsgCount) (consumers : 0 ≤ params.consumerMsgCount)
    (executed : run (Completion.step params) state events = some final) : CountsEach params final :=
  run_invariant (CountsEach params) (fun _ _ _ counts stepped => counts.step producers consumers stepped) counts
    executed

theorem countedDown_step (stepped : state.step params event = some next) :
    countedDown next.waiter = countedDown state.waiter ∨
      ∃ opened, event = .await opened ∧ state.waiter = .waiting ∧ mayEnd state.handler opened = true ∧
        countedDown next.waiter = some opened := by
  cases event with
  | countDown agent reason msgCount =>
    simp only [Completion.step] at stepped
    split at stepped <;> cases stepped
    unfold Completion.countDown
    left
    split <;> rfl
  | advance index =>
    obtain ⟨call, _, rfl⟩ := Option.map_eq_some_iff.mp stepped
    unfold Completion.advance
    left
    split <;> rfl
  | await opened =>
    simp only [Completion.step] at stepped
    split at stepped <;> cases stepped
    rename_i allowed
    exact .inr ⟨opened, rfl, allowed.1, allowed.2, rfl⟩
  | complete =>
    simp only [Completion.step] at stepped
    split at stepped <;> cases stepped
    rename_i waiter
    rw [waiter]
    exact .inl rfl
  | finish =>
    simp only [Completion.step] at stepped
    split at stepped <;> cases stepped
    rename_i waiter
    rw [waiter]
    exact .inl rfl

theorem run_kept {events : List CompletionEvent} {opened : Bool} (ended : countedDown state.waiter = some opened)
    (executed : run (Completion.step params) state events = some final) : countedDown final.waiter = some opened := by
  refine run_invariant (fun state => countedDown state.waiter = some opened) ?_ ended executed
  intro state event next ended stepped
  rcases countedDown_step stepped with same | ⟨_, _, waiting, _⟩
  · exact same.trans ended
  · rw [waiting] at ended
    cases ended

theorem run_ended {events : List CompletionEvent} {opened : Bool} (waiting : countedDown state.waiter = none)
    (executed : run (Completion.step params) state events = some final)
    (ended : countedDown final.waiter = some opened) :
    ∃ before after middle, events = before ++ .await opened :: after ∧
      run (Completion.step params) state before = some middle ∧ mayEnd middle.handler opened = true := by
  induction events generalizing state with
  | nil =>
    cases executed
    rw [waiting] at ended
    cases ended
  | cons event events ih =>
    obtain ⟨next, stepped, rest⟩ := run_cons.mp executed
    rcases countedDown_step stepped with same | ⟨opens, rfl, _, allowed, now⟩
    · obtain ⟨before, after, middle, rfl, reached, allowed⟩ := ih (same.trans waiting) rest
      exact ⟨event :: before, after, middle, rfl, run_cons.mpr ⟨next, stepped, reached⟩, allowed⟩
    · have kept := (run_kept now rest).symm.trans ended
      cases kept
      exact ⟨[], events, state, rfl, rfl, allowed⟩

def AllDecremented (agents : List Agent) (state : Completion) : Prop :=
  ∀ agent ∈ agents, state.decrements.count agent = 1

theorem CountsEach.allDecremented_iff (counts : CountsEach params state) :
    AllDecremented (counting params) state ↔ state.handler.latch = 0 := by
  rw [counts.latch_zero_iff]
  have once : state.decrements.Nodup := (List.nodup_append.mp counts.once).2.1
  refine forall₂_congr fun agent _ => ?_
  constructor
  · intro counted
    exact List.count_pos_iff.mp (by omega)
  · exact List.count_eq_one_of_mem once

end

/-- Without a time limit, the wait ends once every channel with a limit has decremented the latch. With one, the time
    limit is recorded when the wait ended before that. -/
theorem waits_for_all_channels (params : CompletionParams) (initial final : Completion) (events : List CompletionEvent)
    (producers : 0 ≤ params.producerMsgCount) (consumers : 0 ≤ params.consumerMsgCount)
    (some_ : counting params ≠ []) (fits : (counting params).length < 2 ^ 31)
    (started : Completion.start params = some initial)
    (executed : run (Completion.step params) initial events = some final) (opened : Bool)
    (returned : final.waiter = .returned opened) :
    (∀ agent, final.decrements.count agent ≤ 1) ∧
      ∃ before after middle, events = before ++ .await opened :: after ∧
        run (Completion.step params) initial before = some middle ∧
        (params.timeLimit ≤ 0 → AllDecremented (counting params) middle) ∧
        (0 < params.timeLimit → (0 < final.handler.reasons CompletionReason.reachedTimeLimit.text ↔
          ¬ AllDecremented (counting params) middle)) := by
  obtain ⟨counts, waiting⟩ := countsEach_start some_ fits started
  have last := run_counts counts producers consumers executed
  have once : final.decrements.Nodup := (List.nodup_append.mp last.once).2.1
  obtain ⟨before, after, middle, split, reached, allowed⟩ :=
    run_ended (by rw [waiting]; rfl) executed (by rw [returned]; rfl)
  have between := run_counts counts producers consumers reached
  refine ⟨List.nodup_iff_count_le_one.mp once, before, after, middle, split, reached, fun none => ?_, fun limited => ?_⟩
  · rw [between.allDecremented_iff]
    cases opened with
    | true => exact of_decide_eq_true allowed
    | false =>
      have positive := (of_decide_eq_true allowed).1
      rw [between.timeLimit] at positive
      omega
  · rw [last.recorded, returned, between.allDecremented_iff, timeLimitRecords]
    cases opened with
    | true =>
      have zero : middle.handler.latch = 0 := of_decide_eq_true allowed
      simp [zero]
    | false =>
      have positive := (of_decide_eq_true allowed).2
      simp only [limited, Bool.not_false, and_self, if_true, Nat.zero_lt_one, true_iff]
      omega

def noProducers : CompletionParams := ⟨0, 1, 0, 1, 10, 0, .never, 5⟩

def negativeLimit : CompletionParams := ⟨1, 1, 1, 1, -1, 1, .never, 0⟩

def tooManyChannels : CompletionParams := ⟨2 ^ 30, 1, 2 ^ 30, 1, 1, 1, .never, 0⟩

def oneCountDown (agent : Agent) (reason : CompletionReason) : List CompletionEvent :=
  [.countDown agent reason 1, .advance 0, .advance 0, .advance 0]

def theWait (opened : Bool) : List CompletionEvent := [.await opened, .complete, .finish]

/-- A test for 2^31 channels ends when one of them has counted down. -/
theorem tooManyChannels_ends : ∃ initial final, Completion.start tooManyChannels = some initial ∧
    run (Completion.step tooManyChannels) initial
      (oneCountDown (.producer 0 0) (.producer .messageLimit) ++ theWait true) = some final ∧
    final.waiter = .returned true ∧ ¬ AllDecremented (counting tooManyChannels) final := by
  have first : (.producer 0 0 : Agent) ∈ tooManyChannels.createProducers :=
    mem_createProducers.mpr ⟨0, by decide, 0, by decide, rfl⟩
  have second : (.producer 1 0 : Agent) ∈ counting tooManyChannels := by
    rw [counting, if_pos (by decide), List.mem_append, mem_createProducers]
    exact .inl ⟨1, by decide, 0, by decide, rfl⟩
  refine ⟨⟨[], [], ⟨0, 1, false, fun _ => 0⟩, .waiting, []⟩,
    ⟨[.producer 0 0], [], ⟨0, 0, true, recordReason (fun _ => 0) (.producer .messageLimit)⟩, .returned true,
      [.producer 0 0]⟩, rfl, ?_, rfl, fun all => absurd (all _ second) (by decide)⟩
  refine run_cons.mpr ⟨⟨[.producer 0 0], [⟨.producer 0 0, .producer .messageLimit, .called⟩],
    ⟨0, 1, false, fun _ => 0⟩, .waiting, []⟩, ?_, rfl⟩
  simp only [Completion.step]
  rw [if_pos ⟨List.mem_append_left _ first, rfl⟩]
  rfl

/-- The time limit is recorded although no channel counts. A wait without time limit ends before a consumer has counted
    down, after a producer with a negative limit, or after any agent where the number of channels overflows. -/
theorem waits_too_long_or_too_short :
    (∃ initial final, Completion.start noProducers = some initial ∧
      run (Completion.step noProducers) initial (theWait false) = some final ∧
      0 < final.handler.reasons CompletionReason.reachedTimeLimit.text ∧
      AllDecremented (counting noProducers) initial) ∧
    (∃ initial final, Completion.start negativeLimit = some initial ∧
      run (Completion.step negativeLimit) initial
        (oneCountDown (.producer 0 0) (.producer .messageLimit) ++ theWait true) = some final ∧
      final.waiter = .returned true ∧ ¬ AllDecremented (counting negativeLimit) final) ∧
    ∃ initial final, Completion.start tooManyChannels = some initial ∧
      run (Completion.step tooManyChannels) initial
        (oneCountDown (.producer 0 0) (.producer .messageLimit) ++ theWait true) = some final ∧
      final.waiter = .returned true ∧ ¬ AllDecremented (counting tooManyChannels) final := by
  refine ⟨⟨_, _, rfl, rfl, by decide, fun agent none => absurd none List.not_mem_nil⟩, ⟨_, _, rfl, rfl, rfl, ?_⟩,
    tooManyChannels_ends⟩
  intro all
  exact absurd (all (.consumer 0 0) (by decide)) (by decide)

def twoProducers : CompletionParams := ⟨1, 2, 1, 1, 1, 0, .never, 60⟩

theorem two_producers_count_down : ∃ initial final, Completion.start twoProducers = some initial ∧
    run (Completion.step twoProducers) initial
      (oneCountDown (.producer 0 1) (.producer .messageLimit) ++
        oneCountDown (.producer 0 0) (.producer .messageLimit) ++ theWait true) = some final ∧
    ∀ agent, final.decrements.count agent ≤ 1 :=
  ⟨_, _, rfl, rfl, (waits_for_all_channels twoProducers _ _
    (oneCountDown (.producer 0 1) (.producer .messageLimit) ++
      oneCountDown (.producer 0 0) (.producer .messageLimit) ++ theWait true)
    (by decide) (by decide) (by decide) (by decide) rfl rfl true rfl).1⟩

end PerfTestProof
