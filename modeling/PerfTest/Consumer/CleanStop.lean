import PerfTest.Consumer.SettledOnce

namespace PerfTestProof

open Systems Settlements PerfTestModel Consumer ConsumerAction

structure Outstanding where
  unsettled : List ℕ
  uncommitted : List ℕ
  deriving DecidableEq, Repr

namespace Outstanding

def settle (outstanding : Outstanding) (deliveryTag : ℕ) (multiple : Bool) : Outstanding where
  unsettled := outstanding.unsettled.filter fun other => !isCovered deliveryTag multiple other
  uncommitted := outstanding.uncommitted ++ outstanding.unsettled.filter (isCovered deliveryTag multiple)

def record (outstanding : Outstanding) : ConsumerAction → Outstanding
  | .received _ deliveryTag => { outstanding with unsettled := outstanding.unsettled ++ [deliveryTag] }
  | .basicAck _ deliveryTag multiple => outstanding.settle deliveryTag multiple
  | .basicNack _ deliveryTag multiple _ => outstanding.settle deliveryTag multiple
  | .txCommit _ => { outstanding with uncommitted := [] }
  | .delivered .. | .countDown _ => outstanding

def ofActions (actions : List ConsumerAction) : Outstanding := actions.foldl record ⟨[], []⟩

@[simp] theorem ofActions_append (first second : List ConsumerAction) :
    ofActions (first ++ second) = second.foldl record (ofActions first) := List.foldl_append

end Outstanding

open Outstanding

def isReceived : ConsumerAction → Bool
  | .received .. => true
  | _ => false

def receivedIn (actions : List ConsumerAction) : ℕ := actions.countP isReceived

section

variable (parameters : ConsumerParameters)

structure SettledAndCommitted (actions : List ConsumerAction) : Prop where
  settled : (ofActions actions).unsettled = []
  committed : parameters.transactionEnabled = true → (ofActions actions).uncommitted = []

/-- The limit stops the consumer at the end of its batches. The final ack of an exit check takes an ack
    batch that has begun, and commits only when there is one. -/
def StopsCleanly (reason : ConsumerStopReason) (count : ℕ) : Prop :=
  match reason with
  | .reachedMessageLimit => BatchEnds parameters.multiAckEvery count ∧ BatchEnds parameters.txSize count
  | .idle | .queueEmpty => ¬ BatchEnds parameters.multiAckEvery count ∨ BatchEnds parameters.txSize count

def withoutFailures (queueNames : List String) : DeliveryEvent → Prop
  | .delivery delivery => delivery.simulateLatency = true
  | .exitCheck check => ∀ queue ∈ queueNames, (check.messageCount queue).isSome = true

structure Batches (actions : List ConsumerAction) (lastDeliveryTag lastAckedDeliveryTag : ℕ) : Prop where
  bounded : ∀ tag ∈ (ofActions actions).unsettled, tag ≤ lastDeliveryTag
  acked : lastAckedDeliveryTag ≤ lastDeliveryTag
  due : lastAckedDeliveryTag < lastDeliveryTag ↔ (ofActions actions).unsettled ≠ []
  settled : (ofActions actions).unsettled = [] ↔ BatchEnds parameters.multiAckEvery (receivedIn actions)
  committed : parameters.transactionEnabled = true →
    BatchEnds parameters.multiAckEvery (receivedIn actions) →
    ((ofActions actions).uncommitted = [] ↔ parameters.txSize ∣ receivedIn actions)

end

variable {parameters : ConsumerParameters} {consumer after : Consumer} {delivery : Delivery} {check : ExitCheck}
  {channel deliveryTag count last acked : ℕ} {queueNames : List String} {actions : List ConsumerAction}
  {reason : ConsumerStopReason}

theorem foldl_commits (outstanding : Outstanding) :
    (commits parameters channel count).foldl record outstanding =
      if parameters.transactionEnabled = true ∧ parameters.txSize ∣ count then
        { outstanding with uncommitted := [] }
      else outstanding := by
  unfold commits commitDue
  simp only [Bool.and_eq_true, beq_iff_eq, ← Int.dvd_iff_tmod_eq_zero]
  split <;> rfl

theorem foldl_frames (acks : parameters.autoAck = false) (outstanding : Outstanding) :
    (frames parameters channel deliveryTag count).foldl record outstanding =
      if BatchEnds parameters.multiAckEvery count then
        outstanding.settle deliveryTag (decide (parameters.multiAckEvery ≠ 0))
      else outstanding := by
  unfold frames
  rw [ackDue_eq acks]
  split
  · unfold ackNackOperation
    split <;> rfl
  · rfl

@[simp] theorem receivedIn_append (first second : List ConsumerAction) :
    receivedIn (first ++ second) = receivedIn first + receivedIn second := List.countP_append

theorem receivedIn_delivered : receivedIn (.delivered channel deliveryTag :: actions) = receivedIn actions :=
  List.countP_cons_of_neg Bool.false_ne_true

def processed (parameters : ConsumerParameters) (channel deliveryTag count : ℕ) : List ConsumerAction :=
  .received channel deliveryTag ::
    (frames parameters channel deliveryTag count ++ commits parameters channel count)

theorem receivedIn_frames : receivedIn (frames parameters channel deliveryTag count) = 0 := by
  unfold frames ackNackOperation
  cases ackDue parameters count with
  | none => rfl
  | some multiple =>
    show receivedIn [if parameters.nack then _ else _] = 0
    split <;> rfl

theorem receivedIn_commits : receivedIn (commits parameters channel count) = 0 := by
  unfold commits
  split <;> rfl

theorem receivedIn_processed : receivedIn (processed parameters channel deliveryTag count) = 1 := by
  have rest : receivedIn (frames parameters channel deliveryTag count ++ commits parameters channel count) = 0 := by
    rw [receivedIn_append, receivedIn_frames, receivedIn_commits]
  unfold processed receivedIn at *
  rw [List.countP_cons_of_pos rfl, rest]

theorem settle_all (channel deliveryTag : ℕ) (multiple : Bool) {outstanding : Outstanding}
    (alone : multiple = false → outstanding.unsettled = [])
    (bounded : ∀ tag ∈ outstanding.unsettled, tag ≤ deliveryTag) :
    (outstanding.record (.received channel deliveryTag)).settle deliveryTag multiple =
      ⟨[], outstanding.uncommitted ++ (outstanding.unsettled ++ [deliveryTag])⟩ := by
  have covered : ∀ tag ∈ outstanding.unsettled ++ [deliveryTag], isCovered deliveryTag multiple tag = true := by
    intro tag member
    rcases List.mem_append.mp member with earlier | new
    · cases multiple with
      | true => exact isCovered_multiple.mpr (bounded tag earlier)
      | false =>
        rw [alone rfl] at earlier
        cases earlier
    · rw [List.mem_singleton.mp new]
      exact covers_self
  unfold settle Outstanding.record
  congr 1
  · apply List.filter_eq_nil_iff.mpr
    intro tag member
    simp [covered tag member]
  · congr 1
    exact List.filter_eq_self.mpr covered

theorem Batches.delivered (channel deliveryTag : ℕ) (batches : Batches parameters actions last acked) :
    Batches parameters (actions ++ [.delivered channel deliveryTag]) last acked := by
  have same : ofActions (actions ++ [.delivered channel deliveryTag]) = ofActions actions := by
    rw [ofActions_append]
    rfl
  have count : receivedIn (actions ++ [.delivered channel deliveryTag]) = receivedIn actions :=
    receivedIn_append _ _
  constructor
  · rw [same]
    exact batches.bounded
  · exact batches.acked
  · rw [same]
    exact batches.due
  · rw [same, count]
    exact batches.settled
  · rw [same, count]
    exact batches.committed

/-- The frame that is due after a message ends its batch, and so does the commit. -/
theorem Batches.received (acks : parameters.autoAck = false) (channel : ℕ)
    (batches : Batches parameters actions last acked)
    (fresh : last < deliveryTag) :
    Batches parameters (actions ++ processed parameters channel deliveryTag (receivedIn actions + 1)) deliveryTag
      (if (ackDue parameters (receivedIn actions + 1)).isSome then deliveryTag else acked) := by
  have older : ∀ tag ∈ (ofActions actions).unsettled, tag ≤ deliveryTag :=
    fun tag member => Nat.le_trans (batches.bounded tag member) (Nat.le_of_lt fresh)
  have count : receivedIn (actions ++ processed parameters channel deliveryTag (receivedIn actions + 1)) =
      receivedIn actions + 1 := by
    rw [receivedIn_append, receivedIn_processed]
  have left : ofActions (actions ++ processed parameters channel deliveryTag (receivedIn actions + 1)) =
      let framed := if BatchEnds parameters.multiAckEvery (receivedIn actions + 1 : ℕ) then
          ⟨[], (ofActions actions).uncommitted ++ ((ofActions actions).unsettled ++ [deliveryTag])⟩
        else (ofActions actions).record (.received channel deliveryTag)
      if parameters.transactionEnabled = true ∧ parameters.txSize ∣ (receivedIn actions + 1 : ℕ) then
        { framed with uncommitted := [] }
      else framed := by
    rw [ofActions_append, processed, List.foldl_cons, List.foldl_append, foldl_frames acks, foldl_commits]
    by_cases ends : BatchEnds parameters.multiAckEvery (receivedIn actions + 1 : ℕ)
    · have all := settle_all channel deliveryTag (decide (parameters.multiAckEvery ≠ 0))
        (fun single => batches.settled.mpr (.inl (by simpa using single))) older
      simp only [ends, if_true, all]
    · simp only [ends, if_false]
  have due := ackDue_isSome acks (receivedIn actions + 1)
  rw [due]
  by_cases ends : BatchEnds parameters.multiAckEvery (receivedIn actions + 1 : ℕ)
  · have settled :
        (ofActions (actions ++ processed parameters channel deliveryTag (receivedIn actions + 1))).unsettled = [] := by
      rw [left]
      simp only [ends, if_true]
      split <;> rfl
    rw [decide_eq_true ends, if_pos rfl]
    constructor
    · rw [settled]
      exact List.forall_mem_nil _
    · exact Nat.le_refl _
    · rw [settled]
      exact iff_of_false (Nat.lt_irrefl _) (fun some => some rfl)
    · rw [settled, count]
      exact iff_of_true rfl ends
    · intro enabled _
      rw [count, left]
      simp only [ends, if_true, enabled, true_and]
      split
      · rename_i divides
        exact iff_of_true rfl divides
      · rename_i apart
        exact iff_of_false (by simp) apart
  · have unsettled :
        (ofActions (actions ++ processed parameters channel deliveryTag (receivedIn actions + 1))).unsettled =
          (ofActions actions).unsettled ++ [deliveryTag] := by
      rw [left]
      simp only [ends, if_false]
      split <;> rfl
    have some : (ofActions actions).unsettled ++ [deliveryTag] ≠ [] := by simp
    rw [decide_eq_false ends, if_neg Bool.false_ne_true]
    constructor
    · rw [unsettled]
      intro tag member
      rcases List.mem_append.mp member with earlier | new
      · exact older tag earlier
      · exact Nat.le_of_eq (List.mem_singleton.mp new)
    · exact Nat.le_of_lt (Nat.lt_of_le_of_lt batches.acked fresh)
    · rw [unsettled]
      exact iff_of_true (Nat.lt_of_le_of_lt batches.acked fresh) some
    · rw [unsettled, count]
      exact iff_of_false some ends
    · intro _ ended
      rw [count] at ended
      exact absurd ended ends

theorem Batches.clean_iff (batches : Batches parameters actions last acked) :
    SettledAndCommitted parameters actions ↔
      BatchEnds parameters.multiAckEvery (receivedIn actions) ∧ BatchEnds parameters.txSize (receivedIn actions) := by
  have transactions : parameters.transactionEnabled = true ↔ ¬ parameters.txSize = 0 := by
    simp [ConsumerParameters.transactionEnabled]
  constructor
  · intro clean
    have ends := batches.settled.mp clean.settled
    refine ⟨ends, ?_⟩
    by_cases none : parameters.txSize = 0
    · exact .inl none
    · have enabled := transactions.mpr none
      exact .inr ((batches.committed enabled ends).mp (clean.committed enabled))
  · rintro ⟨ends, committed⟩
    constructor
    · exact batches.settled.mpr ends
    · intro enabled
      have divides := committed.resolve_left (transactions.mp enabled)
      exact (batches.committed enabled ends).mpr divides

theorem Batches.finally_clean (batches : Batches parameters actions last acked) (multiple : last = deliveryTag) :
    SettledAndCommitted parameters (actions ++ .basicAck channel deliveryTag true ::
      if parameters.transactionEnabled then [.txCommit channel] else []) := by
  have all : ((ofActions actions).settle deliveryTag true).unsettled = [] := by
    apply List.filter_eq_nil_iff.mpr
    intro tag member
    have below := batches.bounded tag member
    rw [multiple] at below
    simp [isCovered_multiple.mpr below]
  constructor
  · rw [ofActions_append, List.foldl_cons]
    split <;> exact all
  · intro enabled
    rw [ofActions_append, List.foldl_cons, if_pos enabled]
    rfl

def finalWork (parameters : ConsumerParameters) (consumer : Consumer) : List ConsumerAction :=
  if sendsFinalAck parameters consumer then finalFrames parameters consumer else []

theorem receivedIn_finalWork : receivedIn (finalWork parameters consumer) = 0 := by
  unfold finalWork finalFrames
  split
  · show receivedIn (_ :: if parameters.transactionEnabled then _ else _) = 0
    split <;> rfl
  · rfl

theorem Batches.exit_clean (acks : parameters.autoAck = false) (opened : consumer.closedChannels = [])
    (batches : Batches parameters consumer.actions consumer.lastDeliveryTag consumer.lastAckedDeliveryTag) :
    SettledAndCommitted parameters (consumer.actions ++ finalWork parameters consumer) ↔
      ¬ BatchEnds parameters.multiAckEvery (receivedIn consumer.actions) ∨
        BatchEnds parameters.txSize (receivedIn consumer.actions) := by
  have sends : sendsFinalAck parameters consumer = true ↔
      ¬ BatchEnds parameters.multiAckEvery (receivedIn consumer.actions) := by
    rw [← batches.settled, ← ne_eq, ← batches.due]
    simp [sendsFinalAck, finalAckDue, ConsumerParameters.ackEnabled, acks, opened]
  unfold finalWork
  by_cases ends : BatchEnds parameters.multiAckEvery (receivedIn consumer.actions)
  · have none : ¬ sendsFinalAck parameters consumer = true := fun due => sends.mp due ends
    rw [if_neg none, List.append_nil, batches.clean_iff]
    simp [ends]
  · rw [if_pos (sends.mpr ends)]
    exact iff_of_true (batches.finally_clean rfl) (.inl ends)

structure Running (parameters : ConsumerParameters) (queueNames : List String) (consumer : Consumer) : Prop where
  opened : consumer.closedChannels = []
  queueNames : consumer.queueNames = queueNames
  batches : consumer.completed = false →
    Batches parameters consumer.actions consumer.lastDeliveryTag consumer.lastAckedDeliveryTag
  epoch : consumer.completed = false → consumer.epochMessageCount = receivedIn consumer.actions
  reported : consumer.completed = false → ∀ reason, .countDown reason ∉ consumer.actions

structure Stepped (parameters : ConsumerParameters) (consumer after : Consumer) (work : List ConsumerAction)
    (stops : Option ConsumerStopReason) : Prop where
  actions : after.actions = consumer.actions ++ work ++ stops.toList.map .countDown
  silent : ∀ reason, .countDown reason ∉ work
  completed : stops.isSome = true → consumer.completed = false
  clean : consumer.completed = false → ∀ reason ∈ stops,
    (SettledAndCommitted parameters (consumer.actions ++ work) ↔
      StopsCleanly parameters reason (receivedIn (consumer.actions ++ work)))

theorem report_eq : report reason consumer =
    (if consumer.completed then none else some reason : Option ConsumerStopReason).toList.map .countDown := by
  unfold report
  split <;> rfl

theorem processing_eq (latency : delivery.simulateLatency = true) :
    processing parameters channel delivery consumer =
      if (consumer.counted delivery).withinLimit parameters then
        processed parameters channel delivery.deliveryTag (consumer.epochMessageCount + 1)
      else [] := by
  unfold processing processed
  rw [latency, if_pos rfl]

theorem within_of_not_reached (running : (consumer.counted delivery).limitReached parameters = false) :
    (consumer.counted delivery).withinLimit parameters = true := by
  unfold limitReached withinLimit at *
  simp only [Bool.and_eq_false_iff, bne_eq_false_iff_eq, decide_eq_false_iff_not, Bool.or_eq_true, beq_iff_eq,
    decide_eq_true_eq] at *
  omega

theorem processed_silent (reason : ConsumerStopReason) :
    .countDown reason ∉ processed parameters channel deliveryTag count := by
  unfold processed frames commits ackNackOperation
  intro member
  rcases List.mem_cons.mp member with first | rest
  · cases first
  · rcases List.mem_append.mp rest with frame | commit
    · obtain ⟨multiple, _, same⟩ := List.mem_map.mp frame
      split at same <;> cases same
    · split at commit
      · cases List.mem_singleton.mp commit
      · cases commit

def deliveryWork (parameters : ConsumerParameters) (delivery : Delivery) (consumer : Consumer) :
    List ConsumerAction :=
  .delivered consumer.channel delivery.deliveryTag :: processing parameters consumer.channel delivery consumer

section

variable (acks : parameters.autoAck = false) (latency : delivery.simulateLatency = true)
  (running : Running parameters queueNames consumer)
  (delivered : Delivered parameters delivery consumer after)

include latency in
theorem deliveryWork_silent (reason : ConsumerStopReason) :
    .countDown reason ∉ deliveryWork parameters delivery consumer := by
  unfold deliveryWork
  rw [processing_eq latency]
  intro member
  rcases List.mem_cons.mp member with first | rest
  · cases first
  · split at rest
    · exact processed_silent reason rest
    · cases rest

include running delivered in
theorem delivery_actions : after.actions = consumer.actions ++ deliveryWork parameters delivery consumer ++
    (if (consumer.counted delivery).limitReached parameters && !consumer.completed then
      some .reachedMessageLimit else none : Option ConsumerStopReason).toList.map .countDown := by
  have opened : consumer.channel ∉ consumer.closedChannels := by
    rw [running.opened]
    exact List.not_mem_nil
  rw [delivered.actions, if_neg opened, handled, deliveryWork, List.append_assoc, List.cons_append, report_eq]
  cases (consumer.counted delivery).limitReached parameters <;> cases consumer.completed <;> simp

include acks latency running delivered in
theorem delivery_batches (fresh : consumer.lastDeliveryTag < delivery.deliveryTag)
    (going : consumer.completed = false) :
    Batches parameters (consumer.actions ++ deliveryWork parameters delivery consumer) after.lastDeliveryTag
      after.lastAckedDeliveryTag := by
  have opened : consumer.channel ∉ consumer.closedChannels := by
    rw [running.opened]
    exact List.not_mem_nil
  have accepted : accepts parameters delivery consumer = (consumer.counted delivery).withinLimit parameters := by
    simp [accepts, isProcessed, opened, latency]
  have start := (running.batches going).delivered consumer.channel delivery.deliveryTag
  have work : consumer.actions ++ deliveryWork parameters delivery consumer =
      (consumer.actions ++ [.delivered consumer.channel delivery.deliveryTag]) ++
        processing parameters consumer.channel delivery consumer := by
    rw [List.append_assoc]
    rfl
  rw [work, processing_eq latency, delivered.lastDeliveryTag, delivered.lastAckedDeliveryTag, frameFor, accepted]
  cases (consumer.counted delivery).withinLimit parameters with
  | false =>
    show Batches parameters (_ ++ []) consumer.lastDeliveryTag consumer.lastAckedDeliveryTag
    rw [List.append_nil]
    exact start
  | true =>
    have received := Batches.received acks consumer.channel start fresh
    have count : receivedIn (consumer.actions ++ [.delivered consumer.channel delivery.deliveryTag]) =
        consumer.epochMessageCount := by
      rw [receivedIn_append, running.epoch going]
      rfl
    rw [count] at received
    exact received

include acks latency running delivered in
theorem delivery_stepped (fresh : consumer.lastDeliveryTag < delivery.deliveryTag) :
    Stepped parameters consumer after (deliveryWork parameters delivery consumer)
      (if (consumer.counted delivery).limitReached parameters && !consumer.completed then
        some .reachedMessageLimit else none) := by
  constructor
  · exact delivery_actions running delivered
  · exact deliveryWork_silent latency
  · intro some
    split at some
    · rename_i stops
      simp only [Bool.and_eq_true, Bool.not_eq_true'] at stops
      exact stops.2
    · cases some
  · intro going reason stops
    split at stops
    · cases stops
      exact (delivery_batches acks latency running delivered fresh going).clean_iff
    · cases stops

include acks latency running delivered in
theorem delivery_running (fresh : consumer.lastDeliveryTag < delivery.deliveryTag) :
    Running parameters queueNames after := by
  have opened : consumer.channel ∉ consumer.closedChannels := by
    rw [running.opened]
    exact List.not_mem_nil
  have actions := delivery_actions running delivered
  have going (still : after.completed = false) :
      (consumer.counted delivery).limitReached parameters = false ∧ consumer.completed = false := by
    rw [delivered.completed opened] at still
    exact Bool.or_eq_false_iff.mp still
  have unstopped (still : after.completed = false) :
      after.actions = consumer.actions ++ deliveryWork parameters delivery consumer := by
    rw [actions, (going still).1]
    simp
  constructor
  · exact delivered.closedChannels.trans running.opened
  · exact delivered.queueNames.trans running.queueNames
  · intro still
    rw [unstopped still]
    exact delivery_batches acks latency running delivered fresh (going still).2
  · intro still
    have within := within_of_not_reached (going still).1
    rw [unstopped still, delivered.epochMessageCount opened, receivedIn_append, running.epoch (going still).2,
      deliveryWork, receivedIn_delivered, processing_eq latency, if_pos within, receivedIn_processed]
  · intro still reason member
    rw [unstopped still] at member
    rcases List.mem_append.mp member with earlier | work
    · exact running.reported (going still).2 reason earlier
    · exact deliveryWork_silent latency reason work

end

theorem checkQueues_fine {messageCount : String → Option ℕ}
    (exist : ∀ queue ∈ queueNames, (messageCount queue).isSome = true) :
    ∃ empty, checkQueues messageCount queueNames true = some (empty, true) := by
  induction queueNames with
  | nil => exact ⟨false, rfl⟩
  | cons queue queueNames ih =>
    obtain ⟨empty, rest⟩ := ih fun other member => exist other (List.mem_cons_of_mem _ member)
    obtain ⟨count, found⟩ := Option.isSome_iff_exists.mp (exist queue List.mem_cons_self)
    exact ⟨count == 0 || empty, by simp [checkQueues, found, rest]⟩

theorem checksChannels_fine {closedChannels : List ℕ} (running : Running parameters queueNames consumer)
    (exist : ∀ queue ∈ queueNames, (check.messageCount queue).isSome = true)
    (channels : ChecksChannels check consumer closedChannels) : closedChannels = consumer.closedChannels := by
  have open_ : decide (consumer.channel ∉ consumer.closedChannels) = true := by simp [running.opened]
  rcases channels with same | checked
  · exact same
  · obtain ⟨empty, found⟩ := checkQueues_fine exist
    rw [checked, checkedQueues, running.queueNames, open_, found]

theorem finalWork_silent (reason : ConsumerStopReason) : .countDown reason ∉ finalWork parameters consumer := by
  unfold finalWork finalFrames
  intro member
  split at member
  · rcases List.mem_cons.mp member with first | commit
    · cases first
    · split at commit
      · cases List.mem_singleton.mp commit
      · cases commit
  · cases member

/-- A check of a run without failures reports nothing, or stops the consumer after its final ack. -/
theorem check_cases (parameters : ConsumerParameters) (running : Running parameters queueNames consumer)
    (exist : ∀ queue ∈ queueNames, (check.messageCount queue).isSome = true) :
    (∃ lastActivityTimestamp, consumer.maybeStopIfNoActivityOrQueueEmpty parameters check =
      { consumer with lastActivityTimestamp }) ∨
    ∃ reason, reason ≠ .reachedMessageLimit ∧ consumer.maybeStopIfNoActivityOrQueueEmpty parameters check =
      { consumer with
        completed := true
        actions := consumer.actions ++ finalWork parameters consumer ++ report reason consumer } := by
  rcases maybeStop_cases parameters check consumer with
    ⟨stamp, closedChannels, channels, result, _⟩ | ⟨reason, closedChannels, other, channels, _, result⟩
  · rw [checksChannels_fine running exist channels] at result
    exact .inl ⟨stamp, result⟩
  · have open_ : finalAckThrows parameters consumer = false := by simp [finalAckThrows, running.opened]
    rw [checksChannels_fine running exist channels, exitWith_eq] at result
    refine .inr ⟨reason, other, result.trans ?_⟩
    show (if finalAckThrows parameters consumer then _ else _) = _
    rw [open_]
    rfl

theorem check_stepped (acks : parameters.autoAck = false) (running : Running parameters queueNames consumer)
    (exist : ∀ queue ∈ queueNames, (check.messageCount queue).isSome = true) :
    Running parameters queueNames (consumer.maybeStopIfNoActivityOrQueueEmpty parameters check) ∧
      ∃ work stops, Stepped parameters consumer (consumer.maybeStopIfNoActivityOrQueueEmpty parameters check)
        work stops := by
  rcases check_cases parameters running exist with ⟨stamp, result⟩ | ⟨reason, other, result⟩
  · rw [result]
    constructor
    · exact ⟨running.opened, running.queueNames, running.batches, running.epoch, running.reported⟩
    · refine ⟨[], none, ?_, fun _ => List.not_mem_nil, ?_, ?_⟩
      · simp
      · intro impossible
        cases impossible
      · intro _ _ impossible
        cases impossible
  · rw [result]
    constructor
    · constructor
      · exact running.opened
      · exact running.queueNames
      · intro impossible
        cases impossible
      · intro impossible
        cases impossible
      · intro impossible
        cases impossible
    · refine ⟨finalWork parameters consumer, if consumer.completed then none else some reason, ?_,
        finalWork_silent, ?_, ?_⟩
      · rw [← report_eq]
      · intro some
        cases completed : consumer.completed with
        | true => simp [completed] at some
        | false => rfl
      · intro going stopped same
        rw [going] at same
        cases same
        rw [receivedIn_append, receivedIn_finalWork, (running.batches going).exit_clean acks running.opened]
        cases reason with
        | reachedMessageLimit => exact absurd rfl other
        | idle => rfl
        | queueEmpty => rfl

theorem start_running : Running parameters queueNames (start channel queueNames) := by
  constructor
  · rfl
  · rfl
  · intro _
    constructor
    · exact List.forall_mem_nil _
    · exact Nat.le_refl _
    · exact iff_of_false (Nat.lt_irrefl _) fun some => some rfl
    · exact iff_of_true rfl (.inr (Int.dvd_zero _))
    · intro _ _
      exact iff_of_true rfl (Int.dvd_zero _)
  · intro _
    rfl
  · intro _ reason
    exact List.not_mem_nil

/-- A report among some actions and the work and the report of a call is an earlier one, or the last. -/
theorem report_split {earlier work before later : List ConsumerAction} {stops : Option ConsumerStopReason}
    (silent : ∀ reason, .countDown reason ∉ work)
    (split : earlier ++ work ++ stops.toList.map .countDown = before ++ .countDown reason :: later) :
    (∃ between, earlier = before ++ .countDown reason :: between) ∨
      before = earlier ++ work ∧ stops = some reason := by
  have reported {rest : List ConsumerAction} (tail : stops.toList.map .countDown = .countDown reason :: rest) :
      stops = some reason := by
    cases stops with
    | none => cases tail
    | some stop =>
      cases tail
      rfl
  rcases List.append_eq_append_iff.mp split with ⟨more, whole, tail⟩ | ⟨rest, whole, tail⟩
  · cases more with
    | nil => exact .inr ⟨whole.trans (List.append_nil _), reported tail⟩
    | cons action more =>
      cases stops with
      | none => cases tail
      | some stop =>
        have short := congrArg List.length tail
        simp at short
  · cases rest with
    | nil => exact .inr ⟨(whole.trans (List.append_nil _)).symm, reported tail.symm⟩
    | cons action rest =>
      cases tail
      rcases List.append_eq_append_iff.mp whole with ⟨more, _, inside⟩ | ⟨more, found, inside⟩
      · exact absurd (inside ▸ List.mem_append_right more List.mem_cons_self) (silent reason)
      · cases more with
        | nil =>
          have member : .countDown reason ∈ work := by
            rw [← List.nil_append work, ← inside]
            exact List.mem_cons_self
          exact absurd member (silent reason)
        | cons action more =>
          cases inside
          exact .inl ⟨more, found⟩

theorem consumed_stepped (acks : parameters.autoAck = false) (events : List DeliveryEvent) (event : DeliveryEvent)
    (increasing : Increasing (events ++ [event])) (fine : withoutFailures queueNames event)
    (running : Running parameters queueNames (consumed parameters channel queueNames events)) :
    Running parameters queueNames (consumed parameters channel queueNames (events ++ [event])) ∧
      ∃ work stops, Stepped parameters (consumed parameters channel queueNames events)
        (consumed parameters channel queueNames (events ++ [event])) work stops := by
  rw [consumed_append]
  cases event with
  | delivery delivery =>
    have delivered := handleDelivery_delivered parameters delivery (consumed parameters channel queueNames events)
    have settling := consumed_settling parameters channel queueNames (increasing_initial increasing)
    have fresh := Nat.lt_of_le_of_lt settling.processed (lastTag_lt increasing)
    exact ⟨delivery_running acks fine running delivered fresh, _, _,
      delivery_stepped acks fine running delivered fresh⟩
  | exitCheck check => exact check_stepped acks running fine

theorem consumed_running (channel : ℕ) (acks : parameters.autoAck = false) {events : List DeliveryEvent}
    (increasing : Increasing events) (fine : ∀ event ∈ events, withoutFailures queueNames event) :
    Running parameters queueNames (consumed parameters channel queueNames events) := by
  induction events using List.reverseRecOn with
  | nil => exact start_running
  | append_singleton events event ih =>
    have running := ih (increasing_initial increasing) fun other member => fine other (List.mem_append_left _ member)
    have last := fine event (List.mem_append_right _ (List.mem_singleton_self _))
    exact (consumed_stepped acks events event increasing last running).1

/-- A batch of acks or of a transaction that has begun is not ended when the message limit is reached, and
    a batch of a transaction is not when there is nothing to ack. -/
theorem clean_stop_iff (parameters : ConsumerParameters) (channel : ℕ) (queueNames : List String)
    (events : List DeliveryEvent) (acks : parameters.autoAck = false) (increasing : Increasing events)
    (fine : ∀ event ∈ events, withoutFailures queueNames event)
    (before : List ConsumerAction) (reason : ConsumerStopReason) (later : List ConsumerAction)
    (stopped : (consumed parameters channel queueNames events).actions = before ++ .countDown reason :: later) :
    SettledAndCommitted parameters before ↔ StopsCleanly parameters reason (receivedIn before) := by
  induction events using List.reverseRecOn generalizing later with
  | nil => exact absurd stopped.symm (List.append_ne_nil_of_right_ne_nil _ (List.cons_ne_nil _ _))
  | append_singleton events event ih =>
    have earlierFine : ∀ other ∈ events, withoutFailures queueNames other :=
      fun other member => fine other (List.mem_append_left _ member)
    have running := consumed_running channel acks (increasing_initial increasing) earlierFine
    have last := fine event (List.mem_append_right _ (List.mem_singleton_self _))
    obtain ⟨_, work, stops, stepped⟩ := consumed_stepped acks events event increasing last running
    rw [stepped.actions] at stopped
    rcases report_split stepped.silent stopped with ⟨between, earlier⟩ | ⟨rfl, stops⟩
    · exact ih (increasing_initial increasing) earlierFine between earlier
    · have going := stepped.completed (by rw [stops]; rfl)
      exact stepped.clean going reason stops

def limitParameters : ConsumerParameters := ⟨2, false, 3, true, false, 6, .empty, false, true⟩

def messages (count : ℕ) : List DeliveryEvent :=
  (List.range count).map fun index => .delivery ⟨index + 1, 0, true⟩

/-- Six messages are two batches of acks and three of transactions. -/
theorem clean_stop_six : SettledAndCommitted limitParameters
    ((consumed limitParameters 1 ["queue"] (messages 6)).actions.dropLast) := by
  have fine : ∀ event ∈ messages 6, withoutFailures ["queue"] event := by
    intro event member
    obtain ⟨index, _, rfl⟩ := List.mem_map.mp member
    rfl
  apply (clean_stop_iff limitParameters 1 ["queue"] (messages 6) rfl (by decide) fine _ .reachedMessageLimit []
    (by decide)).mpr
  show BatchEnds 3 _ ∧ BatchEnds 2 _
  decide

/-- The fourth message begins a batch of acks, and is not acked when it is the last one. -/
theorem stopped_with_unsettled :
    ¬ ∀ (parameters : ConsumerParameters) (channel : ℕ) (queueNames : List String) (events : List DeliveryEvent),
      parameters.autoAck = false → 0 ≤ parameters.multiAckEvery → 0 ≤ parameters.txSize → Increasing events →
      (∀ event ∈ events, withoutFailures queueNames event) →
      ∀ before reason later,
        (consumed parameters channel queueNames events).actions = before ++ .countDown reason :: later →
        SettledAndCommitted parameters before := by
  intro always
  have fine : ∀ event ∈ messages 4, withoutFailures ["queue"] event := by
    intro event member
    obtain ⟨index, _, rfl⟩ := List.mem_map.mp member
    rfl
  have clean := always { limitParameters with msgLimit := 4 } 1 ["queue"] (messages 4) rfl (by decide) (by decide)
    (by decide) fine
    (consumed { limitParameters with msgLimit := 4 } 1 ["queue"] (messages 4)).actions.dropLast
    .reachedMessageLimit [] (by decide)
  have unsettled := clean.settled
  revert unsettled
  decide

end PerfTestProof
