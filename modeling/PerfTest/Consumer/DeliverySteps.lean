import PerfTest.Consumer.Deliveries
import PerfTest.Systems.Runs

namespace PerfTestProof

open Systems Settlements PerfTestModel Consumer

def movementOn (channel : ℕ) : ConsumerAction → Option (Movement ℕ)
  | .delivered other deliveryTag => if other = channel then some (.delivered deliveryTag) else none
  | .basicAck other deliveryTag multiple => if other = channel then some (.settled deliveryTag multiple) else none
  | .basicNack other deliveryTag multiple _ => if other = channel then some (.settled deliveryTag multiple) else none
  | .received .. | .txCommit _ | .countDown _ => none

def movementsOn (channel : ℕ) (actions : List ConsumerAction) : List (Movement ℕ) :=
  actions.filterMap (movementOn channel)

def accountOf (channel : ℕ) (consumer : Consumer) : Settlements ℕ :=
  ofMovements (movementsOn channel consumer.actions)

@[simp] theorem movementsOn_append (channel : ℕ) (first second : List ConsumerAction) :
    movementsOn channel (first ++ second) = movementsOn channel first ++ movementsOn channel second :=
  List.filterMap_append

def BatchEnds (size : ℤ) (count : ℕ) : Prop := size = 0 ∨ size ∣ count

instance (size : ℤ) (count : ℕ) : Decidable (BatchEnds size count) :=
  inferInstanceAs (Decidable (size = 0 ∨ size ∣ count))

section

variable (parameters : ConsumerParameters)

def frames (channel deliveryTag currentMessageCount : ℕ) : List ConsumerAction :=
  (ackDue parameters currentMessageCount).toList.map (ackNackOperation parameters channel deliveryTag)

def commits (channel currentMessageCount : ℕ) : List ConsumerAction :=
  if commitDue parameters currentMessageCount then [.txCommit channel] else []

def report (reason : ConsumerStopReason) (consumer : Consumer) : List ConsumerAction :=
  if consumer.completed then [] else [.countDown reason]

def isProcessed (delivery : Delivery) (consumer : Consumer) : Bool :=
  (consumer.counted delivery).withinLimit parameters && delivery.simulateLatency

end

variable {parameters : ConsumerParameters} {consumer : Consumer} {channel deliveryTag count : ℕ}
  {delivery : Delivery} {check : ExitCheck} {reason : ConsumerStopReason} {queueNames : List String}

theorem ackDue_eq (acks : parameters.autoAck = false) : ackDue parameters count =
    if BatchEnds parameters.multiAckEvery count then some (decide (parameters.multiAckEvery ≠ 0)) else none := by
  have enabled : parameters.ackEnabled = true := by simp [ConsumerParameters.ackEnabled, acks]
  unfold ackDue BatchEnds
  rw [if_pos enabled]
  by_cases single : parameters.multiAckEvery = 0
  · simp [single]
  · simp only [single, if_false, false_or, ne_eq, not_false_eq_true, decide_true,
      ← Int.dvd_iff_tmod_eq_zero]

theorem ackDue_isSome (acks : parameters.autoAck = false) (count : ℕ) :
    (ackDue parameters count).isSome = decide (BatchEnds parameters.multiAckEvery count) := by
  rw [ackDue_eq acks]
  split <;> simp [*]

theorem ackIfNecessary_eq : consumer.ackIfNecessary parameters channel deliveryTag count =
    { consumer with
      actions := consumer.actions ++ frames parameters channel deliveryTag count
      lastAckedDeliveryTag :=
        if (ackDue parameters count).isSome then deliveryTag else consumer.lastAckedDeliveryTag } := by
  unfold ackIfNecessary frames
  cases ackDue parameters count with
  | none => simp
  | some multiple => rfl

theorem commitTransactionIfNecessary_eq : consumer.commitTransactionIfNecessary parameters channel count =
    { consumer with actions := consumer.actions ++ commits parameters channel count } := by
  unfold commitTransactionIfNecessary commits
  split
  · rfl
  · rw [List.append_nil]

theorem countDown_eq : consumer.countDown reason =
    { consumer with completed := true, actions := consumer.actions ++ report reason consumer } := by
  unfold Consumer.countDown report
  cases completed : consumer.completed with
  | true => simp [← completed]
  | false => rfl

theorem process_eq : consumer.process parameters channel delivery =
    if delivery.simulateLatency then { consumer with
      actions := consumer.actions ++ [.received channel delivery.deliveryTag] ++
        frames parameters channel delivery.deliveryTag consumer.epochMessageCount ++
        commits parameters channel consumer.epochMessageCount
      lastAckedDeliveryTag :=
        if (ackDue parameters consumer.epochMessageCount).isSome then delivery.deliveryTag
        else consumer.lastAckedDeliveryTag
      lastDeliveryTag := delivery.deliveryTag }
    else consumer.did (.received channel delivery.deliveryTag) := by
  unfold process
  dsimp only
  split
  · rw [ackIfNecessary_eq, commitTransactionIfNecessary_eq]
    rfl
  · rfl

section

variable (delivery : Delivery) (consumer : Consumer)

@[simp] theorem counted_actions : (consumer.counted delivery).actions = consumer.actions := rfl

@[simp] theorem counted_completed : (consumer.counted delivery).completed = consumer.completed := rfl

@[simp] theorem counted_epoch :
    (consumer.counted delivery).epochMessageCount = consumer.epochMessageCount + 1 := rfl

@[simp] theorem counted_lastDeliveryTag :
    (consumer.counted delivery).lastDeliveryTag = consumer.lastDeliveryTag := rfl

@[simp] theorem counted_lastAckedDeliveryTag :
    (consumer.counted delivery).lastAckedDeliveryTag = consumer.lastAckedDeliveryTag := rfl

end

section

variable (parameters : ConsumerParameters) (channel : ℕ) (delivery : Delivery) (consumer : Consumer)

def processing : List ConsumerAction :=
  if (consumer.counted delivery).withinLimit parameters then
    .received channel delivery.deliveryTag ::
      if delivery.simulateLatency then
        frames parameters channel delivery.deliveryTag (consumer.epochMessageCount + 1) ++
          commits parameters channel (consumer.epochMessageCount + 1)
      else []
  else []

def handled : List ConsumerAction :=
  processing parameters channel delivery consumer ++
    if (consumer.counted delivery).limitReached parameters then report .reachedMessageLimit consumer else []

end

theorem handleMessage_eq : consumer.handleMessage parameters channel delivery =
    { consumer.counted delivery with
      actions := consumer.actions ++ handled parameters channel delivery consumer
      lastAckedDeliveryTag :=
        if isProcessed parameters delivery consumer &&
            (ackDue parameters (consumer.epochMessageCount + 1)).isSome then delivery.deliveryTag
        else consumer.lastAckedDeliveryTag
      lastDeliveryTag :=
        if isProcessed parameters delivery consumer then delivery.deliveryTag else consumer.lastDeliveryTag
      completed := (consumer.counted delivery).limitReached parameters || consumer.completed } := by
  unfold handleMessage handled processing isProcessed
  dsimp only
  rw [process_eq]
  cases within : (consumer.counted delivery).withinLimit parameters <;>
    cases reached : (consumer.counted delivery).limitReached parameters <;>
    cases latency : delivery.simulateLatency <;> simp [countDown_eq, did, report] <;> rfl

section

variable (parameters : ConsumerParameters)

def exiting (check : ExitCheck) (consumer : Consumer) : Option Consumer :=
  if parameters.exitWhen = .never ∨ consumer.lastActivityTimestamp = -1 ∨
      consumer.isIdle parameters check = false then none
  else if parameters.exitWhen = .idle then some consumer
  else if (consumer.checkedQueues check).2 then some (consumer.checkedQueues check).1
  else none

def sendsFinalAck (consumer : Consumer) : Bool :=
  consumer.finalAckDue parameters && consumer.channel ∉ consumer.closedChannels

def finalAckThrows (consumer : Consumer) : Bool :=
  consumer.finalAckDue parameters && consumer.channel ∈ consumer.closedChannels && !parameters.recoveryEnabled

def acksAtExit (check : ExitCheck) (consumer : Consumer) : Bool :=
  (exiting parameters check consumer).any (sendsFinalAck parameters)

def finalFrames (consumer : Consumer) : List ConsumerAction :=
  .basicAck consumer.channel consumer.lastDeliveryTag true ::
    if parameters.transactionEnabled then [.txCommit consumer.channel] else []

end

structure Checked (parameters : ConsumerParameters) (check : ExitCheck) (consumer after : Consumer) : Prop where
  channel : after.channel = consumer.channel
  queueNames : after.queueNames = consumer.queueNames
  receivedMessageCount : after.receivedMessageCount = consumer.receivedMessageCount
  epochMessageCount : after.epochMessageCount = consumer.epochMessageCount
  lastDeliveryTag : after.lastDeliveryTag = consumer.lastDeliveryTag
  lastAckedDeliveryTag : after.lastAckedDeliveryTag = consumer.lastAckedDeliveryTag
  actions : ∃ reports : List ConsumerAction, after.actions = consumer.actions ++
    (if acksAtExit parameters check consumer then finalFrames parameters consumer else []) ++ reports ∧
      ∀ action ∈ reports, ∃ reason, action = .countDown reason

theorem report_countDown {action : ConsumerAction} (member : action ∈ report reason consumer) :
    ∃ reason, action = .countDown reason := by
  unfold report at member
  split at member
  · cases member
  · exact ⟨reason, List.mem_singleton.mp member⟩

theorem maybeAckCommitBeforeExit_eq : consumer.maybeAckCommitBeforeExit parameters =
    if finalAckThrows parameters consumer then none
    else some { consumer with actions := consumer.actions ++
      (if sendsFinalAck parameters consumer then finalFrames parameters consumer else []) } := by
  unfold maybeAckCommitBeforeExit finalAckThrows sendsFinalAck finalFrames ackedBeforeExit
  cases due : consumer.finalAckDue parameters with
  | false => simp
  | true =>
    by_cases closed : consumer.channel ∈ consumer.closedChannels
    · cases parameters.recoveryEnabled <;> simp [closed]
    · cases transactions : parameters.transactionEnabled <;> simp [closed, did]

theorem exitWith_eq : consumer.exitWith parameters reason =
    if finalAckThrows parameters consumer then consumer
    else { consumer with
      completed := true
      actions := consumer.actions ++
        (if sendsFinalAck parameters consumer then finalFrames parameters consumer else []) ++
          report reason consumer } := by
  rw [exitWith, maybeAckCommitBeforeExit_eq]
  split
  · rename_i throws
    split at throws
    · cases throws
    · rename_i fine
      cases throws
      rw [if_neg fine, countDown_eq]
      rfl
  · rename_i throws
    split at throws
    · rename_i fails
      rw [if_pos fails]
    · cases throws

theorem checkedQueues_eq (check : ExitCheck) (consumer : Consumer) :
    ∃ closedChannels, (consumer.checkedQueues check).1 = { consumer with closedChannels } := by
  unfold checkedQueues
  split
  · exact ⟨_, rfl⟩
  · exact ⟨_, rfl⟩
  · exact ⟨_, rfl⟩

def ChecksChannels (check : ExitCheck) (consumer : Consumer) (closedChannels : List ℕ) : Prop :=
  closedChannels = consumer.closedChannels ∨ closedChannels = (consumer.checkedQueues check).1.closedChannels

theorem maybeStop_cases (parameters : ConsumerParameters) (check : ExitCheck) (consumer : Consumer) :
    (∃ lastActivityTimestamp closedChannels, ChecksChannels check consumer closedChannels ∧
      consumer.maybeStopIfNoActivityOrQueueEmpty parameters check =
        { consumer with lastActivityTimestamp, closedChannels } ∧
      exiting parameters check consumer = none) ∨
    ∃ reason closedChannels, reason ≠ .reachedMessageLimit ∧ ChecksChannels check consumer closedChannels ∧
      exiting parameters check consumer = some { consumer with closedChannels } ∧
      consumer.maybeStopIfNoActivityOrQueueEmpty parameters check =
        { consumer with closedChannels }.exitWith parameters reason := by
  unfold maybeStopIfNoActivityOrQueueEmpty exiting
  by_cases never : parameters.exitWhen = .never
  · exact .inl ⟨_, _, .inl rfl, if_pos never, if_pos (.inl never)⟩
  by_cases first : consumer.lastActivityTimestamp = -1
  · rw [if_neg never, if_pos first]
    exact .inl ⟨_, _, .inl rfl, rfl, if_pos (.inr (.inl first))⟩
  cases idle : consumer.isIdle parameters check with
  | false =>
    simp only [never, first, if_false, Bool.false_eq_true, or_true, if_true]
    exact .inl ⟨_, _, .inl rfl, rfl, trivial⟩
  | true =>
    simp only [never, first, if_false, if_true, Bool.true_eq_false, or_false]
    by_cases whenIdle : parameters.exitWhen = .idle
    · simp only [whenIdle, if_true]
      exact .inr ⟨.idle, _, by decide, .inl rfl, rfl, rfl⟩
    · simp only [whenIdle, if_false]
      obtain ⟨closedChannels, same⟩ := checkedQueues_eq check consumer
      have closed : ChecksChannels check consumer closedChannels := .inr (by rw [same])
      rw [same]
      split
      · exact .inr ⟨.queueEmpty, _, by decide, closed, rfl, rfl⟩
      · exact .inl ⟨_, _, closed, rfl, rfl⟩

theorem maybeStop_checked (parameters : ConsumerParameters) (check : ExitCheck) (consumer : Consumer) :
    Checked parameters check consumer (consumer.maybeStopIfNoActivityOrQueueEmpty parameters check) := by
  rcases maybeStop_cases parameters check consumer with
    ⟨stamp, closedChannels, _, result, none⟩ | ⟨reason, closedChannels, _, _, stopped, result⟩
  · rw [result]
    refine ⟨rfl, rfl, rfl, rfl, rfl, rfl, [], ?_, List.forall_mem_nil _⟩
    simp [acksAtExit, none]
  · have acks : acksAtExit parameters check consumer =
        sendsFinalAck parameters { consumer with closedChannels } := by
      rw [acksAtExit, stopped]
      rfl
    rw [result, exitWith_eq]
    split
    · rename_i throws
      refine ⟨rfl, rfl, rfl, rfl, rfl, rfl, [], ?_, List.forall_mem_nil _⟩
      rw [acks]
      simp only [finalAckThrows, Bool.and_eq_true, decide_eq_true_eq] at throws
      simp [sendsFinalAck, throws.1.2]
    · refine ⟨rfl, rfl, rfl, rfl, rfl, rfl, report reason { consumer with closedChannels }, ?_, ?_⟩
      · rw [acks]
        rfl
      · exact fun action => report_countDown

theorem movementOn_ackNack (channel deliveryTag : ℕ) (multiple : Bool) :
    movementOn channel (ackNackOperation parameters channel deliveryTag multiple) =
      some (.settled deliveryTag multiple) := by
  unfold ackNackOperation
  split <;> simp [movementOn]

theorem movementsOn_reports {reports : List ConsumerAction}
    (only : ∀ action ∈ reports, ∃ reason, action = .countDown reason) : movementsOn channel reports = [] := by
  apply List.filterMap_eq_nil_iff.mpr
  intro action member
  obtain ⟨reason, rfl⟩ := only action member
  rfl

theorem movementsOn_frames (channel deliveryTag count : ℕ) :
    movementsOn channel (frames parameters channel deliveryTag count) =
      (ackDue parameters count).toList.map (.settled deliveryTag) := by
  unfold frames movementsOn
  cases ackDue parameters count with
  | none => rfl
  | some multiple => simp [movementOn_ackNack]

theorem movementsOn_commits (channel other count : ℕ) :
    movementsOn channel (commits parameters other count) = [] := by
  unfold commits
  split <;> rfl

theorem movementsOn_handled (channel : ℕ) :
    movementsOn channel (handled parameters channel delivery consumer) =
      if isProcessed parameters delivery consumer then
        (ackDue parameters (consumer.epochMessageCount + 1)).toList.map (.settled delivery.deliveryTag)
      else [] := by
  have reports : movementsOn channel
      (if (consumer.counted delivery).limitReached parameters then report .reachedMessageLimit consumer
        else []) = [] := by
    split
    · exact movementsOn_reports fun _ => report_countDown
    · rfl
  unfold handled processing isProcessed
  rw [movementsOn_append, reports, List.append_nil]
  cases (consumer.counted delivery).withinLimit parameters with
  | false => rfl
  | true =>
    cases delivery.simulateLatency with
    | false => rfl
    | true =>
      show movementsOn channel (frames _ _ _ _ ++ commits _ _ _) = _
      rw [movementsOn_append, movementsOn_commits, movementsOn_frames, List.append_nil]
      rfl

def accepts (parameters : ConsumerParameters) (delivery : Delivery) (consumer : Consumer) : Bool :=
  consumer.channel ∉ consumer.closedChannels && isProcessed parameters delivery consumer

def frameFor (parameters : ConsumerParameters) (delivery : Delivery) (consumer : Consumer) : Option Bool :=
  if accepts parameters delivery consumer then ackDue parameters (consumer.epochMessageCount + 1) else none

theorem accepts_of_frame {multiple : Bool} (frame : frameFor parameters delivery consumer = some multiple) :
    accepts parameters delivery consumer = true := by
  by_contra rejected
  rw [frameFor, if_neg rejected] at frame
  cases frame

structure Delivered (parameters : ConsumerParameters) (delivery : Delivery) (consumer after : Consumer) :
    Prop where
  channel : after.channel = consumer.channel
  queueNames : after.queueNames = consumer.queueNames
  closedChannels : after.closedChannels = consumer.closedChannels
  lastDeliveryTag : after.lastDeliveryTag =
    if accepts parameters delivery consumer then delivery.deliveryTag else consumer.lastDeliveryTag
  lastAckedDeliveryTag : after.lastAckedDeliveryTag =
    if (frameFor parameters delivery consumer).isSome then delivery.deliveryTag
    else consumer.lastAckedDeliveryTag
  epochMessageCount : consumer.channel ∉ consumer.closedChannels →
    after.epochMessageCount = consumer.epochMessageCount + 1
  completed : consumer.channel ∉ consumer.closedChannels →
    after.completed = ((consumer.counted delivery).limitReached parameters || consumer.completed)
  actions : after.actions = consumer.actions ++ .delivered consumer.channel delivery.deliveryTag ::
    if consumer.channel ∈ consumer.closedChannels then []
    else handled parameters consumer.channel delivery consumer

theorem handleDelivery_delivered (parameters : ConsumerParameters) (delivery : Delivery) (consumer : Consumer) :
    Delivered parameters delivery consumer (consumer.handleDelivery parameters delivery) := by
  unfold handleDelivery maybeHandleMessage
  by_cases closed : consumer.channel ∈ consumer.closedChannels
  · have still : consumer.channel ∈
        (consumer.did (.delivered consumer.channel delivery.deliveryTag)).closedChannels := closed
    have rejected : accepts parameters delivery consumer = false := by simp [accepts, closed]
    have none : frameFor parameters delivery consumer = none := by simp [frameFor, rejected]
    rw [if_pos still]
    constructor
    · rfl
    · rfl
    · rfl
    · rw [rejected]
      rfl
    · rw [none]
      rfl
    · intro opened
      exact absurd closed opened
    · intro opened
      exact absurd closed opened
    · rw [if_pos closed]
      rfl
  · have still : consumer.channel ∉
        (consumer.did (.delivered consumer.channel delivery.deliveryTag)).closedChannels := closed
    have accepted : accepts parameters delivery consumer = isProcessed parameters delivery consumer := by
      simp [accepts, closed]
    rw [if_neg still, handleMessage_eq]
    constructor
    · rfl
    · rfl
    · rfl
    · rw [accepted]
      rfl
    · rw [frameFor, accepted]
      show (if isProcessed parameters delivery consumer && _ then _ else _) = _
      cases isProcessed parameters delivery consumer <;> rfl
    · intro _
      rfl
    · intro _
      rfl
    · rw [if_neg closed]
      show (consumer.actions ++ [_]) ++ handled parameters consumer.channel delivery consumer = _
      rw [List.append_assoc]
      rfl

theorem Delivered.movements {after : Consumer} (delivered : Delivered parameters delivery consumer after) :
    movementsOn consumer.channel after.actions =
      movementsOn consumer.channel consumer.actions ++ .delivered delivery.deliveryTag ::
        (frameFor parameters delivery consumer).toList.map (.settled delivery.deliveryTag) := by
  have announced (rest : List ConsumerAction) :
      movementsOn consumer.channel (.delivered consumer.channel delivery.deliveryTag :: rest) =
        .delivered delivery.deliveryTag :: movementsOn consumer.channel rest := by
    simp [movementsOn, movementOn]
  rw [delivered.actions, movementsOn_append, announced, frameFor, accepts]
  by_cases closed : consumer.channel ∈ consumer.closedChannels
  · simp [closed, movementsOn]
  · rw [if_neg closed, movementsOn_handled]
    cases isProcessed parameters delivery consumer <;> simp [closed]

theorem Checked.movements {after : Consumer} (checked : Checked parameters check consumer after) :
    movementsOn consumer.channel after.actions = movementsOn consumer.channel consumer.actions ++
      if acksAtExit parameters check consumer then [.settled consumer.lastDeliveryTag true] else [] := by
  obtain ⟨reports, actions, only⟩ := checked.actions
  rw [actions, movementsOn_append, movementsOn_append, movementsOn_reports only, List.append_nil]
  congr 1
  split
  · unfold finalFrames
    split <;> simp [movementsOn, movementOn]
  · rfl

theorem consumed_append (parameters : ConsumerParameters) (channel : ℕ) (queueNames : List String)
    (events : List DeliveryEvent) (event : DeliveryEvent) :
    consumed parameters channel queueNames (events ++ [event]) =
      (consumed parameters channel queueNames events).handle parameters event := List.foldl_concat ..

theorem handle_channel (event : DeliveryEvent) : (consumer.handle parameters event).channel = consumer.channel := by
  cases event with
  | delivery delivery => exact (handleDelivery_delivered parameters delivery consumer).channel
  | exitCheck check => exact (maybeStop_checked parameters check consumer).channel

theorem consumed_channel (parameters : ConsumerParameters) (channel : ℕ) (queueNames : List String)
    (events : List DeliveryEvent) : (consumed parameters channel queueNames events).channel = channel := by
  induction events using List.reverseRecOn with
  | nil => rfl
  | append_singleton events event ih => rw [consumed_append, handle_channel, ih]

def EachExitCheck (holds : List DeliveryEvent → ExitCheck → Prop) : List DeliveryEvent → Prop :=
  EachStep fun earlier event => ∀ check, event = .exitCheck check → holds earlier check

section

variable {holds : List DeliveryEvent → ExitCheck → Prop} {events : List DeliveryEvent}

@[simp] theorem eachExitCheck_delivery :
    EachExitCheck holds (events ++ [.delivery delivery]) ↔ EachExitCheck holds events := by
  simp [EachExitCheck, eachStep_append]

@[simp] theorem eachExitCheck_exitCheck :
    EachExitCheck holds (events ++ [.exitCheck check]) ↔ EachExitCheck holds events ∧ holds events check := by
  simp [EachExitCheck, eachStep_append]

end

end PerfTestProof
