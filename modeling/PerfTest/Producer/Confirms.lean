import PerfTest.Java.Primitives
import PerfTest.Producer.Timestamps
import PerfTest.Systems.Runs
import PerfTest.Systems.SortedMap

namespace PerfTestModel

open Systems

structure ConfirmFrame where
  seqNo : ℕ
  multiple : Bool
  nack : Bool
  currentTime : ℤ
  deriving DecidableEq, Repr

inductive MetricsCall where
  | confirmed (count : ℕ) (latencies : List ℤ)
  | nacked (count : ℕ)
  deriving DecidableEq, Repr

/-- How far the publishing thread is in `handlePublish`. `era` is the number of pool resets that
    preceded the acquisition of the permit the thread holds. -/
inductive PublishStage where
  | idle
  | entered
  | acquired (era : ℕ)
  | numbered (era publishindId : ℕ)
  | recorded (era publishindId : ℕ)
  | stopped
  deriving DecidableEq, Repr

/-- How far the connection's thread is in `handleAckNack`. `covered` keeps the sequence numbers the
    broker resolved with the frame being handled. -/
inductive CallbackStage where
  | idle
  | counted (frame : ConfirmFrame) (covered : Finset ℕ) (numConfirms : ℕ)
  | clearing (frame : ConfirmFrame) (covered : Finset ℕ) (numConfirms : ℕ) (latencies : List ℤ)
      (removed : ℕ)
  | processed (numConfirms : ℕ)
  deriving DecidableEq

inductive HandlerStage where
  | idle
  | started
  | resetting (usedPermits : ℤ)
  | reset
  deriving DecidableEq, Repr

/-- What came out of `basicPublish`. The client may or may not have taken a sequence number when
    the write fails. -/
inductive PublishOutcome where
  | accepted
  | failed (numberTaken : Bool)
  deriving DecidableEq, Repr

structure ProducerState where
  maxOutstandingConfirms : ℕ
  confirmPool : Java.Semaphore
  unconfirmed : SortedMap ℕ ℤ
  publishStage : PublishStage
  callbackStage : CallbackStage
  metrics : List MetricsCall
  recoveryInProgress : Bool
  handlerStage : HandlerStage
  recoveriesDue : ℕ
  /-- The number of times `recover` has started to reset the pool. -/
  era : ℕ
  channelOpen : Bool
  nextPublishSeqNo : ℕ
  /-- Published on the current channel and not resolved by the broker. -/
  unresolved : Finset ℕ
  /-- Published on the current channel and confirmed, the confirm having been processed. -/
  processed : Finset ℕ

inductive ProducerEvent where
  | handlePublish
  | acquire
  | acquireTimeout
  | createFails
  | getNextPublishSeqNo
  | put (timestamp : ℤ)
  | basicPublish (outcome : PublishOutcome)
  | confirm (frame : ConfirmFrame)
  | latencies
  | clear
  | release
  | shutdown
  | recoveryStarted
  | reconnect
  | handleRecovery
  | recover
  | releaseUsedPermits
  | recoveryDone
  deriving DecidableEq, Repr

namespace ProducerState

def initial (maxOutstandingConfirms : ℕ) : ProducerState where
  maxOutstandingConfirms := maxOutstandingConfirms
  confirmPool := ⟨maxOutstandingConfirms⟩
  unconfirmed := SortedMap.empty
  publishStage := .idle
  callbackStage := .idle
  metrics := []
  recoveryInProgress := false
  handlerStage := .idle
  recoveriesDue := 0
  era := 0
  channelOpen := true
  nextPublishSeqNo := 1
  unresolved := ∅
  processed := ∅

/-- While a recovery is in progress the thread sleeps and leaves `handlePublish`. -/
def handlePublish (state : ProducerState) : Option ProducerState :=
  match state.publishStage with
  | .idle => if state.recoveryInProgress then some state else some { state with publishStage := .entered }
  | _ => none

def maybeWaitIfTooManyOutstandingPublishConfirms (state : ProducerState) : Option ProducerState :=
  match state.publishStage with
  | .entered => state.confirmPool.tryAcquire.map fun pool =>
      { state with confirmPool := pool, publishStage := .acquired state.era }
  | _ => none

/-- "Waiting for publisher confirms for too long" stops the thread. -/
def acquireTimeout (state : ProducerState) : Option ProducerState :=
  match state.publishStage with
  | .entered => some { state with publishStage := .stopped }
  | _ => none

/-- The message source throws a write error that `dealWithWriteOperation` swallows. -/
def createFails (state : ProducerState) : Option ProducerState :=
  match state.publishStage with
  | .acquired _ => some { state with publishStage := .idle }
  | _ => none

def getNextPublishSeqNo (state : ProducerState) : Option ProducerState :=
  match state.publishStage with
  | .acquired era => some { state with publishStage := .numbered era state.nextPublishSeqNo }
  | _ => none

def putUnconfirmed (state : ProducerState) (timestamp : ℤ) : Option ProducerState :=
  match state.publishStage with
  | .numbered era publishindId => some { state with
      unconfirmed := state.unconfirmed.put publishindId timestamp
      publishStage := .recorded era publishindId }
  | _ => none

/-- The channel numbers what it publishes by itself: a number read before a reconnection is not
    the one the new channel uses. A recoverable failure is swallowed. -/
def basicPublish (state : ProducerState) (outcome : PublishOutcome) : Option ProducerState :=
  match state.publishStage, outcome with
  | .recorded _ _, .accepted =>
    if state.channelOpen then
      some { state with
        unresolved := insert state.nextPublishSeqNo state.unresolved
        nextPublishSeqNo := state.nextPublishSeqNo + 1
        publishStage := .idle }
    else none
  | .recorded _ _, .failed numberTaken => some { state with
      nextPublishSeqNo := state.nextPublishSeqNo + (if numberTaken then 1 else 0)
      publishStage := .idle }
  | _, _ => none

def coveredBy (state : ProducerState) (frame : ConfirmFrame) : Finset ℕ :=
  if frame.multiple then state.unresolved.filter (· ≤ frame.seqNo) else {frame.seqNo}

def conforming (state : ProducerState) (frame : ConfirmFrame) : Bool :=
  if frame.multiple then frame.seqNo < state.nextPublishSeqNo else frame.seqNo ∈ state.unresolved

def latenciesOf (frame : ConfirmFrame) (timestamps : List ℤ) : List ℤ :=
  timestamps.map (TimestampProvider.getDifference frame.currentTime)

def metricsCall (frame : ConfirmFrame) (numConfirms : ℕ) (latencies : List ℤ) : MetricsCall :=
  if frame.nack then .nacked numConfirms else .confirmed numConfirms latencies

/-- The first access of `processAck` and `processNack` to the map: the size of the head map when
    `multiple` is set, the removal of the entry otherwise. -/
def handleAckNack (state : ProducerState) (frame : ConfirmFrame) : Option ProducerState :=
  match state.callbackStage with
  | .idle =>
    if state.channelOpen ∧ state.conforming frame then
      if frame.multiple then
        some { state with
          unresolved := state.unresolved \ state.coveredBy frame
          callbackStage := .counted frame (state.coveredBy frame)
            (state.unconfirmed.headMap frame.seqNo).size }
      else match frame.nack, state.unconfirmed.get? frame.seqNo with
        -- `publishConfirmed` takes a long: unboxing null is a NullPointerException, which ends the
        -- callback before `nacked` and the release. The client may close the channel: then later writes fail.
        | true, none => some { state with unresolved := state.unresolved \ state.coveredBy frame }
        | _, messageTimestamp => some { state with
            unresolved := state.unresolved \ state.coveredBy frame
            processed := state.processed ∪ state.coveredBy frame
            unconfirmed := state.unconfirmed.remove frame.seqNo
            metrics := state.metrics ++ [metricsCall frame 1 (latenciesOf frame messageTimestamp.toList)]
            callbackStage := .processed 1 }
    else none
  | _ => none

/-- The latencies go to an array with one cell for each counted entry: an entry that joined the head
    map since then is an ArrayIndexOutOfBoundsException, which ends the callback. -/
def processLatencies (state : ProducerState) : Option ProducerState :=
  match state.callbackStage with
  | .counted frame covered numConfirms =>
    let timestamps := (state.unconfirmed.headMap frame.seqNo).values
    if frame.nack then
      some { state with callbackStage := .clearing frame covered numConfirms [] 0 }
    else if timestamps.length ≤ numConfirms then
      some { state with
        callbackStage := .clearing frame covered numConfirms (latenciesOf frame timestamps) 0 }
    else some { state with callbackStage := .idle }
  | _ => none

def clearConfirmed (state : ProducerState) : Option ProducerState :=
  match state.callbackStage with
  | .clearing frame covered numConfirms latencies removed =>
    match (state.unconfirmed.headMap frame.seqNo).firstKey? with
    | some key => some { state with
        unconfirmed := state.unconfirmed.remove key
        callbackStage := .clearing frame covered numConfirms latencies (removed + 1) }
    | none => some { state with
        processed := state.processed ∪ covered
        metrics := state.metrics ++ [metricsCall frame numConfirms latencies]
        callbackStage := .processed numConfirms }
  | _ => none

def releaseConfirms (state : ProducerState) : Option ProducerState :=
  match state.callbackStage with
  | .processed numConfirms => (state.confirmPool.release numConfirms).map fun pool =>
      { state with confirmPool := pool, callbackStage := .idle }
  | _ => none

/-- The shutdown listener sees a loss of connection that triggers a recovery. -/
def shutdown (state : ProducerState) : Option ProducerState :=
  if state.channelOpen then some { state with channelOpen := false, recoveryInProgress := true }
  else none

/-- The client opens a new channel, whose sequence numbers start at 1. The thread that runs the
    confirm callbacks of a connection is the one that recovers it, so no callback is running. -/
def reconnect (state : ProducerState) : Option ProducerState :=
  if ¬ state.channelOpen ∧ state.callbackStage = .idle then
    some { state with
      channelOpen := true
      nextPublishSeqNo := 1
      unresolved := ∅
      processed := ∅
      recoveriesDue := state.recoveriesDue + 1 }
  else none

def handleRecovery (state : ProducerState) : Option ProducerState :=
  if state.handlerStage = .idle ∧ 0 < state.recoveriesDue then
    some { state with recoveriesDue := state.recoveriesDue - 1, handlerStage := .started }
  else none

/-- The first half of `maybeResetConfirmPool`, called by `recover`: the used permits are counted. -/
def recover (state : ProducerState) : Option ProducerState :=
  match state.handlerStage with
  | .started => some { state with
      era := state.era + 1
      handlerStage := .resetting (state.maxOutstandingConfirms - state.confirmPool.availablePermits) }
  | _ => none

/-- The second half of `maybeResetConfirmPool`. The IllegalArgumentException of a negative count ends
    the handler, which then leaves the recovery in progress. -/
def releaseUsedPermits (state : ProducerState) : Option ProducerState :=
  match state.handlerStage with
  | .resetting usedPermits =>
    match state.confirmPool.release usedPermits with
    | some pool => some { state with confirmPool := pool, handlerStage := .reset }
    | none => some { state with handlerStage := .idle }
  | _ => none

def recoveryDone (state : ProducerState) : Option ProducerState :=
  match state.handlerStage with
  | .reset => some { state with handlerStage := .idle, recoveryInProgress := false }
  | _ => none

def step (state : ProducerState) : ProducerEvent → Option ProducerState
  | .handlePublish => state.handlePublish
  | .acquire => state.maybeWaitIfTooManyOutstandingPublishConfirms
  | .acquireTimeout => state.acquireTimeout
  | .createFails => state.createFails
  | .getNextPublishSeqNo => state.getNextPublishSeqNo
  | .put timestamp => state.putUnconfirmed timestamp
  | .basicPublish outcome => state.basicPublish outcome
  | .confirm frame => state.handleAckNack frame
  | .latencies => state.processLatencies
  | .clear => state.clearConfirmed
  | .release => state.releaseConfirms
  | .shutdown => state.shutdown
  | .recoveryStarted => some { state with recoveryInProgress := true }
  | .reconnect => state.reconnect
  | .handleRecovery => state.handleRecovery
  | .recover => state.recover
  | .releaseUsedPermits => state.releaseUsedPermits
  | .recoveryDone => state.recoveryDone

end ProducerState

end PerfTestModel
