import PerfTest.Producer.MessageLimit
import PerfTest.Systems.Programs

namespace PerfTestModel

open Systems

/-- What stops a producer. The exceptions that `handlePublish` wraps are given by their description. -/
inductive ProducerException where
  | perfTestException (message : String)
  | shutdownSignal (triggersRecovery : Bool) (message : String)
  | socketException (description : String)
  | ioException (description : String)
  | interruptedException (description : String)
  | runtimeException (message : String) (causedByInterruption : Bool)
  deriving DecidableEq, Repr

/-- What becomes of the write of a message. It may fail after `basicPublish` has returned. -/
inductive PublishAttempt where
  | published
  | failed (sent : Bool) (exception : ProducerException)
  deriving DecidableEq, Repr

inductive PermitOutcome where
  | acquired
  | notAcquired
  | interrupted (description : String)
  deriving DecidableEq, Repr

structure PublishCall where
  recovering : Bool
  sleepInterrupted : Bool
  permit : PermitOutcome
  attempt : PublishAttempt
  commit : Option ProducerException
  deriving DecidableEq, Repr

structure ProducerSettings extends ProducerLimits where
  txSize : ℤ
  recoveryEnabled : Bool
  randomStartDelay : ℤ
  deriving DecidableEq, Repr

/-- The thread of a producer and what it did: the calls of `countDown` of the completion handler, the
    calls of `basicPublish` that returned, how many of these messages no commit has followed, and the
    calls of `performanceMetrics.published`. -/
structure ProducerThread where
  msgCount : ℤ
  lastStatsTime : ℤ
  interrupted : Bool
  completed : Bool
  countDowns : List String
  sent : ℕ
  uncommitted : ℕ
  published : ℕ
  deriving DecidableEq, Repr

abbrev ProducerCall := Program ProducerThread ProducerException

namespace ProducerThread

def initial : ProducerThread := ⟨0, 0, false, false, [], 0, 0, 0⟩

def flagged (thread : ProducerThread) (interrupted : Bool) : ProducerThread := { thread with interrupted }

def interrupt : ProducerCall Unit := modify fun thread => thread.flagged true

def testInterrupted : ProducerCall Bool := do
  let thread ← get
  set (thread.flagged false)
  return thread.interrupted

def countDown (reason : String) : ProducerCall Unit := modify fun thread =>
  if thread.completed then thread
  else { thread with completed := true, countDowns := thread.countDowns ++ [reason] }

def maybeWaitIfTooManyOutstandingPublishConfirms (settings : ProducerSettings) (permit : PermitOutcome) :
    ProducerCall Unit :=
  match settings.confirmTimeout, permit with
  | none, _ => pure ()
  | some _, .acquired => pure ()
  | some _, .interrupted description => throw (.interruptedException description)
  | some confirmTimeout, .notAcquired =>
    -- without a timeout, `acquire` waits
    if confirmTimeout < 0 then pure ()
    else throw (.perfTestException "Waiting for publisher confirms for too long")

def shouldStop (recoveryEnabled triggersRecovery : Bool) : Bool :=
  if recoveryEnabled then !triggersRecovery else true

def handleShutdownSignalExceptionOnWrite (recoveryEnabled triggersRecovery : Bool) (message : String) :
    ProducerCall Unit :=
  if shouldStop recoveryEnabled triggersRecovery then throw (.shutdownSignal triggersRecovery message)
  else pure ()

def handleExceptionOnWrite (recoveryEnabled : Bool) : ProducerException → ProducerCall Unit
  | .shutdownSignal triggersRecovery message =>
    handleShutdownSignalExceptionOnWrite recoveryEnabled triggersRecovery message
  | .socketException description =>
    if recoveryEnabled then pure () else throw (.socketException description)
  | exception => throw exception

def dealWithWriteOperation (recoveryEnabled : Bool) (writeOperation : ProducerCall Unit) : ProducerCall Unit :=
  tryCatch writeOperation (handleExceptionOnWrite recoveryEnabled)

def basicPublish : ProducerCall Unit := modify fun thread =>
  { thread with sent := thread.sent + 1, uncommitted := thread.uncommitted + 1 }

def publish : PublishAttempt → ProducerCall Unit
  | .published => basicPublish
  | .failed sent exception => do
    if sent then basicPublish
    throw exception

def incrementMessageCount : ProducerCall ℤ := do
  modify fun thread => { thread with msgCount := Java.int (thread.msgCount + 1) }
  return (← get).msgCount

def txCommit : Option ProducerException → ProducerCall Unit
  | none => modify fun thread => { thread with uncommitted := 0 }
  | some exception => throw exception

def commitTransactionIfNecessary (settings : ProducerSettings) (commit : Option ProducerException)
    (messageCount : ℤ) : ProducerCall Unit := do
  if settings.txSize ≠ 0 ∧ messageCount.tmod settings.txSize = 0 then
    dealWithWriteOperation settings.recoveryEnabled (txCommit commit)

def publishAndCount (settings : ProducerSettings) (call : PublishCall) : ProducerCall Unit := do
  maybeWaitIfTooManyOutstandingPublishConfirms settings call.permit
  dealWithWriteOperation settings.recoveryEnabled (publish call.attempt)
  let messageCount ← incrementMessageCount
  commitTransactionIfNecessary settings call.commit messageCount
  modify fun thread => { thread with published := thread.published + 1 }

def wrapException : ProducerException → ProducerCall Unit
  | .socketException description => throw (.runtimeException description false)
  | .ioException description => throw (.runtimeException description false)
  | .interruptedException description => do
    interrupt
    throw (.runtimeException description true)
  | exception => throw exception

def handlePublish (settings : ProducerSettings) (call : PublishCall) : ProducerCall Unit :=
  if call.recovering then
    if call.sleepInterrupted then interrupt else pure ()
  else tryCatch (publishAndCount settings call) wrapException

def keepGoing (settings : ProducerSettings) : ProducerCall Bool := do
  let thread ← get
  if settings.msgLimit = 0 ∨ thread.msgCount < settings.msgLimit then
    let interrupted ← testInterrupted
    return !interrupted
  else return false

def confirmWaits (settings : ProducerSettings) (found : ℕ → WaitPass) : ℕ :=
  match settings.confirmTimeout with
  | some confirmTimeout => PerfTestModel.maybeWaitForPublishConfirms confirmTimeout found
  | none => 0

/-- A wait that is interrupted is the last one, and leaves the flag set. -/
def maybeWaitForPublishConfirms (settings : ProducerSettings) (found : ℕ → WaitPass) : ProducerCall Unit :=
  modify fun thread => thread.flagged
    (thread.interrupted || (List.range (confirmWaits settings found)).any fun pass => (found pass).interrupted)

def sleepOrThrow : Option String → ProducerCall Unit
  | none => pure ()
  | some description => do
    interrupt
    throw (.runtimeException description true)

def waitForOneSecond (interrupted : Option String) : ProducerCall Unit := sleepOrThrow interrupted

end ProducerThread

structure ProducerPass extends LoopPass where
  rateLimiter : Option ProducerException
  waitInterrupted : Option String
  call : PublishCall
  rateIsZeroOnFailure : Bool

structure ScheduledInvocation extends Invocation where
  call : PublishCall

structure Startup where
  delayInterrupted : Option String
  startTime : ℤ
  listener : Option ProducerException
  deriving DecidableEq, Repr

namespace ProducerThread

def orThrow : Option ProducerException → ProducerCall Unit
  | none => pure ()
  | some exception => throw exception

def resetStatsIfDue (settings : ProducerSettings) (now : ℤ) : ProducerCall Unit := modify fun thread =>
  if settings.variableRate && 1000 < Java.long (now - thread.lastStatsTime) then
    { thread with lastStatsTime := now, msgCount := 0 }
  else thread

def failureReason (rateIsZero : Bool) : ProducerException → String
  | .perfTestException message => message
  | .runtimeException message causedByInterruption =>
    if causedByInterruption && !rateIsZero then "Producer thread interrupted"
    else "Error in producer (" ++ message ++ ")"
  | .shutdownSignal _ message => "Error in producer (" ++ message ++ ")"
  | .socketException description | .ioException description | .interruptedException description =>
    "Error in producer (" ++ description ++ ")"

def finish (settings : ProducerSettings) (found : ℕ → WaitPass) : ProducerCall Unit := do
  if settings.msgLimit ≤ (← get).msgCount then
    if settings.msgLimit = 0 then countDown "Producer thread interrupted"
    else
      maybeWaitForPublishConfirms settings found
      countDown "Producer reached message limit"

def atStart (thread : ProducerThread) (startup : Startup) : ProducerThread :=
  { thread with lastStatsTime := startup.startTime, msgCount := 0 }

def announceStart (startup : Startup) : ProducerCall Unit := do
  modify fun thread => thread.atStart startup
  orThrow startup.listener

/-- The bound of `nextInt` is a product of ints, which may wrap: an IllegalArgumentException unless it is
    positive. -/
def delayStart (settings : ProducerSettings) (startup : Startup) : ProducerCall Unit :=
  if 0 < settings.randomStartDelay then
    if Java.int (settings.randomStartDelay * 1000) ≤ 0 then throw (.runtimeException "bound must be positive" false)
    else sleepOrThrow startup.delayInterrupted
  else pure ()

def start (settings : ProducerSettings) (startup : Startup) : ProducerCall Bool := do
  delayStart settings startup
  announceStart startup
  return true

def waitOrPublish (settings : ProducerSettings) (pass : ProducerPass) : ProducerCall Unit :=
  if settings.variableRate && pass.rateIsZero then waitForOneSecond pass.waitInterrupted
  else handlePublish settings pass.call

def loopBody (settings : ProducerSettings) (pass : ProducerPass) : ProducerCall Unit := do
  orThrow pass.rateLimiter
  waitOrPublish settings pass
  resetStatsIfDue settings pass.now

def loopPass (settings : ProducerSettings) (pass : ProducerPass) : ProducerCall Bool := do
  modify fun thread => thread.flagged (thread.interrupted || pass.interrupted)
  let going ← keepGoing settings
  if going then
    tryCatch (loopBody settings pass) fun exception => do
      countDown (failureReason pass.rateIsZeroOnFailure exception)
      throw exception
    return true
  else
    finish settings pass.found
    return false

def messageLimitReached (settings : ProducerSettings) (thread : ProducerThread) : Bool :=
  if settings.msgLimit = 0 then false else settings.msgLimit ≤ thread.msgCount

def maybeHandlePublish (settings : ProducerSettings) (invocation : ScheduledInvocation) : ProducerCall Unit := do
  let going ← keepGoing settings
  if going then handlePublish settings invocation.call
  else
    if messageLimitReached settings (← get) then
      maybeWaitForPublishConfirms settings invocation.found
      countDown "Producer reached message limit"
    else countDown "Producer thread interrupted"

def scheduledFailureReason : ProducerException → String
  | .perfTestException message => message
  | .runtimeException message _ | .shutdownSignal _ message => "Error in scheduled producer (" ++ message ++ ")"
  | .socketException description | .ioException description | .interruptedException description =>
    "Error in scheduled producer (" ++ description ++ ")"

def announceFirst (startup : Startup) (initialized : Bool) : ProducerCall Unit :=
  if initialized then pure () else announceStart startup

/-- What `createRunnableForScheduling` returns. The executor has a thread that is only interrupted when
    the executor shuts down. -/
def runnable (settings : ProducerSettings) (startup : Startup) (initialized : Bool)
    (invocation : ScheduledInvocation) : ProducerCall Bool := do
  modify fun thread => thread.flagged invocation.interrupted
  announceFirst startup initialized
  tryCatch (maybeHandlePublish settings invocation) fun exception => do
    countDown (scheduledFailureReason exception)
    throw exception
  return true

end ProducerThread

inductive ProducerStatus where
  | running
  | returned
  | threw (exception : ProducerException)
  deriving DecidableEq, Repr

structure ProducerRun where
  status : ProducerStatus
  thread : ProducerThread
  deriving DecidableEq, Repr

namespace ProducerRun

/-- A call that returns says whether there is more to do. -/
def execute (call : ProducerCall Bool) (run : ProducerRun) : ProducerRun :=
  if run.status = .running then
    match call run.thread with
    | (.ok true, after) => ⟨.running, after⟩
    | (.ok false, after) => ⟨.returned, after⟩
    | (.error exception, after) => ⟨.threw exception, after⟩
  else run

def fresh : ProducerRun := ⟨.running, .initial⟩

def looped (settings : ProducerSettings) (startup : Startup) (passes : ℕ → ProducerPass) : ℕ → ProducerRun
  | 0 => fresh.execute (ProducerThread.start settings startup)
  | count + 1 => (looped settings startup passes count).execute (ProducerThread.loopPass settings (passes count))

/-- The runnable after some invocations. An executor does not call it again after an exception. -/
def invoked (settings : ProducerSettings) (startup : Startup) (invocations : ℕ → ScheduledInvocation) :
    ℕ → ProducerRun
  | 0 => fresh
  | count + 1 => (invoked settings startup invocations count).execute
      (ProducerThread.runnable settings startup (count != 0) (invocations count))

end ProducerRun

end PerfTestModel
