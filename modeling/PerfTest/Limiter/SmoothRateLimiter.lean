import Mathlib.Data.Int.Bitwise
import PerfTest.Java.Doubles

open Java (RuntimeException)
open Systems (Rounding)

namespace PerfTestModel

def microsInSecond : ℚ := 1000000

structure SmoothBursty where
  maxBurstSeconds : ℚ
  deriving Repr

structure SmoothWarmingUp where
  warmupPeriodMicros : ℤ
  slope : ℚ
  thresholdPermits : ℚ
  coldFactor : ℚ
  deriving Repr

inductive SmoothSubclass
  | bursty (own : SmoothBursty)
  | warmingUp (own : SmoothWarmingUp)
  deriving Repr

structure SmoothRateLimiter where
  subclass : SmoothSubclass
  storedPermits : ℚ
  maxPermits : ℚ
  stableIntervalMicros : ℚ
  nextFreeTicketMicros : ℤ
  deriving Repr

namespace SmoothWarmingUp

def permitsToTime (double : Rounding) (own : SmoothWarmingUp) (stableIntervalMicros permits : ℚ) : ℚ :=
  double (stableIntervalMicros + double (permits * own.slope))

def storedPermitsToWaitTime (double : Rounding) (own : SmoothWarmingUp)
    (stableIntervalMicros storedPermits permitsToTake : ℚ) : ℤ :=
  let availablePermitsAboveThreshold := double (storedPermits - own.thresholdPermits)
  if 0 < availablePermitsAboveThreshold then
    let permitsAboveThresholdToTake := min availablePermitsAboveThreshold permitsToTake
    let length := double (own.permitsToTime double stableIntervalMicros availablePermitsAboveThreshold +
      own.permitsToTime double stableIntervalMicros
        (double (availablePermitsAboveThreshold - permitsAboveThresholdToTake)))
    let micros := Java.longOfDouble (double (double (permitsAboveThresholdToTake * length) / 2))
    let permitsToTake := double (permitsToTake - permitsAboveThresholdToTake)
    Java.long (micros + Java.longOfDouble (double (stableIntervalMicros * permitsToTake)))
  else Java.long (0 + Java.longOfDouble (double (stableIntervalMicros * permitsToTake)))

end SmoothWarmingUp

namespace SmoothRateLimiter

def storedPermitsToWaitTime (double : Rounding) (limiter : SmoothRateLimiter) (storedPermits permitsToTake : ℚ) : ℤ :=
  match limiter.subclass with
  | .bursty _ => 0
  | .warmingUp own => own.storedPermitsToWaitTime double limiter.stableIntervalMicros storedPermits permitsToTake

def coolDownIntervalMicros (double : Rounding) (limiter : SmoothRateLimiter) : ℚ :=
  match limiter.subclass with
  | .bursty _ => limiter.stableIntervalMicros
  | .warmingUp own => double (double own.warmupPeriodMicros / limiter.maxPermits)

/-- Before the first `setRate` the quotient is infinite or 0, and stored is 0 permits either way. -/
def resync (double : Rounding) (limiter : SmoothRateLimiter) (nowMicros : ℤ) : SmoothRateLimiter :=
  if limiter.nextFreeTicketMicros < nowMicros then
    let newPermits :=
      double (double (Java.long (nowMicros - limiter.nextFreeTicketMicros)) / limiter.coolDownIntervalMicros double)
    { limiter with
      storedPermits := min limiter.maxPermits (double (limiter.storedPermits + newPermits))
      nextFreeTicketMicros := nowMicros }
  else limiter

def saturatedAdd (a b : ℤ) : ℤ :=
  let naiveSum := Java.long (a + b)
  if Int.xor a b < 0 ∨ 0 ≤ Int.xor a naiveSum then naiveSum
  else
    -- `naiveSum >>> (Long.SIZE - 1)` is the sign bit
    let sign : ℤ := if naiveSum < 0 then 1 else 0
    Java.long (Java.longMaxValue + Int.xor sign 1)

def reserveEarliestAvailable (double : Rounding) (limiter : SmoothRateLimiter) (requiredPermits nowMicros : ℤ) :
    ℤ × SmoothRateLimiter :=
  let limiter := limiter.resync double nowMicros
  let storedPermitsToSpend := min (requiredPermits : ℚ) limiter.storedPermits
  let freshPermits := double (requiredPermits - storedPermitsToSpend)
  let waitMicros := Java.long (limiter.storedPermitsToWaitTime double limiter.storedPermits storedPermitsToSpend +
    Java.longOfDouble (double (freshPermits * limiter.stableIntervalMicros)))
  (limiter.nextFreeTicketMicros,
    { limiter with
      nextFreeTicketMicros := saturatedAdd limiter.nextFreeTicketMicros waitMicros
      storedPermits := double (limiter.storedPermits - storedPermitsToSpend) })

/-- The subclass's `doSetRate`. A `maxPermits` that is infinite is left out. -/
def doSetRateOfSubclass (double : Rounding) (limiter : SmoothRateLimiter) (permitsPerSecond : ℚ) : SmoothRateLimiter :=
  match limiter.subclass with
  | .bursty own =>
    let maxPermits := double (own.maxBurstSeconds * permitsPerSecond)
    { limiter with
      maxPermits
      storedPermits :=
        if limiter.maxPermits = 0 then 0
        else double (double (limiter.storedPermits * maxPermits) / limiter.maxPermits) }
  | .warmingUp own =>
    let coldIntervalMicros := double (limiter.stableIntervalMicros * own.coldFactor)
    let thresholdPermits := double (double (1 / 2 * double own.warmupPeriodMicros) / limiter.stableIntervalMicros)
    let maxPermits := double (thresholdPermits +
      double (double (2 * double own.warmupPeriodMicros) / double (limiter.stableIntervalMicros + coldIntervalMicros)))
    let slope := double (double (coldIntervalMicros - limiter.stableIntervalMicros) /
      double (maxPermits - thresholdPermits))
    { limiter with
      subclass := .warmingUp { own with thresholdPermits, slope }
      maxPermits
      storedPermits :=
        if limiter.maxPermits = 0 then maxPermits
        else double (double (limiter.storedPermits * maxPermits) / limiter.maxPermits) }

def doSetRate (double : Rounding) (limiter : SmoothRateLimiter) (permitsPerSecond : ℚ) (nowMicros : ℤ) :
    SmoothRateLimiter :=
  let limiter := limiter.resync double nowMicros
  { limiter with stableIntervalMicros := double (microsInSecond / permitsPerSecond) }.doSetRateOfSubclass double
    permitsPerSecond

def setRate (double : Rounding) (limiter : SmoothRateLimiter) (permitsPerSecond : ℚ) (nowMicros : ℤ) :
    Except RuntimeException SmoothRateLimiter :=
  if 0 < permitsPerSecond then .ok (limiter.doSetRate double permitsPerSecond nowMicros)
  else .error (.illegalArgument "rate must be positive")

def fresh (subclass : SmoothSubclass) : SmoothRateLimiter :=
  ⟨subclass, 0, 0, 0, 0⟩

/-- `create(permitsPerSecond)`, with the reading of the new stopwatch in `setRate`. -/
def create (double : Rounding) (permitsPerSecond : ℚ) (nowMicros : ℤ) : Except RuntimeException SmoothRateLimiter :=
  (fresh (.bursty ⟨1⟩)).setRate double permitsPerSecond nowMicros

def checkPermits (permits : ℤ) : Except RuntimeException Unit :=
  if 0 < permits then .ok () else .error (.illegalArgument s!"Requested permits ({permits}) must be positive")

def reserveAndGetWaitLength (double : Rounding) (limiter : SmoothRateLimiter) (permits nowMicros : ℤ) :
    ℤ × SmoothRateLimiter :=
  let (momentAvailable, next) := limiter.reserveEarliestAvailable double permits nowMicros
  (max (Java.long (momentAvailable - nowMicros)) 0, next)

def reserve (double : Rounding) (limiter : SmoothRateLimiter) (permits nowMicros : ℤ) :
    Except RuntimeException (ℤ × SmoothRateLimiter) := do
  checkPermits permits
  return limiter.reserveAndGetWaitLength double permits nowMicros

def queryEarliestAvailable (limiter : SmoothRateLimiter) : ℤ := limiter.nextFreeTicketMicros

def canAcquire (limiter : SmoothRateLimiter) (nowMicros timeoutMicros : ℤ) : Bool :=
  Java.long (limiter.queryEarliestAvailable - timeoutMicros) ≤ nowMicros

/-- The timeout is in microseconds. What it sleeps for, or `none` for `false`. -/
def tryAcquire (double : Rounding) (limiter : SmoothRateLimiter) (permits timeout nowMicros : ℤ) :
    Except RuntimeException (Option ℤ × SmoothRateLimiter) := do
  let timeoutMicros := max timeout 0
  checkPermits permits
  if limiter.canAcquire nowMicros timeoutMicros = false then return (none, limiter)
  else
    let (microsToWait, next) := limiter.reserveAndGetWaitLength double permits nowMicros
    return (some microsToWait, next)

end SmoothRateLimiter

/-- In the order in which the calls get the mutex, and with what they read from the stopwatch in it. -/
inductive RateLimiterCall
  | acquire (permits nowMicros : ℤ)
  | tryAcquire (permits timeout nowMicros : ℤ)
  deriving Repr

namespace RateLimiterCall

def permits : RateLimiterCall → ℤ
  | acquire permits _ => permits
  | tryAcquire permits _ _ => permits

def nowMicros : RateLimiterCall → ℤ
  | acquire _ nowMicros => nowMicros
  | tryAcquire _ _ nowMicros => nowMicros

end RateLimiterCall

structure Ticket where
  permits : ℤ
  nowMicros : ℤ
  momentAvailable : ℤ
  storedPermits : ℚ
  deriving DecidableEq, Repr

namespace SmoothRateLimiter

def ticket (double : Rounding) (limiter : SmoothRateLimiter) (permits nowMicros : ℤ) : Ticket :=
  let limiter := limiter.resync double nowMicros
  ⟨permits, nowMicros, limiter.nextFreeTicketMicros, limiter.storedPermits⟩

def reserved (double : Rounding) (limiter : SmoothRateLimiter) (permits nowMicros : ℤ) : SmoothRateLimiter :=
  (limiter.reserveEarliestAvailable double permits nowMicros).2

def handle (double : Rounding) (limiter : SmoothRateLimiter) (call : RateLimiterCall) : Option ℤ × SmoothRateLimiter :=
  let outcome := match call with
    | .acquire permits nowMicros => (limiter.reserve double permits nowMicros).map (Prod.map some id)
    | .tryAcquire permits timeout nowMicros => limiter.tryAcquire double permits timeout nowMicros
  match outcome with
  | .ok result => result
  | .error _ => (none, limiter)

def serve (double : Rounding) : SmoothRateLimiter → List RateLimiterCall → List Ticket
  | _, [] => []
  | limiter, call :: calls =>
    match limiter.handle double call with
    | (none, next) => next.serve double calls
    | (some _, next) => limiter.ticket double call.permits call.nowMicros :: next.serve double calls

end SmoothRateLimiter

end PerfTestModel
