import PerfTest.Java.Primitives

namespace PerfTestModel

structure WaitPass where
  unconfirmedIsEmpty : Bool
  interrupted : Bool
  deriving DecidableEq, Repr

def waitTime : ℤ := 100

/-- `confirmTimeout * 1000` is an int product. -/
def confirmTimeoutMillis (confirmTimeout : ℤ) : ℤ := Java.int (confirmTimeout * 1000)

def waitedAfter (timeout waited : ℤ) (found : WaitPass) : ℤ :=
  (if found.unconfirmedIsEmpty || found.interrupted then timeout else waited) + waitTime

theorem waitedAfter_grows {timeout waited : ℤ} (found : WaitPass) (waits : waited ≤ timeout) :
    waited + waitTime ≤ waitedAfter timeout waited found := by
  unfold waitedAfter
  split <;> omega

def waitLoop (timeout : ℤ) (found : ℕ → WaitPass) (pass : ℕ) (waited : ℤ) : ℕ :=
  if waited ≤ timeout then
    waitLoop timeout found (pass + 1) (waitedAfter timeout waited (found pass))
  else pass
termination_by (timeout + 1 - waited).toNat
decreasing_by
  rename_i waits
  have := waitedAfter_grows (found pass) waits
  unfold waitTime at this
  omega

def maybeWaitForPublishConfirms (confirmTimeout : ℤ) (found : ℕ → WaitPass) : ℕ :=
  waitLoop (confirmTimeoutMillis confirmTimeout) found 0 0

end PerfTestModel

namespace PerfTestProof

open PerfTestModel

theorem waitLoop_stop {timeout waited : ℤ} {found : ℕ → WaitPass} {pass : ℕ} (expired : timeout < waited) :
    waitLoop timeout found pass waited = pass := by
  rw [waitLoop, if_neg (by omega)]

theorem wait_ends_when_empty (confirmTimeout : ℤ) {found : ℕ → WaitPass}
    (empty : (found 0).unconfirmedIsEmpty = true) :
    maybeWaitForPublishConfirms confirmTimeout found ≤ 1 := by
  unfold maybeWaitForPublishConfirms
  rw [waitLoop]
  split
  · have expired : confirmTimeoutMillis confirmTimeout <
        waitedAfter (confirmTimeoutMillis confirmTimeout) 0 (found 0) := by
      simp only [waitedAfter, empty, Bool.true_or, if_true, waitTime]
      omega
    rw [waitLoop_stop expired]
  · exact Nat.zero_le 1

end PerfTestProof
