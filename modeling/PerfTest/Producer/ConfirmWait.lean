import Mathlib.Data.List.Count
import PerfTest.Producer.Waiting

namespace PerfTestModel

def WaitPass.endsWait (found : WaitPass) : Bool := found.unconfirmedIsEmpty || found.interrupted

def sleptMillis (confirmTimeout : ℤ) (found : ℕ → WaitPass) : ℤ :=
  waitTime * (List.range (maybeWaitForPublishConfirms confirmTimeout found)).countP fun pass =>
    !(found pass).interrupted

end PerfTestModel

namespace PerfTestProof

open PerfTestModel

def WaitEnded (confirmTimeout : ℤ) (found : ℕ → WaitPass) : Prop :=
  ∃ pass < maybeWaitForPublishConfirms confirmTimeout found, (found pass).endsWait = true

structure WaitsForConfirms (confirmTimeout : ℤ) (found : ℕ → WaitPass) : Prop where
  terminates : 0 ≤ confirmTimeout →
    waitTime * maybeWaitForPublishConfirms confirmTimeout found ≤ confirmTimeout * 1000 + waitTime
  timeout : 0 ≤ confirmTimeout → sleptMillis confirmTimeout found < confirmTimeout * 1000 →
    WaitEnded confirmTimeout found
  unlimited : confirmTimeout < 0 → WaitEnded confirmTimeout found

def EndsInTime (confirmTimeout : ℤ) (found : ℕ → WaitPass) : Prop :=
  ∃ pass : ℕ, waitTime * pass ≤ confirmTimeoutMillis confirmTimeout ∧ (found pass).endsWait = true

section

variable {confirmTimeout : ℤ} {found : ℕ → WaitPass}

theorem le_waitLoop (timeout : ℤ) (found : ℕ → WaitPass) (pass : ℕ) (waited : ℤ) :
    pass ≤ waitLoop timeout found pass waited := by
  induction pass, waited using waitLoop.induct timeout found with
  | case1 pass waited waits ih =>
    rw [waitLoop, if_pos waits]
    exact Nat.le_of_succ_le ih
  | case2 pass waited expired => rw [waitLoop, if_neg expired]

theorem waitLoop_in_time (timeout : ℤ) (found : ℕ → WaitPass) (pass : ℕ) (waited : ℤ) :
    waitLoop timeout found pass waited = pass ∨
      waited + waitTime * (waitLoop timeout found pass waited - pass - 1 : ℤ) ≤ timeout := by
  induction pass, waited using waitLoop.induct timeout found with
  | case1 pass waited waits ih =>
    have grows := waitedAfter_grows (found pass) waits
    rw [waitLoop, if_pos waits]
    right
    simp only [waitTime] at ih grows ⊢
    push_cast at ih
    rcases ih with last | before
    · rw [last]
      push_cast
      omega
    · omega
  | case2 pass waited expired =>
    left
    rw [waitLoop, if_neg expired]

theorem waitLoop_outlasts {timeout waited : ℤ} {pass : ℕ}
    (nothing : ∀ later, pass ≤ later → later < waitLoop timeout found pass waited → (found later).endsWait = false) :
    timeout < waited + waitTime * (waitLoop timeout found pass waited - pass : ℤ) := by
  induction pass, waited using waitLoop.induct timeout found with
  | case1 pass waited waits ih =>
    rw [waitLoop, if_pos waits] at nothing ⊢
    have after := le_waitLoop timeout found (pass + 1) (waitedAfter timeout waited (found pass))
    have own : waitedAfter timeout waited (found pass) = waited + waitTime := by
      unfold waitedAfter
      rw [show ((found pass).unconfirmedIsEmpty || (found pass).interrupted) = false from
        nothing pass le_rfl after]
      rfl
    have later := ih fun later from_ => nothing later (Nat.le_of_succ_le from_)
    rw [own] at later ⊢
    simp only [waitTime] at later ⊢
    push_cast at later
    omega
  | case2 pass waited expired =>
    rw [waitLoop, if_neg expired]
    omega

theorem confirmWait_in_time (confirmTimeout : ℤ) (found : ℕ → WaitPass) :
    maybeWaitForPublishConfirms confirmTimeout found = 0 ∨
      waitTime * maybeWaitForPublishConfirms confirmTimeout found ≤ confirmTimeoutMillis confirmTimeout + waitTime := by
  have inTime := waitLoop_in_time (confirmTimeoutMillis confirmTimeout) found 0 0
  unfold maybeWaitForPublishConfirms
  simp only [waitTime] at inTime ⊢
  omega

theorem confirmWait_outlasts (never : ¬ WaitEnded confirmTimeout found) :
    confirmTimeoutMillis confirmTimeout < waitTime * maybeWaitForPublishConfirms confirmTimeout found := by
  have nothing (later : ℕ) (_ : 0 ≤ later) (before : later < maybeWaitForPublishConfirms confirmTimeout found) :
      (found later).endsWait = false := Bool.eq_false_iff.mpr fun ends => never ⟨later, before, ends⟩
  have outlasts := waitLoop_outlasts nothing
  unfold maybeWaitForPublishConfirms
  simp only [waitTime] at outlasts ⊢
  omega

theorem waitEnded_iff : WaitEnded confirmTimeout found ↔ EndsInTime confirmTimeout found := by
  constructor
  · rintro ⟨pass, before, ends⟩
    have inTime := confirmWait_in_time confirmTimeout found
    refine ⟨pass, ?_, ends⟩
    simp only [waitTime] at inTime ⊢
    omega
  · rintro ⟨pass, inTime, ends⟩
    by_contra never
    have outlasts := confirmWait_outlasts never
    refine never ⟨pass, ?_, ends⟩
    simp only [waitTime] at inTime outlasts
    omega

theorem sleptMillis_le : sleptMillis confirmTimeout found ≤
    waitTime * maybeWaitForPublishConfirms confirmTimeout found := by
  have most := List.countP_le_length (p := fun pass => !(found pass).interrupted)
    (l := List.range (maybeWaitForPublishConfirms confirmTimeout found))
  rw [List.length_range] at most
  unfold sleptMillis
  simp only [waitTime]
  omega

theorem sleptMillis_of_not_ended (never : ¬ WaitEnded confirmTimeout found) : sleptMillis confirmTimeout found =
    waitTime * maybeWaitForPublishConfirms confirmTimeout found := by
  have all : (List.range (maybeWaitForPublishConfirms confirmTimeout found)).countP
      (fun pass => !(found pass).interrupted) = maybeWaitForPublishConfirms confirmTimeout found := by
    refine (List.countP_eq_length.mpr ?_).trans List.length_range
    intro pass before
    cases interrupted : (found pass).interrupted with
    | false => rfl
    | true =>
      have ends : (found pass).endsWait = true := by rw [WaitPass.endsWait, interrupted, Bool.or_true]
      exact absurd ⟨pass, List.mem_range.mp before, ends⟩ never
  rw [sleptMillis, all]

theorem confirmTimeoutMillis_exact (lower : 0 ≤ confirmTimeout) (upper : confirmTimeout ≤ 2147483) :
    confirmTimeoutMillis confirmTimeout = confirmTimeout * 1000 :=
  Java.int_eq_self.mpr ⟨by omega, by omega⟩

theorem confirmTimeoutMillis_le (lower : 0 ≤ confirmTimeout) :
    confirmTimeoutMillis confirmTimeout ≤ confirmTimeout * 1000 := by
  by_cases upper : confirmTimeout ≤ 2147483
  · exact Int.le_of_eq (confirmTimeoutMillis_exact lower upper)
  · have most : confirmTimeoutMillis confirmTimeout < 2 ^ 31 := (Java.int_range (confirmTimeout * 1000)).2
    omega

theorem confirmWait_terminates (lower : 0 ≤ confirmTimeout) :
    waitTime * maybeWaitForPublishConfirms confirmTimeout found ≤ confirmTimeout * 1000 + waitTime := by
  have millis := confirmTimeoutMillis_le lower
  rcases confirmWait_in_time confirmTimeout found with none | inTime
  · rw [none]
    simp only [waitTime]
    omega
  · omega

theorem waitsForConfirms_of_exact (lower : 0 ≤ confirmTimeout) (upper : confirmTimeout ≤ 2147483) :
    WaitsForConfirms confirmTimeout found := by
  have unlimited (negative : confirmTimeout < 0) : WaitEnded confirmTimeout found :=
    absurd lower (Int.not_le.mpr negative)
  refine ⟨fun _ => confirmWait_terminates lower, fun _ early => ?_, unlimited⟩
  by_contra never
  have outlasts := confirmWait_outlasts never
  rw [sleptMillis_of_not_ended never] at early
  rw [confirmTimeoutMillis_exact lower upper] at outlasts
  omega

theorem waitEnded_of_waits (waits : WaitsForConfirms confirmTimeout found)
    (wraps : ¬ (0 ≤ confirmTimeout ∧ confirmTimeout ≤ 2147483)) : WaitEnded confirmTimeout found := by
  by_cases negative : confirmTimeout < 0
  · exact waits.unlimited negative
  · refine waits.timeout (Int.not_lt.mp negative) (Int.lt_of_le_of_lt sleptMillis_le ?_)
    have most : confirmTimeoutMillis confirmTimeout < 2 ^ 31 := (Java.int_range (confirmTimeout * 1000)).2
    rcases confirmWait_in_time confirmTimeout found with none | inTime
    · rw [none]
      simp only [waitTime]
      omega
    · simp only [waitTime] at inTime ⊢
      omega

end

theorem waitsForConfirms_iff (confirmTimeout : ℤ) (found : ℕ → WaitPass) : WaitsForConfirms confirmTimeout found ↔
    (0 ≤ confirmTimeout ∧ confirmTimeout ≤ 2147483) ∨ EndsInTime confirmTimeout found := by
  constructor
  · intro waits
    by_cases fits : 0 ≤ confirmTimeout ∧ confirmTimeout ≤ 2147483
    · exact .inl fits
    · exact .inr (waitEnded_iff.mp (waitEnded_of_waits waits fits))
  · rintro (⟨lower, upper⟩ | inTime)
    · exact waitsForConfirms_of_exact lower upper
    · have ended := waitEnded_iff.mpr inTime
      exact ⟨confirmWait_terminates, fun _ _ => ended, fun _ => ended⟩

/-- The product fits an int up to 2147483 seconds. For another timeout, the map or an interruption must end the wait. -/
theorem confirms_waited_for_iff (confirmTimeout : ℤ) :
    (∀ found, WaitsForConfirms confirmTimeout found ↔
      (0 ≤ confirmTimeout ∧ confirmTimeout ≤ 2147483) ∨ EndsInTime confirmTimeout found) ∧
    ((∀ found, WaitsForConfirms confirmTimeout found) ↔ 0 ≤ confirmTimeout ∧ confirmTimeout ≤ 2147483) := by
  refine ⟨waitsForConfirms_iff confirmTimeout, fun always => ?_, fun fits found => ?_⟩
  · rcases (waitsForConfirms_iff confirmTimeout fun _ => ⟨false, false⟩).mp (always _) with fits | ⟨_, _, ends⟩
    · exact fits
    · cases ends
  · exact waitsForConfirms_of_exact fits.1 fits.2

/-- With messages outstanding, it returns at once. The other place waits without limit for a negative timeout. -/
theorem returns_with_messages_outstanding :
    maybeWaitForPublishConfirms (-1) (fun _ => ⟨false, false⟩) = 0 ∧
      maybeWaitForPublishConfirms 2147484 (fun _ => ⟨false, false⟩) = 0 ∧
      ¬ WaitsForConfirms (-1) (fun _ => ⟨false, false⟩) ∧ ¬ WaitsForConfirms 2147484 (fun _ => ⟨false, false⟩) := by
  have never (confirmTimeout : ℤ) : ¬ WaitEnded confirmTimeout fun _ => ⟨false, false⟩ := by
    rintro ⟨_, _, ends⟩
    cases ends
  refine ⟨waitLoop_stop (by decide), waitLoop_stop (by decide), fun waits => ?_, fun waits => ?_⟩
  · exact never (-1) (waitEnded_of_waits waits (by decide))
  · exact never 2147484 (waitEnded_of_waits waits (by decide))

end PerfTestProof
