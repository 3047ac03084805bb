import Mathlib.Algebra.BigOperators.Ring.List
import Mathlib.Data.List.Find
import PerfTest.Values.Schedule

open Java (RuntimeException)

namespace PerfTestModel

namespace VariableValueIndicator

def gcd (a b : ℤ) : ℤ := if a = 0 then b else gcd (b.tmod a) a
termination_by a.natAbs
decreasing_by
  rw [Int.natAbs_tmod]
  exact Nat.mod_lt _ (Int.natAbs_pos.mpr ‹_›)

def gcdOf : List ℤ → Except RuntimeException ℤ
  | [] => .error (.arrayIndexOutOfBounds 0)
  | first :: others => .ok (others.foldl (fun result element => gcd element result) first)

variable {T : Type}

structure Schedule where
  cycleDuration : ℤ
  gcdSchedulingPeriod : ℤ
  deriving DecidableEq, Repr

def start (definitions : List String) (intervals : List (Interval T)) : Except RuntimeException Schedule := do
  let durations ← durations definitions
  let cycleDuration ← match cycleDuration intervals with
    | some cycleDuration => .ok cycleDuration
    | none => .error (.arrayIndexOutOfBounds (intervals.length - 1))
  let gcdSchedulingPeriod := match gcdOf durations with
    | .ok period => period
    | .error _ => 1
  if gcdSchedulingPeriod ≤ 0 then .error (.illegalArgument "") else .ok ⟨cycleDuration, gcdSchedulingPeriod⟩

end VariableValueIndicator

end PerfTestModel

namespace PerfTestProof

open PerfTestModel PerfTestModel.VariableValueIndicator

section Divisors

variable {a b divisor : ℤ}

theorem dvd_tmod_iff (divides : divisor ∣ a) : divisor ∣ b.tmod a ↔ divisor ∣ b := by
  have whole := Int.mul_tdiv_add_tmod b a
  have multiple : divisor ∣ a * b.tdiv a := divides.mul_right _
  constructor
  · intro rest
    rw [← whole]
    exact Int.dvd_add multiple rest
  · intro dividend
    rw [← whole] at dividend
    exact (Int.dvd_add_right multiple).mp dividend

/-- The divisors of `gcd` are the common divisors; for the recursion, `b.tmod a` and `a` have those of `a` and `b`. -/
theorem dvd_gcd_iff : divisor ∣ VariableValueIndicator.gcd a b ↔ divisor ∣ a ∧ divisor ∣ b := by
  induction a, b using VariableValueIndicator.gcd.induct with
  | case1 b =>
    rw [VariableValueIndicator.gcd, if_pos rfl]
    exact ⟨fun divides => ⟨Int.dvd_zero _, divides⟩, fun both => both.2⟩
  | case2 a b nonzero ih =>
    rw [VariableValueIndicator.gcd, if_neg nonzero, ih]
    constructor
    · rintro ⟨rest, divides⟩
      exact ⟨divides, (dvd_tmod_iff divides).mp rest⟩
    · rintro ⟨divides, dividend⟩
      exact ⟨(dvd_tmod_iff divides).mpr dividend, divides⟩

theorem gcd_nonneg (left : 0 ≤ a) (right : 0 ≤ b) : 0 ≤ VariableValueIndicator.gcd a b := by
  induction a, b using VariableValueIndicator.gcd.induct with
  | case1 b =>
    rw [VariableValueIndicator.gcd, if_pos rfl]
    exact right
  | case2 a b nonzero ih =>
    rw [VariableValueIndicator.gcd, if_neg nonzero]
    exact ih (Int.tmod_nonneg a right) left

theorem foldl_gcd {others : List ℤ} (positive : ∀ duration ∈ others, 0 < duration) (result : ℤ) :
    (0 < result → 0 < others.foldl (fun result element => VariableValueIndicator.gcd element result) result) ∧
      ∀ divisor, divisor ∣ others.foldl (fun result element => VariableValueIndicator.gcd element result) result ↔
        divisor ∣ result ∧ ∀ duration ∈ others, divisor ∣ duration := by
  induction others generalizing result with
  | nil =>
    refine ⟨id, fun divisor => ⟨fun divides => ⟨divides, ?_⟩, And.left⟩⟩
    exact fun duration inside => absurd inside List.not_mem_nil
  | cons element others ih =>
    obtain ⟨own, later⟩ := List.forall_mem_cons.mp positive
    obtain ⟨laterPositive, divisors⟩ := ih later (VariableValueIndicator.gcd element result)
    constructor
    · intro resultPositive
      refine laterPositive (lt_of_le_of_ne (gcd_nonneg own.le resultPositive.le) ?_)
      intro zero
      have divides : (0 : ℤ) ∣ element := (dvd_gcd_iff.mp (dvd_of_eq zero)).1
      exact own.ne' (Int.zero_dvd.mp divides)
    · intro divisor
      rw [List.foldl_cons, divisors, dvd_gcd_iff, List.forall_mem_cons]
      tauto

theorem gcdOf_spec {durations : List ℤ} (nonempty : durations ≠ []) (positive : ∀ duration ∈ durations, 0 < duration) :
    ∃ period, gcdOf durations = .ok period ∧ 0 < period ∧
      ∀ divisor, divisor ∣ period ↔ ∀ duration ∈ durations, divisor ∣ duration := by
  cases durations with
  | nil => exact absurd rfl nonempty
  | cons first others =>
    obtain ⟨own, later⟩ := List.forall_mem_cons.mp positive
    obtain ⟨periodPositive, divisors⟩ := foldl_gcd later first
    exact ⟨_, rfl, periodPositive own, fun divisor => by rw [divisors, List.forall_mem_cons]⟩

end Divisors

section Updates

variable {T : Type} {lengths : List ℤ} {intervals : List (Interval T)} {period : ℤ}

def prescribed (intervals : List (Interval T)) (cycle second : ℤ) : Option T :=
  (intervals.find? (·.isIn (second % cycle))).map Interval.value

theorem prescribed_roundDown (consecutive : Consecutive lengths intervals)
    (divides : ∀ length ∈ lengths, period ∣ length) (periodPositive : 0 < period) (sumPositive : 0 < lengths.sum)
    (second : ℤ) :
    prescribed intervals lengths.sum (Systems.roundDown period second) = prescribed intervals lengths.sum second := by
  have sameInterval : ∀ interval ∈ intervals, interval.isIn (Systems.roundDown period second % lengths.sum) =
      interval.isIn (second % lengths.sum) := by
    intro interval inside
    obtain ⟨startDivided, endDivided⟩ := Systems.Chained.boundaries consecutive (Int.dvd_zero period) divides inside
    rw [Systems.roundDown_emod periodPositive sumPositive (List.dvd_sum divides), Bool.eq_iff_iff, isIn_iff, isIn_iff,
      Systems.le_roundDown periodPositive startDivided, Systems.roundDown_lt periodPositive endDivided]
  unfold prescribed
  exact congrArg (Option.map Interval.value) (List.find?_congr sameInterval)

theorem prescribed_some (consecutive : Consecutive lengths intervals) (positive : ∀ length ∈ lengths, 0 < length)
    (sumPositive : 0 < lengths.sum) (second : ℤ) : ∃ value, prescribed intervals lengths.sum second = some value := by
  obtain ⟨interval, unique⟩ := consecutive.unique positive (Int.emod_nonneg second sumPositive.ne')
    (Int.emod_lt_of_pos second sumPositive)
  exact ⟨interval.value, by rw [prescribed, find_of_unique unique, Option.map_some]⟩

def updateAt [DecidableEq T] (intervals : List (Interval T)) (cycle : ℤ) (state : T × List (T × T)) (second : ℤ) :
    T × List (T × T) :=
  match prescribed intervals cycle second with
  | some value => if state.1 = value then state else (value, state.2 ++ [(state.1, value)])
  | none => state

def updatedEvery [DecidableEq T] (period : ℤ) (intervals : List (Interval T)) (cycle : ℤ) (state : T × List (T × T)) :
    ℕ → T × List (T × T)
  | 0 => updateAt intervals cycle state 0
  | second + 1 =>
    let before := updatedEvery period intervals cycle state second
    if period ∣ (second + 1 : ℕ) then updateAt intervals cycle before (second + 1 : ℕ) else before

section Every

variable [DecidableEq T] {cycle : ℤ} {state : T × List (T × T)}

theorem updateAt_prescribed (state : T × List (T × T)) {second : ℤ} {value : T}
    (isPrescribed : prescribed intervals cycle second = some value) :
    (updateAt intervals cycle state second).1 = value ∧
      (updateAt intervals cycle state second).2 = state.2 ++ if state.1 = value then [] else [(state.1, value)] := by
  unfold updateAt
  rw [isPrescribed]
  dsimp only
  by_cases same : state.1 = value
  · rw [if_pos same, if_pos same, List.append_nil]
    exact ⟨same, rfl⟩
  · rw [if_neg same, if_neg same]
    exact ⟨rfl, rfl⟩

theorem updateAt_same {second : ℤ} (isPrescribed : prescribed intervals cycle second = some state.1) :
    updateAt intervals cycle state second = state := by
  obtain ⟨value, changes⟩ := updateAt_prescribed state isPrescribed
  rw [if_pos rfl, List.append_nil] at changes
  exact Prod.ext value changes

/-- Between two multiples of the period the value is already the prescribed one. -/
theorem updatedEvery_period (consecutive : Consecutive lengths intervals) (positive : ∀ length ∈ lengths, 0 < length)
    (divides : ∀ length ∈ lengths, period ∣ length) (periodPositive : 0 < period) (sumPositive : 0 < lengths.sum)
    (state : T × List (T × T)) (second : ℕ) :
    updatedEvery period intervals lengths.sum state second = updatedEvery 1 intervals lengths.sum state second ∧
      prescribed intervals lengths.sum second = some (updatedEvery 1 intervals lengths.sum state second).1 := by
  have reached : ∀ (before : T × List (T × T)) (second : ℤ),
      prescribed intervals lengths.sum second = some (updateAt intervals lengths.sum before second).1 := by
    intro before second
    obtain ⟨value, isPrescribed⟩ := prescribed_some consecutive positive sumPositive second
    rw [isPrescribed, (updateAt_prescribed before isPrescribed).1]
  induction second with
  | zero => exact ⟨rfl, reached state 0⟩
  | succ second ih =>
    obtain ⟨same, current⟩ := ih
    have everySecond : updatedEvery 1 intervals lengths.sum state (second + 1) =
        updateAt intervals lengths.sum (updatedEvery 1 intervals lengths.sum state second) (second + 1 : ℕ) :=
      if_pos (Int.one_dvd _)
    refine ⟨?_, by rw [everySecond]; exact reached _ _⟩
    rw [everySecond, updatedEvery, same]
    by_cases multiple : period ∣ (second + 1 : ℕ)
    · rw [if_pos multiple]
    · rw [if_neg multiple]
      refine (updateAt_same ?_).symm
      rw [← prescribed_roundDown consecutive divides periodPositive sumPositive, Nat.cast_succ,
        Systems.roundDown_succ periodPositive (by exact_mod_cast multiple),
        prescribed_roundDown consecutive divides periodPositive sumPositive, current]

theorem updateValue_updateAt {L : Type} {listeners : List L} {ends : L → Ending} {startTime now : ℤ} {value : T}
    (consecutive : Consecutive lengths intervals) (positive : ∀ length ∈ lengths, 0 < length)
    (sumPositive : 0 < lengths.sum) (later : 0 ≤ Java.long (now - startTime)) (changes : List (T × T)) :
    let update := updateValueIfNecessary intervals startTime now lengths.sum value listeners ends
    updateAt intervals lengths.sum (value, changes) (Java.long (now - startTime) / 1000000000) =
      (update.value, changes ++ if value = update.value then [] else [(value, update.value)]) := by
  obtain ⟨interval, unique⟩ := consecutive.unique positive
    (Int.emod_nonneg (Java.long (now - startTime) / 1000000000) sumPositive.ne')
    (Int.emod_lt_of_pos (Java.long (now - startTime) / 1000000000) sumPositive)
  have found := find_of_unique unique
  have isPrescribed : prescribed intervals lengths.sum (Java.long (now - startTime) / 1000000000) =
      some interval.value := by
    rw [prescribed, found, Option.map_some]
  have updated : (updateValueIfNecessary intervals startTime now lengths.sum value listeners ends).value =
      interval.value := by
    rw [updateValue_found sumPositive.ne' later found]
    split
    case isTrue same => exact same
    case isFalse changed => rfl
  obtain ⟨newValue, newChanges⟩ := updateAt_prescribed (value, changes) isPrescribed
  dsimp only
  rw [updated]
  exact Prod.ext newValue newChanges

end Every

end Updates

/-- Every boundary of the schedule is a multiple of the scheduling period. -/
theorem period_misses_no_change {T : Type} [DecidableEq T] (lengths : List ℤ) (nonempty : lengths ≠ [])
    (positive : ∀ length ∈ lengths, 0 < length) (fits : lengths.sum < 2 ^ 31) :
    ∃ period, gcdOf lengths = .ok period ∧ 0 < period ∧
      (∀ divisor, divisor ∣ period ↔ ∀ length ∈ lengths, divisor ∣ length) ∧
      (∀ (conversion : String → Except RuntimeException T) (definitions : List String),
        (∀ definition ∈ definitions, validate definition = .ok () ∧ Converts conversion definition) →
        durations definitions = .ok lengths →
        ∃ list, intervals conversion definitions = .ok list ∧ Consecutive lengths list ∧
          start definitions list = .ok ⟨lengths.sum, period⟩) ∧
      ∀ intervals : List (Interval T), Consecutive lengths intervals →
        (∀ second, prescribed intervals lengths.sum (period * (second / period)) =
          prescribed intervals lengths.sum second) ∧
        (∀ state second, updatedEvery period intervals lengths.sum state second =
          updatedEvery 1 intervals lengths.sum state second) ∧
        ∀ (L : Type) (listeners : List L) (ends : L → Ending) (startTime now : ℤ) (value : T) (changes : List (T × T)),
          0 ≤ Java.long (now - startTime) →
          let update := updateValueIfNecessary intervals startTime now lengths.sum value listeners ends
          updateAt intervals lengths.sum (value, changes) (Java.long (now - startTime) / 1000000000) =
            (update.value, changes ++ if value = update.value then [] else [(value, update.value)]) := by
  obtain ⟨period, computed, periodPositive, divisors⟩ := gcdOf_spec nonempty positive
  have divides := (divisors period).mp (Int.dvd_refl period)
  have sumPositive : 0 < lengths.sum := List.sum_pos lengths positive nonempty
  refine ⟨period, computed, periodPositive, divisors, ?_, fun intervals consecutive => ⟨?_, ?_, ?_⟩⟩
  · intro conversion definitions accepted read
    obtain ⟨list, ok, chained⟩ := intervals_chained (fun definition inside => (accepted definition inside).1)
      (fun definition inside => (accepted definition inside).2) read positive 0 le_rfl (by rw [zero_add]; exact fits)
    refine ⟨list, ok, chained, ?_⟩
    have last : cycleDuration list = some lengths.sum := cycleDuration_eq chained nonempty
    unfold start
    rw [read, last]
    simp only [bind, Except.bind, computed, if_neg periodPositive.not_ge]
  · exact prescribed_roundDown consecutive divides periodPositive sumPositive
  · exact fun state second =>
      (updatedEvery_period consecutive positive divides periodPositive sumPositive state second).1
  · exact fun L listeners ends startTime now value changes later =>
      updateValue_updateAt consecutive positive sumPositive later changes

theorem period_of_sixty_fifteen_twenty :
    gcdOf [60, 15, 20] = .ok 5 ∧ ∀ divisor : ℤ, divisor ∣ 5 ↔ ∀ length ∈ [60, 15, 20], divisor ∣ length := by
  have computed : gcdOf [60, 15, 20] = .ok 5 := by decide +kernel
  obtain ⟨period, alsoComputed, -, divisors, -⟩ :=
    period_misses_no_change (T := ℤ) [60, 15, 20] (by decide) (by decide) (by decide)
  obtain rfl : period = 5 := Except.ok.inj (alsoComputed.symm.trans computed)
  exact ⟨computed, divisors⟩

end PerfTestProof
