import Mathlib.Algebra.Order.Ring.Int
import PerfTest.Systems.Schedules
import PerfTest.Values.Definitions

open Java (RuntimeException)

namespace PerfTestModel

namespace VariableValueIndicator

/-- How a listener ends. `updateValueIfNecessary` catches an Exception, but no Error. -/
inductive Ending
  | returns
  | exception
  | error
  deriving DecidableEq, Repr

inductive Thrown
  | exception (exception : RuntimeException)
  | error
  deriving DecidableEq, Repr

structure Notification (L T : Type) where
  listener : L
  oldValue : T
  newValue : T
  deriving DecidableEq, Repr

variable {L T : Type}

/-- `listeners.forEach`, in the order of the iteration. -/
def notifyAll (ends : L → Ending) (oldValue newValue : T) : List L → List (Notification L T) × Option Thrown
  | [] => ([], none)
  | listener :: listeners =>
    if ends listener = .error then ([⟨listener, oldValue, newValue⟩], some .error)
    else
      let rest := notifyAll ends oldValue newValue listeners
      (⟨listener, oldValue, newValue⟩ :: rest.1, rest.2)

structure Update (L T : Type) where
  value : T
  notifications : List (Notification L T)
  thrown : Option Thrown
  deriving DecidableEq, Repr

def NANO_TO_SECOND : ℤ := 1000000000

def updateValueIfNecessary [DecidableEq T] (intervals : List (Interval T)) (startTime now cycleDuration : ℤ) (value : T)
    (listeners : List L) (ends : L → Ending) : Update L T :=
  if cycleDuration = 0 then ⟨value, [], some (.exception (.arithmetic "/ by zero"))⟩
  else
    let elapsed := ((Java.long (now - startTime)).tdiv NANO_TO_SECOND).tmod cycleDuration
    match intervals.find? (·.isIn elapsed) with
    | some interval =>
      if value = interval.value then ⟨value, [], none⟩
      else
        let notified := notifyAll ends value interval.value listeners
        ⟨interval.value, notified.1, notified.2⟩
    | none => ⟨value, [], none⟩

def duration (definition : String) : Except RuntimeException ℤ := do
  valueOf (← elementAt (Java.split ':' definition) 1)

def durations (definitions : List String) : Except RuntimeException (List ℤ) := definitions.mapM duration

def cycleDuration (intervals : List (Interval T)) : Option ℤ := intervals.getLast?.map Interval.end_

end VariableValueIndicator

end PerfTestModel

namespace PerfTestProof

open PerfTestModel PerfTestModel.VariableValueIndicator

variable {L T : Type} {conversion : String → Except RuntimeException T} {definitions : List String}

def Consecutive (durations : List ℤ) (intervals : List (Interval T)) : Prop :=
  Systems.Chained Interval.start Interval.end_ 0 durations intervals

section Laying

theorem duration_ok {value duration definition : String} {extra : ℕ} {length : ℤ} (accepted : Accepted value duration)
    (written : Written value duration extra definition) (read : Java.parseInt duration = some length) :
    VariableValueIndicator.duration definition = .ok length := by
  unfold VariableValueIndicator.duration
  rw [accepted.split written]
  simp only [elementAt, List.getElem?_cons_zero, List.getElem?_cons_succ, bind, Except.bind, valueOf, read]

theorem durations_cons {definition : String} {length : ℤ} {lengths : List ℤ} (own : duration definition = .ok length)
    (rest : durations definitions = .ok lengths) : durations (definition :: definitions) = .ok (length :: lengths) := by
  unfold durations at rest ⊢
  rw [List.mapM_cons, own, rest]
  rfl

theorem durations_ok (valid : ∀ definition ∈ definitions, validate definition = .ok ()) :
    ∃ lengths, durations definitions = .ok lengths ∧ lengths.length = definitions.length ∧
      ∀ length ∈ lengths, 0 < length := by
  induction definitions with
  | nil => exact ⟨[], rfl, rfl, fun length inside => absurd inside List.not_mem_nil⟩
  | cons definition definitions ih =>
    obtain ⟨value, duration, extra, accepted, written⟩ := valid_iff.mp (validate_ok.mp (valid _ List.mem_cons_self))
    obtain ⟨length, read, positive⟩ := accepted.duration
    obtain ⟨lengths, later, sameLength, positives⟩ := ih fun definition inside =>
      valid _ (List.mem_cons_of_mem _ inside)
    refine ⟨length :: lengths, durations_cons (duration_ok accepted written read) later,
      congrArg (· + 1) sameLength, ?_⟩
    exact List.forall_mem_cons.mpr ⟨positive, positives⟩

theorem intervals_chained (valid : ∀ definition ∈ definitions, validate definition = .ok ())
    (converts : ∀ definition ∈ definitions, Converts conversion definition) {lengths : List ℤ}
    (read : durations definitions = .ok lengths) (positive : ∀ length ∈ lengths, 0 < length) (start : ℤ)
    (nonneg : 0 ≤ start) (fits : start + lengths.sum < 2 ^ 31) :
    ∃ intervals, intervalsFrom conversion start definitions = .ok intervals ∧
      Systems.Chained Interval.start Interval.end_ start lengths intervals := by
  induction definitions generalizing start lengths with
  | nil =>
    cases read
    exact ⟨[], rfl, trivial⟩
  | cons definition definitions ih =>
    obtain ⟨value, duration, extra, accepted, written⟩ := valid_iff.mp (validate_ok.mp (valid _ List.mem_cons_self))
    obtain ⟨length, readLength, own⟩ := accepted.duration
    obtain ⟨converted, conversionOk⟩ := converts _ List.mem_cons_self value duration extra accepted written
    have validLater : ∀ definition ∈ definitions, validate definition = .ok () :=
      fun definition inside => valid _ (List.mem_cons_of_mem _ inside)
    obtain ⟨later, readLater, -, -⟩ := durations_ok validLater
    obtain rfl : lengths = length :: later := by
      have both := (durations_cons (duration_ok accepted written readLength) readLater).symm.trans read
      exact (Except.ok.inj both).symm
    have laterPositive : ∀ length ∈ later, 0 < length := fun length inside => positive _ (List.mem_cons_of_mem _ inside)
    have laterNonneg : 0 ≤ later.sum := List.sum_nonneg fun length inside => (laterPositive length inside).le
    rw [List.sum_cons] at fits
    have exact_ : Java.int (start + length) = start + length := Int.bmod_eq_of_le (by omega) (by omega)
    obtain ⟨intervals, ok, chained⟩ := ih validLater
      (fun definition inside => converts _ (List.mem_cons_of_mem _ inside))
      readLater laterPositive (start + length) (by omega) (by omega)
    refine ⟨⟨start, start + length, converted⟩ :: intervals, ?_, rfl, rfl, chained⟩
    rw [intervalsFrom_cons accepted written readLength, conversionOk, exact_]
    simp only [bind, Except.bind, ok]

theorem converts_of_intervals (valid : ∀ definition ∈ definitions, validate definition = .ok ()) {start : ℤ}
    {intervals : List (Interval T)} (ok : intervalsFrom conversion start definitions = .ok intervals) :
    ∀ definition ∈ definitions, Converts conversion definition := by
  induction definitions generalizing start intervals with
  | nil => exact fun definition inside => absurd inside List.not_mem_nil
  | cons definition definitions ih =>
    obtain ⟨value, duration, extra, accepted, written⟩ := valid_iff.mp (validate_ok.mp (valid _ List.mem_cons_self))
    obtain ⟨length, readLength, -⟩ := accepted.duration
    rw [intervalsFrom_cons accepted written readLength] at ok
    cases converted : conversion value with
    | error thrown =>
      rw [converted] at ok
      cases ok
    | ok result =>
      cases later : intervalsFrom conversion (Java.int (start + length)) definitions with
      | error thrown =>
        rw [converted, later] at ok
        cases ok
      | ok rest =>
        intro other inside
        rcases List.mem_cons.mp inside with rfl | behind
        · intro otherValue otherDuration otherExtra otherAccepted otherWritten
          have sameParts := (accepted.split written).symm.trans (otherAccepted.split otherWritten)
          obtain ⟨rfl, -⟩ := List.cons.inj sameParts
          exact ⟨result, converted⟩
        · exact ih (fun definition inside => valid _ (List.mem_cons_of_mem _ inside)) later other behind

theorem ends_are_ints (valid : ∀ definition ∈ definitions, validate definition = .ok ()) {start : ℤ}
    {intervals : List (Interval T)} (ok : intervalsFrom conversion start definitions = .ok intervals) :
    ∀ interval ∈ intervals, interval.end_ < 2 ^ 31 := by
  obtain ⟨list, parsed, each⟩ := intervals_parsed valid (converts_of_intervals valid ok) start
  obtain rfl : intervals = list := Except.ok.inj (ok.symm.trans parsed)
  intro interval inside
  obtain ⟨index, rfl⟩ := List.mem_iff_get.mp inside
  obtain ⟨sameLength, each⟩ := List.forall₂_iff_get.mp each
  obtain ⟨-, -, -, length, -, -, -, -, end_⟩ := each index (sameLength.symm ▸ index.isLt) index.isLt
  rw [end_]
  exact (Java.int_range _).2

end Laying

section Updating

variable {intervals : List (Interval T)} {interval : Interval T} {startTime now cycle : ℤ} {value : T}
  {listeners : List L} {ends : L → Ending}

theorem isIn_iff {point : ℤ} : interval.isIn point = true ↔ interval.start ≤ point ∧ point < interval.end_ := by
  unfold Interval.isIn
  rw [Bool.and_eq_true, decide_eq_true_eq, decide_eq_true_eq]

theorem find_of_unique {point : ℤ} (unique : ∀ other, other ∈ intervals ∧ other.isIn point = true ↔ other = interval) :
    intervals.find? (·.isIn point) = some interval := by
  have found : (intervals.find? (·.isIn point)).isSome :=
    List.find?_isSome.mpr ⟨interval, (unique interval).mpr rfl⟩
  obtain ⟨first, isFirst⟩ := Option.isSome_iff_exists.mp found
  have contains : first.isIn point = true := (List.find?_eq_some_iff_append.mp isFirst).1
  rw [isFirst, (unique first).mp ⟨List.mem_of_find?_eq_some isFirst, contains⟩]

theorem Consecutive.unique {lengths : List ℤ} (consecutive : Consecutive lengths intervals)
    (positive : ∀ length ∈ lengths, 0 < length) {point : ℤ} (lower : 0 ≤ point) (upper : point < lengths.sum) :
    ∃ interval, ∀ other, other ∈ intervals ∧ other.isIn point = true ↔ other = interval := by
  obtain ⟨interval, ⟨inside, contains⟩, unique⟩ :=
    Systems.Chained.existsUnique consecutive positive lower (by rw [zero_add]; exact upper)
  refine ⟨interval, fun other => ⟨?_, ?_⟩⟩
  · rintro ⟨otherInside, otherContains⟩
    exact unique other ⟨otherInside, isIn_iff.mp otherContains⟩
  · rintro rfl
    exact ⟨inside, isIn_iff.mpr contains⟩

theorem cycleDuration_eq {lengths : List ℤ} (consecutive : Consecutive lengths intervals) (nonempty : lengths ≠ []) :
    cycleDuration intervals = some lengths.sum := by
  have intervalsNonempty : intervals ≠ [] := by
    rintro rfl
    exact nonempty (List.length_eq_zero_iff.mp consecutive.length_eq.symm)
  have last := List.getLast?_eq_some_getLast intervalsNonempty
  unfold cycleDuration
  rw [last, Option.map_some, Systems.Chained.getLast consecutive last, zero_add]

def second (startTime now cycle : ℤ) : ℤ := (Java.long (now - startTime) / 1000000000) % cycle

theorem elapsed_eq (later : 0 ≤ Java.long (now - startTime)) :
    ((Java.long (now - startTime)).tdiv NANO_TO_SECOND).tmod cycle = second startTime now cycle := by
  have seconds : (Java.long (now - startTime)).tdiv NANO_TO_SECOND = Java.long (now - startTime) / 1000000000 :=
    Int.tdiv_eq_ediv_of_nonneg later
  rw [seconds]
  exact Int.tmod_eq_emod_of_nonneg (Int.ediv_nonneg later (by decide))

theorem notifyAll_thrown (oldValue newValue : T) :
    ∀ exception, (notifyAll ends oldValue newValue listeners).2 ≠ some (.exception exception) := by
  intro exception
  induction listeners with
  | nil => exact fun same => by cases same
  | cons listener listeners ih =>
    unfold notifyAll
    split
    · simp
    · exact ih

variable [DecidableEq T]

theorem updateValue_found (nonzero : cycle ≠ 0) (later : 0 ≤ Java.long (now - startTime))
    (found : intervals.find? (·.isIn (second startTime now cycle)) = some interval) :
    updateValueIfNecessary intervals startTime now cycle value listeners ends =
      if value = interval.value then ⟨value, [], none⟩
      else ⟨interval.value, (notifyAll ends value interval.value listeners).1,
        (notifyAll ends value interval.value listeners).2⟩ := by
  unfold updateValueIfNecessary
  rw [if_neg nonzero, elapsed_eq later]
  simp only [found]

def UpdatesTo (intervals : List (Interval T)) (startTime now cycle : ℤ) (update : Update L T) : Prop :=
  (∀ exception, update.thrown ≠ some (.exception exception)) ∧
    ∃ interval, (∀ other, other ∈ intervals ∧ other.isIn (second startTime now cycle) = true ↔ other = interval) ∧
      update.value = interval.value

theorem updateValue_updatesTo (positive : 0 < cycle) (later : 0 ≤ Java.long (now - startTime))
    (unique : ∀ other, other ∈ intervals ∧ other.isIn (second startTime now cycle) = true ↔ other = interval) :
    UpdatesTo intervals startTime now cycle
      (updateValueIfNecessary intervals startTime now cycle value listeners ends) := by
  rw [updateValue_found positive.ne' later (find_of_unique unique)]
  split
  case isTrue same => exact ⟨fun exception thrown => (by cases thrown), interval, unique, same⟩
  case isFalse changed => exact ⟨notifyAll_thrown value interval.value, interval, unique, rfl⟩

end Updating

section Schedules

def ScheduleKept [DecidableEq T] (conversion : String → Except RuntimeException T) (definitions : List String)
    (durations : List ℤ) : Prop :=
  ∃ list cycle, intervals conversion definitions = .ok list ∧ Consecutive durations list ∧
    (∀ interval ∈ list, interval.start < interval.end_) ∧ cycleDuration list = some cycle ∧
    cycle = durations.sum ∧ 0 < cycle ∧
    ∀ (L : Type) (listeners : List L) (ends : L → Ending) (value : T) (startTime now : ℤ),
      0 ≤ Java.long (now - startTime) → UpdatesTo list startTime now cycle
        (updateValueIfNecessary list startTime now cycle value listeners ends)

/-- Nothing bounds the sum of the durations, and the ends of the intervals are `int` sums. -/
theorem schedule_iff [DecidableEq T] (conversion : String → Except RuntimeException T) (definitions : List String)
    (nonempty : definitions ≠ []) (valid : ∀ definition ∈ definitions, validate definition = .ok ()) :
    ∃ lengths, durations definitions = .ok lengths ∧
      (ScheduleKept conversion definitions lengths ↔
        lengths.sum < 2 ^ 31 ∧ ∀ definition ∈ definitions, Converts conversion definition) := by
  obtain ⟨lengths, read, sameLength, positive⟩ := durations_ok valid
  refine ⟨lengths, read, ?_, ?_⟩
  · rintro ⟨list, cycle, ok, -, -, last, cycleEq, -, -⟩
    obtain ⟨final, isLast, endsCycle⟩ := Option.map_eq_some_iff.mp last
    refine ⟨?_, converts_of_intervals valid ok⟩
    rw [← cycleEq, ← endsCycle]
    exact ends_are_ints valid ok final (List.mem_of_getLast? isLast)
  · rintro ⟨fits, converts⟩
    obtain ⟨list, ok, chained⟩ :=
      intervals_chained valid converts read positive 0 le_rfl (by rw [zero_add]; exact fits)
    have lengthsNonempty : lengths ≠ [] := by
      rintro rfl
      exact nonempty (List.length_eq_zero_iff.mp sameLength.symm)
    have sumPositive : 0 < lengths.sum := List.sum_pos lengths positive lengthsNonempty
    refine ⟨list, lengths.sum, ok, chained, fun interval inside => (chained.bounds positive inside).2.1,
      cycleDuration_eq chained lengthsNonempty, rfl, sumPositive, ?_⟩
    intro L listeners ends value startTime now later
    obtain ⟨interval, unique⟩ := Consecutive.unique chained positive
      (Int.emod_nonneg (Java.long (now - startTime) / 1000000000) sumPositive.ne')
      (Int.emod_lt_of_pos (Java.long (now - startTime) / 1000000000) sumPositive)
    exact updateValue_updatesTo sumPositive later unique

theorem schedule_kept_short : ScheduleKept valueOf ["5:6", "0:2"] [6, 2] := by
  have read : durations ["5:6", "0:2"] = .ok [6, 2] := by decide +kernel
  obtain ⟨lengths, alsoRead, kept⟩ := schedule_iff valueOf ["5:6", "0:2"] (by decide) (by decide +kernel)
  obtain rfl : lengths = [6, 2] := Except.ok.inj (alsoRead.symm.trans read)
  exact kept.mpr ⟨by decide, fun definition _ => converts_valueOf definition⟩

/-- Three accepted definitions with a cycle of 0: every update divides by zero. -/
theorem schedule_of_length_zero :
    (∀ definition ∈ ["1:2147483647", "2:2147483647", "3:2"], validate definition = .ok ()) ∧
      durations ["1:2147483647", "2:2147483647", "3:2"] = .ok [2147483647, 2147483647, 2] ∧
      intervals valueOf ["1:2147483647", "2:2147483647", "3:2"] =
        .ok [⟨0, 2147483647, 1⟩, ⟨2147483647, -2, 2⟩, ⟨-2, 0, 3⟩] ∧
      cycleDuration [(⟨0, 2147483647, 1⟩ : VariableValueIndicator.Interval ℤ), ⟨2147483647, -2, 2⟩, ⟨-2, 0, 3⟩] =
        some 0 ∧
      (updateValueIfNecessary [(⟨0, 2147483647, 1⟩ : VariableValueIndicator.Interval ℤ), ⟨2147483647, -2, 2⟩,
        ⟨-2, 0, 3⟩] 0 0 0 1 ([] : List Unit) fun _ => .returns).thrown =
        some (.exception (.arithmetic "/ by zero")) := by
  refine ⟨by decide +kernel, by decide +kernel, by decide +kernel, rfl, rfl⟩

end Schedules

end PerfTestProof
