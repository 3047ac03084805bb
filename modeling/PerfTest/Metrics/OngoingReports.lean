import Mathlib.Data.Fintype.Basic
import Mathlib.Data.Int.ConditionallyCompleteOrder
import PerfTest.Metrics.ScenarioRates
import PerfTest.Systems.Runs
import PerfTest.Systems.Schedules

namespace PerfTestModel

inductive ReportPhase
  | outside
  | clockRead (now : ℤ)
  | stored (now : ℤ)
  | due (now : ℤ)
  | added (now : ℤ)
  | reporting (now : ℤ)
  | clearing
  deriving DecidableEq, Repr

inductive ReportStep (T : Type)
  | readClock (thread : T) (now : ℤ)
  | storeElapsed (thread : T)
  | compare (thread : T)
  | addElapsed (thread : T)
  | compareAndSet (thread : T)
  | reportAndReset (thread : T)
  | clearFlag (thread : T)
  deriving DecidableEq, Repr

/-- The fields of Stats that `report()` uses, and where each thread is. `clock` is the latest time that was read, and
    `reported` has `lastStatsTime` and `now` of each call of `report(now)`. -/
structure ReportingStats (T : Type) where
  intervalInNanoSeconds : ℤ
  clock : ℤ
  lastStatsTime : ℤ
  elapsedInterval : ℤ
  elapsedTotal : ℤ
  ongoingReport : Bool
  reported : List (ℤ × ℤ)
  phase : T → ReportPhase

namespace ReportingStats

variable {T : Type}

def initial (interval startTime : ℤ) : ReportingStats T :=
  ⟨interval, startTime, startTime, 0, 0, false, [], fun _ => .outside⟩

variable [DecidableEq T]

def move (state : ReportingStats T) (thread : T) (phase : ReportPhase) : ReportingStats T :=
  { state with phase := Function.update state.phase thread phase }

def step (state : ReportingStats T) : ReportStep T → Option (ReportingStats T)
  | .readClock thread now =>
    if state.phase thread = .outside ∧ state.clock ≤ now then
      some { state.move thread (.clockRead now) with clock := now }
    else none
  | .storeElapsed thread =>
    match state.phase thread with
    | .clockRead now =>
      some { state.move thread (.stored now) with elapsedInterval := now - state.lastStatsTime }
    | _ => none
  | .compare thread =>
    match state.phase thread with
    | .stored now =>
      some (state.move thread (if state.intervalInNanoSeconds ≤ state.elapsedInterval then .due now else .outside))
    | _ => none
  | .addElapsed thread =>
    match state.phase thread with
    | .due now =>
      some { state.move thread (.added now) with elapsedTotal := state.elapsedTotal + state.elapsedInterval }
    | _ => none
  | .compareAndSet thread =>
    match state.phase thread with
    | .added now =>
      if state.ongoingReport then some (state.move thread .outside)
      else some { state.move thread (.reporting now) with ongoingReport := true }
    | _ => none
  | .reportAndReset thread =>
    match state.phase thread with
    | .reporting now =>
      some { state.move thread .clearing with
        reported := state.reported ++ [(state.lastStatsTime, now)]
        lastStatsTime := now }
    | _ => none
  | .clearFlag thread =>
    match state.phase thread with
    | .clearing => some { state.move thread .outside with ongoingReport := false }
    | _ => none

end ReportingStats

end PerfTestModel

namespace PerfTestProof

open PerfTestModel PerfTestModel.ReportingStats Systems

variable {T : Type}

def untilAdded (thread : T) (now : ℤ) : List (ReportStep T) :=
  [.readClock thread now, .storeElapsed thread, .compare thread, .addElapsed thread]

def afterAdded (thread : T) : List (ReportStep T) :=
  [.compareAndSet thread, .reportAndReset thread, .clearFlag thread]

def aloneCall (state : ReportingStats T) (thread : T) (now : ℤ) : List (ReportStep T) :=
  if state.intervalInNanoSeconds ≤ now - state.lastStatsTime then untilAdded thread now ++ afterAdded thread
  else (untilAdded thread now).take 3

def reportTimes (state : ReportingStats T) : ℤ × ℤ × ℤ × ℤ :=
  (state.intervalInNanoSeconds, state.lastStatsTime, state.elapsedInterval, state.elapsedTotal)

def statsTimes (stats : SimpleScenarioStats) : ℤ × ℤ × ℤ × ℤ :=
  (stats.intervalInNanoSeconds, stats.lastStatsTime, stats.elapsedInterval, stats.elapsedTotal)

theorem statsTimes_report (now : ℤ) (stats : SimpleScenarioStats) :
    statsTimes (Stats.report now stats) =
      if stats.intervalInNanoSeconds ≤ now - stats.lastStatsTime then
        (stats.intervalInNanoSeconds, now, now - stats.lastStatsTime,
          stats.elapsedTotal + (now - stats.lastStatsTime))
      else (stats.intervalInNanoSeconds, stats.lastStatsTime, now - stats.lastStatsTime, stats.elapsedTotal) := by
  unfold Stats.report
  dsimp only
  split
  · unfold SimpleScenarioStats.report SimpleScenarioStats.dropTotals
    split <;> rfl
  · rfl

/-- A call that no other one overlaps does what `Stats.report` does. -/
theorem report_alone [DecidableEq T] {state : ReportingStats T} {stats : SimpleScenarioStats} {thread : T} {now : ℤ}
    (same : reportTimes state = statsTimes stats) (outside : state.phase thread = .outside)
    (free : state.ongoingReport = false) (later : state.clock ≤ now) :
    (run ReportingStats.step state (aloneCall state thread now)).map reportTimes =
      some (statsTimes (Stats.report now stats)) := by
  obtain ⟨interval, last, -, total⟩ : state.intervalInNanoSeconds = stats.intervalInNanoSeconds ∧
      state.lastStatsTime = stats.lastStatsTime ∧ state.elapsedInterval = stats.elapsedInterval ∧
      state.elapsedTotal = stats.elapsedTotal := by simpa only [reportTimes, statsTimes, Prod.mk.injEq] using same
  rw [statsTimes_report, ← interval, ← last, ← total]
  unfold aloneCall
  by_cases due : state.intervalInNanoSeconds ≤ now - state.lastStatsTime
  · rw [if_pos due, if_pos due]
    simp [untilAdded, afterAdded, run, ReportingStats.step, move, reportTimes, outside, free, later, due]
  · rw [if_neg due, if_neg due]
    simp [untilAdded, run, ReportingStats.step, move, reportTimes, outside, later]

def lasted (interval : ℤ × ℤ) : ℤ := interval.2 - interval.1

structure PartitionsTime (startTime : ℤ) (state : ReportingStats T) : Prop where
  consecutive : Chained Prod.fst Prod.snd startTime (state.reported.map lasted) state.reported
  disjoint : state.reported.Pairwise fun earlier later =>
    Disjoint (Set.Ioc earlier.1 earlier.2) (Set.Ioc later.1 later.2)
  due : ∀ interval ∈ state.reported, state.intervalInNanoSeconds ≤ lasted interval
  total : (∀ thread, state.phase thread = .outside) → state.elapsedTotal = (state.reported.map lasted).sum

def unreported : ReportPhase → Option ℤ
  | .added now | .reporting now => some now
  | .outside | .clockRead _ | .stored _ | .due _ | .clearing => none

/-- What a thread adds is the time from the last report to its own reading, this is still due and not added
    by another thread that has yet to report; and then it gets the flag. -/
def AddsOwnInterval [Fintype T] (state : ReportingStats T) : ReportStep T → Bool
  | .addElapsed thread =>
    match state.phase thread with
    | .due now =>
      decide (state.elapsedInterval = now - state.lastStatsTime ∧ state.lastStatsTime ≤ now ∧
        state.intervalInNanoSeconds ≤ state.elapsedInterval ∧ ∀ other, unreported (state.phase other) = none)
    | _ => true
  | .compareAndSet _ => !state.ongoingReport
  | _ => true

structure Pending (startTime : ℤ) (state : ReportingStats T) (thread : T) (now : ℤ) : Prop where
  ordered : state.lastStatsTime ≤ now
  due : state.intervalInNanoSeconds ≤ now - state.lastStatsTime
  total : state.elapsedTotal = now - startTime
  only : ∀ other, other ≠ thread → unreported (state.phase other) = none

structure Partitioned (startTime : ℤ) (state : ReportingStats T) : Prop where
  chained : Chained Prod.fst Prod.snd startTime (state.reported.map lasted) state.reported
  last : state.lastStatsTime = startTime + (state.reported.map lasted).sum
  ordered : ∀ interval ∈ state.reported, 0 ≤ lasted interval
  due : ∀ interval ∈ state.reported, state.intervalInNanoSeconds ≤ lasted interval
  total : (∀ thread, unreported (state.phase thread) = none) → state.elapsedTotal = state.lastStatsTime - startTime
  pending : ∀ thread now, unreported (state.phase thread) = some now → Pending startTime state thread now

namespace Partitioned

variable {state next : ReportingStats T} {startTime : ℤ}

theorem initial (interval startTime : ℤ) :
    Partitioned startTime (ReportingStats.initial interval startTime : ReportingStats T) where
  chained := trivial
  last := (add_zero startTime).symm
  ordered := fun _ inside => absurd inside List.not_mem_nil
  due := fun _ inside => absurd inside List.not_mem_nil
  total := fun _ => (sub_self startTime).symm
  pending := by rintro thread now ⟨⟩

theorem partitionsTime (partitioned : Partitioned startTime state) : PartitionsTime startTime state where
  consecutive := partitioned.chained
  disjoint := by
    refine partitioned.chained.disjoint ?_
    intro length inside
    obtain ⟨interval, reported, rfl⟩ := List.mem_map.mp inside
    exact partitioned.ordered interval reported
  due := partitioned.due
  total := by
    intro outside
    have none : ∀ thread, unreported (state.phase thread) = none := fun thread => congrArg unreported (outside thread)
    rw [partitioned.total none, partitioned.last, add_sub_cancel_left]

theorem unchanged (partitioned : Partitioned startTime state)
    (fields : (next.intervalInNanoSeconds, next.lastStatsTime, next.elapsedTotal, next.reported) =
      (state.intervalInNanoSeconds, state.lastStatsTime, state.elapsedTotal, state.reported))
    (same : ∀ thread, unreported (next.phase thread) = unreported (state.phase thread)) :
    Partitioned startTime next := by
  simp only [Prod.mk.injEq] at fields
  obtain ⟨interval, last, total, reported⟩ := fields
  refine ⟨?_, ?_, ?_, ?_, ?_, ?_⟩
  · rw [reported]; exact partitioned.chained
  · rw [reported, last]; exact partitioned.last
  · rw [reported]; exact partitioned.ordered
  · rw [reported, interval]; exact partitioned.due
  · intro none
    rw [total, last]
    exact partitioned.total fun thread => (same thread).symm.trans (none thread)
  · intro thread now awaits
    have pending := partitioned.pending thread now ((same thread).symm.trans awaits)
    refine ⟨?_, ?_, ?_, ?_⟩
    · rw [last]; exact pending.ordered
    · rw [interval, last]; exact pending.due
    · rw [total]; exact pending.total
    · intro other different
      exact (same other).trans (pending.only other different)

variable [DecidableEq T]

theorem unreported_moved {thread : T} {phase : ReportPhase}
    (same : unreported phase = unreported (state.phase thread)) (other : T) :
    unreported (Function.update state.phase thread phase other) = unreported (state.phase other) := by
  by_cases own : other = thread
  · rw [own, Function.update_self, same]
  · rw [Function.update_of_ne own]

theorem added {thread : T} {now : ℤ} (partitioned : Partitioned startTime state)
    (own : state.elapsedInterval = now - state.lastStatsTime) (ordered : state.lastStatsTime ≤ now)
    (due : state.intervalInNanoSeconds ≤ state.elapsedInterval)
    (none : ∀ other, unreported (state.phase other) = none) :
    Partitioned startTime { state.move thread (.added now) with
      elapsedTotal := state.elapsedTotal + state.elapsedInterval } := by
  refine ⟨partitioned.chained, partitioned.last, partitioned.ordered, partitioned.due, ?_, ?_⟩
  · intro settled
    have awaits := settled thread
    dsimp only [move] at awaits
    rw [Function.update_self] at awaits
    cases awaits
  · intro other later awaits
    dsimp only [move] at awaits
    by_cases same : other = thread
    · subst same
      rw [Function.update_self] at awaits
      obtain rfl := Option.some.inj awaits
      refine ⟨ordered, own ▸ due, ?_, ?_⟩
      · have total := partitioned.total none
        dsimp only
        omega
      · intro another different
        dsimp only [move]
        rw [Function.update_of_ne different]
        exact none another
    · rw [Function.update_of_ne same, none other] at awaits
      cases awaits

theorem reported {thread : T} {now : ℤ} (partitioned : Partitioned startTime state)
    (phase : state.phase thread = .reporting now) :
    Partitioned startTime { state.move thread .clearing with
      reported := state.reported ++ [(state.lastStatsTime, now)]
      lastStatsTime := now } := by
  have pending : Pending startTime state thread now := partitioned.pending thread now (by rw [phase]; rfl)
  have sum : ((state.reported ++ [(state.lastStatsTime, now)]).map lasted).sum =
      (state.reported.map lasted).sum + (now - state.lastStatsTime) := by
    rw [List.map_append, List.sum_append, List.map_singleton, List.sum_singleton]
    rfl
  refine ⟨?_, ?_, ?_, ?_, ?_, ?_⟩
  · rw [List.map_append]
    exact partitioned.chained.concat partitioned.last (add_sub_cancel _ _).symm
  · have last := partitioned.last
    dsimp only
    omega
  · have own : 0 ≤ lasted (state.lastStatsTime, now) := sub_nonneg.mpr pending.ordered
    exact List.forall_mem_append.mpr ⟨partitioned.ordered, List.forall_mem_singleton.mpr own⟩
  · exact List.forall_mem_append.mpr ⟨partitioned.due, List.forall_mem_singleton.mpr pending.due⟩
  · exact fun _ => pending.total
  · intro other later awaits
    dsimp only [move] at awaits
    by_cases same : other = thread
    · rw [same, Function.update_self] at awaits
      cases awaits
    · rw [Function.update_of_ne same, pending.only other same] at awaits
      cases awaits

theorem step [Fintype T] {label : ReportStep T} (partitioned : Partitioned startTime state)
    (meets : AddsOwnInterval state label = true) (stepped : state.step label = some next) :
    Partitioned startTime next := by
  cases label with
  | readClock thread now =>
    obtain ⟨⟨outside, -⟩, result⟩ := Option.ite_none_right_eq_some.mp stepped
    obtain rfl := Option.some.inj result
    exact partitioned.unchanged rfl (unreported_moved (congrArg unreported outside).symm)
  | storeElapsed thread =>
    unfold ReportingStats.step at stepped
    dsimp only at stepped
    cases phase : state.phase thread with
    | clockRead now =>
      rw [phase] at stepped
      obtain rfl := Option.some.inj stepped
      exact partitioned.unchanged rfl (unreported_moved (congrArg unreported phase).symm)
    | outside | stored _ | due _ | added _ | reporting _ | clearing => rw [phase] at stepped; cases stepped
  | compare thread =>
    unfold ReportingStats.step at stepped
    dsimp only at stepped
    cases phase : state.phase thread with
    | stored now =>
      rw [phase] at stepped
      obtain rfl := Option.some.inj stepped
      refine partitioned.unchanged rfl (unreported_moved ?_)
      rw [phase]
      split <;> rfl
    | outside | clockRead _ | due _ | added _ | reporting _ | clearing => rw [phase] at stepped; cases stepped
  | addElapsed thread =>
    unfold ReportingStats.step at stepped
    unfold AddsOwnInterval at meets
    dsimp only at stepped meets
    cases phase : state.phase thread with
    | due now =>
      rw [phase] at stepped meets
      obtain rfl := Option.some.inj stepped
      obtain ⟨own, ordered, due, none⟩ := of_decide_eq_true meets
      exact partitioned.added own ordered due none
    | outside | clockRead _ | stored _ | added _ | reporting _ | clearing => rw [phase] at stepped; cases stepped
  | compareAndSet thread =>
    have free : state.ongoingReport = false := Bool.not_eq_true' _ ▸ meets
    unfold ReportingStats.step at stepped
    dsimp only at stepped
    cases phase : state.phase thread with
    | added now =>
      rw [phase, free] at stepped
      obtain rfl := Option.some.inj stepped
      exact partitioned.unchanged rfl (unreported_moved (congrArg unreported phase).symm)
    | outside | clockRead _ | stored _ | due _ | reporting _ | clearing => rw [phase] at stepped; cases stepped
  | reportAndReset thread =>
    unfold ReportingStats.step at stepped
    dsimp only at stepped
    cases phase : state.phase thread with
    | reporting now =>
      rw [phase] at stepped
      obtain rfl := Option.some.inj stepped
      exact partitioned.reported phase
    | outside | clockRead _ | stored _ | due _ | added _ | clearing => rw [phase] at stepped; cases stepped
  | clearFlag thread =>
    unfold ReportingStats.step at stepped
    dsimp only at stepped
    cases phase : state.phase thread with
    | clearing =>
      rw [phase] at stepped
      obtain rfl := Option.some.inj stepped
      exact partitioned.unchanged rfl (unreported_moved (congrArg unreported phase).symm)
    | outside | clockRead _ | stored _ | due _ | added _ | reporting _ => rw [phase] at stepped; cases stepped

end Partitioned

/-- The reports partition the time in every run in which each thread adds just the interval that it will report. -/
theorem reports_partition_time [DecidableEq T] [Fintype T] {interval startTime : ℤ} {steps : List (ReportStep T)}
    {final : ReportingStats T}
    (executed : run (restrict AddsOwnInterval ReportingStats.step) (ReportingStats.initial interval startTime) steps =
      some final) : PartitionsTime startTime final := by
  have partitioned : Partitioned startTime final := by
    refine run_invariant (Partitioned startTime) ?_ ?_ executed
    · intro state label next partitioned stepped
      obtain ⟨meets, stepped⟩ := restrict_some.mp stepped
      exact partitioned.step meets stepped
    · exact Partitioned.initial interval startTime
  exact partitioned.partitionsTime

def overlappingCalls : List (ReportStep Bool) :=
  untilAdded true 10 ++ [.readClock false 12] ++ afterAdded true ++ [.storeElapsed false, .compare false] ++
    untilAdded true 25 ++ afterAdded true

theorem overlapping_calls_partition_time :
    ∃ final, run (restrict AddsOwnInterval ReportingStats.step) (ReportingStats.initial 10 0) overlappingCalls =
        some final ∧ final.reported = [(0, 10), (10, 25)] ∧ PartitionsTime 0 final := by
  cases executed : run (restrict AddsOwnInterval ReportingStats.step) (ReportingStats.initial 10 0)
      overlappingCalls with
  | none => exact absurd (congrArg Option.isSome executed) (by decide +kernel)
  | some final =>
    have reported : some [(0, 10), (10, 25)] = some final.reported :=
      congrArg (Option.map ReportingStats.reported) executed
    exact ⟨final, rfl, (Option.some.inj reported).symm, reports_partition_time executed⟩

def bothDue : List (ReportStep Bool) :=
  [.readClock true 10, .storeElapsed true, .compare true, .readClock false 11, .storeElapsed false, .compare false,
    .addElapsed true] ++ afterAdded true ++ [.addElapsed false] ++ afterAdded false

theorem interval_added_twice :
    ∃ final, run ReportingStats.step (ReportingStats.initial 10 0) bothDue = some final ∧
      (∀ thread, final.phase thread = .outside) ∧ final.reported = [(0, 10), (10, 11)] ∧ final.elapsedTotal = 22 ∧
      ¬ PartitionsTime 0 final := by
  refine ⟨_, rfl, ?_, rfl, rfl, ?_⟩
  · intro thread
    cases thread <;> rfl
  · intro partitions
    exact absurd (partitions.due (10, 11) (List.mem_cons_of_mem _ List.mem_cons_self)) (by decide)

end PerfTestProof
