import Mathlib.Data.Fintype.Card
import PerfTest.Metrics.ExpectedRates
import PerfTest.Systems.Runs

namespace PerfTestModel

inductive StartPhase
  | idle
  | started
  | counted (producers : ℤ)
  | calculated (producers : ℤ) (rate : ℚ)
  | finished
  deriving DecidableEq, Repr

inductive StartThread (P : Type)
  | producer (producer : P)
  | scheduler
  deriving DecidableEq, Repr

inductive StartStep (P : Type)
  | increment (producer : P)
  | changeRate (rate : ℚ)
  | readProducers (thread : StartThread P)
  | readRate (thread : StartThread P)
  | store (thread : StartThread P)
  deriving DecidableEq, Repr

structure StartingProducers (P : Type) where
  producers : ℤ
  rate : ℚ
  gauge : Option ℚ
  phase : StartThread P → StartPhase

namespace StartingProducers

variable {P : Type}

def initial (rate : ℚ) : StartingProducers P := ⟨0, rate, some 0, fun _ => .idle⟩

def afterStore : StartThread P → StartPhase
  | .producer _ => .finished
  | .scheduler => .idle

variable [DecidableEq P]

def move (state : StartingProducers P) (thread : StartThread P) (phase : StartPhase) : StartingProducers P :=
  { state with phase := Function.update state.phase thread phase }

def step (state : StartingProducers P) : StartStep P → Option (StartingProducers P)
  | .increment producer =>
    if state.phase (.producer producer) = .idle then
      some { state.move (.producer producer) .started with producers := Java.int (state.producers + 1) }
    else none
  | .changeRate rate =>
    if state.phase .scheduler = .idle then some { state.move .scheduler .started with rate := rate } else none
  | .readProducers thread =>
    if state.phase thread = .started then some (state.move thread (.counted state.producers)) else none
  | .readRate thread =>
    match state.phase thread with
    | .counted producers => some (state.move thread (.calculated producers state.rate))
    | _ => none
  | .store thread =>
    match state.phase thread with
    | .calculated producers rate =>
      some { state.move thread (afterStore thread) with
        gauge := ExpectedMetrics.publishingRateCalculation none rate producers }
    | _ => none

def Unfinished (state : StartingProducers P) : StartThread P → Bool
  | .producer producer => state.phase (.producer producer) ≠ .finished
  | .scheduler => state.phase .scheduler ≠ .idle

end StartingProducers

end PerfTestModel

namespace PerfTestProof

open PerfTestModel PerfTestModel.StartingProducers Systems

variable {P : Type}

def StoresCurrent [DecidableEq P] [Fintype P] (state : StartingProducers P) : StartStep P → Bool
  | .increment _ => state.producers ≠ 2 ^ 31 - 1
  | .store thread =>
    state.phase thread = .calculated state.producers state.rate ||
      (thread ≠ .scheduler && state.Unfinished .scheduler) ||
      decide (∃ producer : P, StartThread.producer producer ≠ thread ∧ state.Unfinished (.producer producer) = true)
  | _ => true

section Moves

variable {state next : StartingProducers P} {thread other : StartThread P} {phase : StartPhase}

theorem unfinished_congr (same : next.phase thread = state.phase thread) :
    next.Unfinished thread = state.Unfinished thread := by
  cases thread with
  | producer producer => exact congrArg (fun phase => decide (phase ≠ StartPhase.finished)) same
  | scheduler => exact congrArg (fun phase => decide (phase ≠ StartPhase.idle)) same

variable [DecidableEq P]

theorem unfinished_moved (moved : next.phase = Function.update state.phase thread phase) (notIdle : phase ≠ .idle)
    (notFinished : phase ≠ .finished) : next.Unfinished thread = true := by
  have own : next.phase thread = phase := by rw [moved, Function.update_self]
  cases thread with
  | producer producer => exact decide_eq_true (own ▸ notFinished)
  | scheduler => exact decide_eq_true (own ▸ notIdle)

theorem unfinished_other (moved : next.phase = Function.update state.phase thread phase) (different : other ≠ thread) :
    next.Unfinished other = state.Unfinished other :=
  unfinished_congr (by rw [moved, Function.update_of_ne different])

end Moves

section Counting

variable [Fintype P] {state next : StartingProducers P}

def countedProducers (state : StartingProducers P) : Finset P :=
  Finset.univ.filter fun producer => state.phase (.producer producer) ≠ .idle

structure Exact (state : StartingProducers P) : Prop where
  counter : state.producers = (countedProducers state).card
  bound : state.producers < 2 ^ 31
  gauge : (∃ thread, state.Unfinished thread = true) ∨ state.gauge = some (state.producers * state.rate)

theorem counted_congr (same : ∀ producer, next.phase (.producer producer) = .idle ↔
    state.phase (.producer producer) = .idle) : countedProducers next = countedProducers state :=
  Finset.filter_congr fun producer _ => not_congr (same producer)

variable [DecidableEq P]

theorem counted_increment {producer : P} (idle : state.phase (.producer producer) = .idle)
    (moved : next.phase = Function.update state.phase (.producer producer) .started) :
    (countedProducers next).card = (countedProducers state).card + 1 := by
  have inserted : countedProducers next = insert producer (countedProducers state) := by
    ext other
    unfold countedProducers
    rw [Finset.mem_insert, Finset.mem_filter, Finset.mem_filter, moved]
    by_cases same : other = producer
    · subst same
      rw [Function.update_self]
      simp
    · rw [Function.update_of_ne (fun equal => same (StartThread.producer.inj equal))]
      simp [same]
  rw [inserted, Finset.card_insert_of_notMem]
  unfold countedProducers
  rw [Finset.mem_filter]
  exact fun counted => counted.2 idle

omit [DecidableEq P] in
theorem Exact.initial (rate : ℚ) : Exact (StartingProducers.initial rate : StartingProducers P) := by
  refine ⟨?_, by show (0 : ℤ) < 2 ^ 31; decide, ?_⟩
  · have none : countedProducers (StartingProducers.initial rate : StartingProducers P) = ∅ :=
      Finset.filter_eq_empty_iff.mpr fun producer _ => not_not.mpr rfl
    rw [none]
    rfl
  · refine Or.inr (congrArg some ?_)
    show (0 : ℚ) = (0 : ℤ) * rate
    rw [Int.cast_zero, zero_mul]

/-- A move of a thread that has counted already, or of the scheduler, to another phase. -/
theorem Exact.counter_move (exact_ : Exact state) {thread : StartThread P} {phase : StartPhase}
    (moved : next.phase = Function.update state.phase thread phase)
    (counted : state.phase thread ≠ .idle ∧ phase ≠ .idle ∨ thread = .scheduler) :
    state.producers = (countedProducers next).card := by
  rw [exact_.counter, counted_congr]
  intro producer
  rw [moved]
  by_cases own : StartThread.producer producer = thread
  · rw [own, Function.update_self]
    rcases counted with ⟨before, after⟩ | scheduler
    · exact iff_of_false before after
    · cases own.trans scheduler
  · rw [Function.update_of_ne own]

/-- The threads that `StoresCurrent` asks for keep the invariant when an old value is stored. -/
theorem unfinished_or_current {thread : StartThread P} (current : StoresCurrent state (.store thread) = true) :
    state.phase thread = .calculated state.producers state.rate ∨
      ∃ other, other ≠ thread ∧ state.Unfinished other = true := by
  unfold StoresCurrent at current
  rw [Bool.or_eq_true, Bool.or_eq_true, Bool.and_eq_true, decide_eq_true_eq, decide_eq_true_eq, decide_eq_true_eq]
    at current
  rcases current with (upToDate | ⟨different, unfinished⟩) | ⟨producer, different, unfinished⟩
  · exact Or.inl upToDate
  · exact Or.inr ⟨.scheduler, different.symm, unfinished⟩
  · exact Or.inr ⟨.producer producer, different, unfinished⟩

theorem Exact.step (exact_ : Exact state) {label : StartStep P} (current : StoresCurrent state label = true)
    (stepped : state.step label = some next) : Exact next := by
  cases label with
  | increment producer =>
    obtain ⟨idle, result⟩ := Option.ite_none_right_eq_some.mp stepped
    obtain rfl := Option.some.inj result
    have noWrap : state.producers ≠ 2 ^ 31 - 1 := of_decide_eq_true current
    have lower : 0 ≤ state.producers := exact_.counter ▸ Int.natCast_nonneg _
    have next_ : Java.int (state.producers + 1) = state.producers + 1 :=
      (Java.int_succ (by omega) exact_.bound).mpr noWrap
    refine ⟨?_, ?_, Or.inl ⟨.producer producer, unfinished_moved rfl (by decide) (by decide)⟩⟩
    · rw [counted_increment idle rfl, Nat.cast_succ, ← exact_.counter]
      exact next_
    · have bound := exact_.bound
      show Java.int (state.producers + 1) < 2 ^ 31
      omega
  | changeRate rate =>
    obtain ⟨idle, result⟩ := Option.ite_none_right_eq_some.mp stepped
    obtain rfl := Option.some.inj result
    exact ⟨exact_.counter_move rfl (Or.inr rfl), exact_.bound,
      Or.inl ⟨.scheduler, unfinished_moved rfl (by decide) (by decide)⟩⟩
  | readProducers thread =>
    obtain ⟨started, result⟩ := Option.ite_none_right_eq_some.mp stepped
    obtain rfl := Option.some.inj result
    refine ⟨exact_.counter_move rfl (Or.inl ⟨?_, StartPhase.noConfusion⟩), exact_.bound,
      Or.inl ⟨thread, unfinished_moved rfl StartPhase.noConfusion StartPhase.noConfusion⟩⟩
    rw [started]
    exact StartPhase.noConfusion
  | readRate thread =>
    unfold StartingProducers.step at stepped
    dsimp only at stepped
    cases phase : state.phase thread with
    | counted producers =>
      rw [phase] at stepped
      obtain rfl := Option.some.inj stepped
      refine ⟨exact_.counter_move rfl (Or.inl ⟨?_, StartPhase.noConfusion⟩), exact_.bound,
        Or.inl ⟨thread, unfinished_moved rfl StartPhase.noConfusion StartPhase.noConfusion⟩⟩
      rw [phase]
      exact StartPhase.noConfusion
    | idle | started | calculated producers rate | finished =>
      rw [phase] at stepped
      cases stepped
  | store thread =>
    unfold StartingProducers.step at stepped
    dsimp only at stepped
    cases phase : state.phase thread with
    | calculated producers rate =>
      rw [phase] at stepped
      obtain rfl := Option.some.inj stepped
      refine ⟨exact_.counter_move rfl ?_, exact_.bound, ?_⟩
      · cases thread with
        | producer producer =>
          refine Or.inl ⟨?_, StartPhase.noConfusion⟩
          rw [phase]
          exact StartPhase.noConfusion
        | scheduler => exact Or.inr rfl
      · rcases unfinished_or_current current with upToDate | ⟨other, different, unfinished⟩
        · obtain ⟨rfl, rfl⟩ := StartPhase.calculated.inj (phase.symm.trans upToDate)
          exact Or.inr rfl
        · exact Or.inl ⟨other, (unfinished_other rfl different).trans unfinished⟩
    | idle | started | counted producers | finished =>
      rw [phase] at stepped
      cases stepped

def AllFinished (state : StartingProducers P) : Prop :=
  (∀ producer, state.phase (.producer producer) = .finished) ∧ state.phase .scheduler = .idle

/-- Once all have returned, the gauge is exact if the last value to be stored was current. -/
theorem expected_rate_exact {rate : ℚ} {steps : List (StartStep P)} {final : StartingProducers P}
    (executed : run (restrict StoresCurrent StartingProducers.step) (StartingProducers.initial rate) steps = some final)
    (returned : AllFinished final) : final.gauge = some (Fintype.card P * final.rate) := by
  have exact_ : Exact final := run_invariant Exact
    (fun state label next exact_ stepped => exact_.step (restrict_some.mp stepped).1 (restrict_some.mp stepped).2)
    (Exact.initial rate) executed
  have all : countedProducers final = Finset.univ := by
    refine Finset.filter_true_of_mem fun producer _ => ?_
    rw [returned.1 producer]
    exact StartPhase.noConfusion
  have counter : final.producers = Fintype.card P := by rw [exact_.counter, all, Finset.card_univ]
  rcases exact_.gauge with ⟨thread, unfinished⟩ | current
  · cases thread with
    | producer producer => exact absurd (returned.1 producer) (of_decide_eq_true unfinished)
    | scheduler => exact absurd returned.2 (of_decide_eq_true unfinished)
  · rw [current, counter, Int.cast_natCast]

end Counting

def calculateRate (producer : Bool) : List (StartStep Bool) :=
  [.increment producer, .readProducers (.producer producer), .readRate (.producer producer)]

/-- The first value is stored late, but before the second producer stores. -/
theorem second_store_corrects :
    (run (restrict StoresCurrent StartingProducers.step) (StartingProducers.initial 3)
      (calculateRate true ++ calculateRate false ++ [.store (.producer true), .store (.producer false)])).map
        (·.gauge) = some (some (2 * 3)) := by
  cases executed : run (restrict StoresCurrent StartingProducers.step) (StartingProducers.initial 3)
      (calculateRate true ++ calculateRate false ++ [.store (.producer true), .store (.producer false)]) with
  | none => exact absurd (congrArg Option.isSome executed) (by decide +kernel)
  | some final =>
    have phases : ∀ thread, some (StartingProducers.afterStore thread) = some (final.phase thread) := by
      rintro (producer | _)
      · cases producer
        · exact congrArg (Option.map fun state => state.phase (.producer false)) executed
        · exact congrArg (Option.map fun state => state.phase (.producer true)) executed
      · exact congrArg (Option.map fun state => state.phase .scheduler) executed
    have rate : some 3 = some final.rate := congrArg (Option.map StartingProducers.rate) executed
    have returned : AllFinished final :=
      ⟨fun producer => (Option.some.inj (phases (.producer producer))).symm,
        (Option.some.inj (phases .scheduler)).symm⟩
    rw [Option.map_some, expected_rate_exact executed returned, ← Option.some.inj rate]
    rfl

/-- The first producer stores its value after the second one: the gauge stays at one times the rate. -/
theorem stale_store_wins :
    ∃ final, run StartingProducers.step (StartingProducers.initial 3)
        (calculateRate true ++ calculateRate false ++ [.store (.producer false), .store (.producer true)]) =
          some final ∧
      AllFinished final ∧ final.gauge = some 3 ∧ final.gauge ≠ some (Fintype.card Bool * final.rate) := by
  refine ⟨_, rfl, ⟨fun producer => ?_, rfl⟩, ?_, ?_⟩
  · cases producer <;> rfl
  · decide +kernel
  · decide +kernel

end PerfTestProof
