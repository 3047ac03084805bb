import Mathlib.Data.Fintype.Card
import PerfTest.Metrics.RateGauges
import PerfTest.Systems.Runs

namespace PerfTestModel

/-- Where the call of the start listener for an agent is. The set adds the identifier, then counts it. Its size is a
    sum of counters read one after another, so it lies between what they count before and after. -/
inductive ListenerPhase where
  | idle
  | added
  | counted
  | sizing (lower : ℕ)
  | resetGlobals
  | publishedReset
  | receivedReset
  | timed (now : ℤ)
  | returned (reset : Bool)
  deriving DecidableEq, Repr

inductive ClosingPhase where
  | running
  | closed
  | timed (now : ℤ)
  | elapsed (elapsedDuration : ℤ)
  | publishedRead (elapsedDuration : ℤ) (publishedTotal : ℕ)
  | printed (elapsedDuration : ℤ) (publishedTotal receivedTotal : ℕ)
  deriving DecidableEq, Repr

structure FinalTotals (Agent : Type) where
  starts : Finset Agent
  size : ℕ
  phase : Agent → ListenerPhase
  publishedTotal : ℕ
  receivedTotal : ℕ
  startTimeForTotal : ℤ
  clock : ℤ
  started : Bool
  closing : ClosingPhase

inductive TotalsStep (Agent : Type) where
  | published
  | received
  | pass (nanoseconds : ℕ)
  | add (agent : Agent)
  | count (agent : Agent)
  | beginSize (agent : Agent)
  | readSize (agent : Agent) (size : ℕ)
  | resetPublished (agent : Agent)
  | resetReceived (agent : Agent)
  | readTime (agent : Agent)
  | resetStartTime (agent : Agent)
  | close
  | readNow
  | readStartTime
  | readPublished
  | readReceived
  deriving DecidableEq, Repr

structure MetricsSummary where
  elapsedDuration : ℤ
  ratePublished : ℚ
  rateReceived : ℚ
  deriving DecidableEq, Repr

namespace FinalTotals

variable {Agent : Type}

def initial (now : ℤ) : FinalTotals Agent := ⟨∅, 0, fun _ => .idle, 0, 0, now, now, true, .running⟩

def printFinal (elapsedDuration : ℤ) (publishedTotal receivedTotal : ℕ) : MetricsSummary :=
  let elapsed := Java.toMillis elapsedDuration
  ⟨elapsedDuration, RateGauge.rate publishedTotal elapsed, RateGauge.rate receivedTotal elapsed⟩

def summary (totals : FinalTotals Agent) : Option MetricsSummary :=
  match totals.closing with
  | .printed elapsedDuration publishedTotal receivedTotal =>
    some (printFinal elapsedDuration publishedTotal receivedTotal)
  | _ => none

variable [DecidableEq Agent]

def move (totals : FinalTotals Agent) (agent : Agent) (phase : ListenerPhase) : FinalTotals Agent :=
  { totals with phase := Function.update totals.phase agent phase }

def step (agentCount : ℕ) (totals : FinalTotals Agent) : TotalsStep Agent → Option (FinalTotals Agent)
  | .published => some { totals with publishedTotal := totals.publishedTotal + 1 }
  | .received => some { totals with receivedTotal := totals.receivedTotal + 1 }
  | .pass nanoseconds => some { totals with clock := totals.clock + nanoseconds }
  | .add agent =>
    if totals.phase agent = .idle then
      if agent ∈ totals.starts then some (totals.move agent (.returned false))
      else some { totals.move agent .added with starts := insert agent totals.starts }
    else none
  | .count agent =>
    if totals.phase agent = .added then some { totals.move agent .counted with size := totals.size + 1 } else none
  | .beginSize agent =>
    if totals.phase agent = .counted then some (totals.move agent (.sizing totals.size)) else none
  | .readSize agent size =>
    match totals.phase agent with
    | .sizing lower =>
      if lower ≤ size ∧ size ≤ totals.size then
        some (totals.move agent (if size = agentCount then .resetGlobals else .returned false))
      else none
    | _ => none
  | .resetPublished agent =>
    if totals.phase agent = .resetGlobals then some { totals.move agent .publishedReset with publishedTotal := 0 }
    else none
  | .resetReceived agent =>
    if totals.phase agent = .publishedReset then some { totals.move agent .receivedReset with receivedTotal := 0 }
    else none
  | .readTime agent =>
    if totals.phase agent = .receivedReset then some (totals.move agent (.timed totals.clock)) else none
  | .resetStartTime agent =>
    match totals.phase agent with
    | .timed now => some { totals.move agent (.returned true) with startTimeForTotal := now }
    | _ => none
  | .close => some (if totals.started then { totals with started := false, closing := .closed } else totals)
  | .readNow =>
    if totals.closing = .closed then some { totals with closing := .timed totals.clock } else none
  | .readStartTime =>
    match totals.closing with
    | .timed now => some { totals with closing := .elapsed (now - totals.startTimeForTotal) }
    | _ => none
  | .readPublished =>
    match totals.closing with
    | .elapsed elapsedDuration =>
      some { totals with closing := .publishedRead elapsedDuration totals.publishedTotal }
    | _ => none
  | .readReceived =>
    match totals.closing with
    | .publishedRead elapsedDuration publishedTotal =>
      some { totals with closing := .printed elapsedDuration publishedTotal totals.receivedTotal }
    | _ => none

end FinalTotals

end PerfTestModel

namespace PerfTestProof

open PerfTestModel PerfTestModel.FinalTotals Systems

variable {Agent : Type}

def resetStage : ListenerPhase → ℕ
  | .resetGlobals => 1
  | .publishedReset => 2
  | .receivedReset => 3
  | .timed _ => 4
  | .returned true => 5
  | _ => 0

def CountedPhase (phase : ListenerPhase) : Prop := phase ≠ .idle ∧ phase ≠ .added

def Finds (agentCount : ℕ) (phase : ListenerPhase) : Prop :=
  phase = .counted ∨ phase = .sizing agentCount ∨ 0 < resetStage phase

instance (phase : ListenerPhase) : Decidable (CountedPhase phase) := inferInstanceAs (Decidable (_ ∧ _))

theorem counted_of_stage {phase : ListenerPhase} (resets : 0 < resetStage phase) : CountedPhase phase := by
  constructor <;> rintro rfl <;> exact absurd resets (Nat.lt_irrefl 0)

section Moves

variable [DecidableEq Agent]

inductive ListenerMove (agentCount : ℕ) (label : TotalsStep Agent) (totals next : FinalTotals Agent) : Prop where
  | same (phase : next.phase = totals.phase) (starts : next.starts = totals.starts) (size : next.size = totals.size)
  | repeated (agent : Agent) (idle : totals.phase agent = .idle) (member : agent ∈ totals.starts)
  | added (agent : Agent) (label_eq : label = .add agent) (idle : totals.phase agent = .idle)
    (phase : next.phase = Function.update totals.phase agent .added) (starts : next.starts = insert agent totals.starts)
    (size : next.size = totals.size)
  | counted (agent : Agent) (before : totals.phase agent = .added)
    (phase : next.phase = Function.update totals.phase agent .counted) (starts : next.starts = totals.starts)
    (size : next.size = totals.size + 1)
  | later (agent : Agent) (after : ListenerPhase) (before : CountedPhase (totals.phase agent))
    (unreturned : ∀ reset, totals.phase agent ≠ .returned reset) (counted : CountedPhase after)
    (phase : next.phase = Function.update totals.phase agent after) (starts : next.starts = totals.starts)
    (size : next.size = totals.size) (lower : ∀ lower, after = .sizing lower → lower ≤ totals.size)
    (resets : 0 < resetStage after → 0 < resetStage (totals.phase agent) ∨ agentCount ≤ totals.size)
    (finds : totals.size = agentCount → Finds agentCount (totals.phase agent) → Finds agentCount after)

variable {agentCount : ℕ} {totals next : FinalTotals Agent} {label : TotalsStep Agent}

theorem ListenerMove.resetting {agent : Agent} {after : ListenerPhase} (before : 0 < resetStage (totals.phase agent))
    (unreturned : ∀ reset, totals.phase agent ≠ .returned reset) (resets : 0 < resetStage after)
    (phase : next.phase = Function.update totals.phase agent after)
    (starts : next.starts = totals.starts) (size : next.size = totals.size) :
    ListenerMove agentCount label totals next := by
  refine .later agent after (counted_of_stage before) unreturned (counted_of_stage resets) phase starts size ?_
    (fun _ => .inl before) (fun _ _ => .inr (.inr resets))
  rintro lower rfl
  exact absurd resets (Nat.lt_irrefl 0)

theorem listener_move (stepped : totals.step agentCount label = some next) :
    ListenerMove agentCount label totals next := by
  cases label with
  | published | received | pass nanoseconds =>
    obtain rfl := Option.some.inj stepped
    exact .same rfl rfl rfl
  | add agent =>
    obtain ⟨idle, result⟩ := Option.ite_none_right_eq_some.mp stepped
    by_cases member : agent ∈ totals.starts
    · exact .repeated agent idle member
    · rw [if_neg member] at result
      obtain rfl := Option.some.inj result
      exact .added agent rfl idle rfl rfl rfl
  | count agent =>
    obtain ⟨before, result⟩ := Option.ite_none_right_eq_some.mp stepped
    obtain rfl := Option.some.inj result
    exact .counted agent before rfl rfl rfl
  | beginSize agent =>
    obtain ⟨before, result⟩ := Option.ite_none_right_eq_some.mp stepped
    obtain rfl := Option.some.inj result
    refine .later agent (.sizing totals.size) (by rw [before]; decide) (by simp [before]) (by constructor <;> simp)
      rfl rfl rfl ?_ ?_ ?_
    · intro lower same
      exact (ListenerPhase.sizing.inj same).symm.le
    · intro resets
      exact absurd resets (Nat.lt_irrefl 0)
    · intro all _
      exact .inr (.inl (congrArg _ all))
  | readSize agent size =>
    simp only [FinalTotals.step] at stepped
    split at stepped
    next lower before =>
      obtain ⟨⟨above, below⟩, result⟩ := Option.ite_none_right_eq_some.mp stepped
      obtain rfl := Option.some.inj result
      refine .later agent _ (by rw [before]; constructor <;> simp) (by simp [before]) ?_ rfl rfl rfl ?_ ?_ ?_
      · split <;> decide
      · intro lower same
        split at same <;> cases same
      · split
        next all => exact fun _ => .inr (all ▸ below)
        next => exact fun resets => absurd resets (Nat.lt_irrefl 0)
      · intro all finds
        have least : lower = agentCount := by
          rw [before] at finds
          rcases finds with impossible | same | impossible
          · cases impossible
          · exact ListenerPhase.sizing.inj same
          · exact absurd impossible (Nat.lt_irrefl 0)
        rw [if_pos (by omega)]
        exact .inr (.inr (Nat.zero_lt_one))
    next => cases stepped
  | resetPublished agent | resetReceived agent | readTime agent =>
    obtain ⟨before, result⟩ := Option.ite_none_right_eq_some.mp stepped
    obtain rfl := Option.some.inj result
    refine ListenerMove.resetting (before ▸ by decide) (by simp [before]) ?_ rfl rfl rfl
    simp [resetStage]
  | resetStartTime agent =>
    simp only [FinalTotals.step] at stepped
    split at stepped
    next now before =>
      obtain rfl := Option.some.inj stepped
      exact ListenerMove.resetting (by simp [before, resetStage]) (by simp [before]) (by decide) rfl rfl rfl
    next => cases stepped
  | close =>
    obtain rfl := Option.some.inj stepped
    split <;> exact .same rfl rfl rfl
  | readNow =>
    obtain ⟨_, result⟩ := Option.ite_none_right_eq_some.mp stepped
    obtain rfl := Option.some.inj result
    exact .same rfl rfl rfl
  | readStartTime | readPublished | readReceived =>
    simp only [FinalTotals.step] at stepped
    split at stepped
    · obtain rfl := Option.some.inj stepped
      exact .same rfl rfl rfl
    · cases stepped

end Moves

section Listening

variable [Fintype Agent]

def countedAgents (totals : FinalTotals Agent) : Finset Agent :=
  Finset.univ.filter fun agent => CountedPhase (totals.phase agent)

structure Listening (totals : FinalTotals Agent) : Prop where
  starts : ∀ agent, agent ∈ totals.starts ↔ totals.phase agent ≠ .idle
  size : totals.size = (countedAgents totals).card
  lower : ∀ agent lower, totals.phase agent = .sizing lower → lower ≤ totals.size
  resets : ∀ agent, 0 < resetStage (totals.phase agent) → Fintype.card Agent ≤ totals.size
  finds : totals.size = Fintype.card Agent → ∃ agent, Finds (Fintype.card Agent) (totals.phase agent)

theorem Listening.initial [Nonempty Agent] (now : ℤ) : Listening (FinalTotals.initial now : FinalTotals Agent) := by
  have none : countedAgents (FinalTotals.initial now : FinalTotals Agent) = ∅ :=
    Finset.filter_eq_empty_iff.mpr fun agent _ counted => counted.1 rfl
  refine ⟨fun agent => ?_, ?_, fun agent lower sizing => ?_, fun agent resets => ?_, fun all => ?_⟩
  · exact iff_of_false (Finset.notMem_empty agent) (not_not.mpr rfl)
  · rw [none]
    rfl
  · cases sizing
  · exact absurd resets (Nat.lt_irrefl 0)
  · exact absurd all.symm Fintype.card_ne_zero

variable {totals next : FinalTotals Agent}

theorem Listening.all_counted (listening : Listening totals) (all : Fintype.card Agent ≤ totals.size) (agent : Agent) :
    CountedPhase (totals.phase agent) := by
  have whole : countedAgents totals = Finset.univ :=
    Finset.eq_univ_of_card _ (le_antisymm (Finset.card_le_univ _) (listening.size ▸ all))
  have member : agent ∈ countedAgents totals := whole ▸ Finset.mem_univ agent
  exact (Finset.mem_filter.mp member).2

theorem Listening.congr (listening : Listening totals) (phase : next.phase = totals.phase)
    (starts : next.starts = totals.starts) (size : next.size = totals.size) : Listening next := by
  have counted : countedAgents next = countedAgents totals := by
    unfold countedAgents
    rw [phase]
  refine ⟨?_, ?_, ?_, ?_, ?_⟩
  · rw [phase, starts]
    exact listening.starts
  · rw [counted, size]
    exact listening.size
  · rw [phase, size]
    exact listening.lower
  · rw [phase, size]
    exact listening.resets
  · rw [phase, size]
    exact listening.finds

variable [DecidableEq Agent] {agent : Agent} {after : ListenerPhase}

theorem counted_kept (same : CountedPhase after ↔ CountedPhase (totals.phase agent))
    (phase : next.phase = Function.update totals.phase agent after) : countedAgents next = countedAgents totals := by
  refine Finset.filter_congr fun other _ => ?_
  rw [phase]
  by_cases own : other = agent
  · rw [own, Function.update_self, same]
  · rw [Function.update_of_ne own]

theorem counted_insert (counted : CountedPhase after) (phase : next.phase = Function.update totals.phase agent after) :
    countedAgents next = insert agent (countedAgents totals) := by
  ext other
  unfold countedAgents
  rw [Finset.mem_insert, Finset.mem_filter, Finset.mem_filter, phase]
  by_cases own : other = agent
  · simp [own, counted]
  · simp [own]

theorem Listening.added (listening : Listening totals) (idle : totals.phase agent = .idle)
    (phase : next.phase = Function.update totals.phase agent .added) (starts : next.starts = insert agent totals.starts)
    (size : next.size = totals.size) : Listening next := by
  have uncounted : ¬CountedPhase ListenerPhase.added := fun counted => counted.2 rfl
  have notAll : ¬Fintype.card Agent ≤ totals.size := fun all => (listening.all_counted all agent).1 idle
  refine ⟨fun other => ?_, ?_, fun other lower sizing => ?_, fun other resets => ?_, fun all => ?_⟩
  · rw [phase, starts, Finset.mem_insert, listening.starts other]
    by_cases own : other = agent
    · simp [own]
    · simp [own]
  · rw [size, listening.size, counted_kept (iff_of_false uncounted ?_) phase]
    rw [idle]
    exact fun counted => counted.1 rfl
  · rw [size]
    rw [phase] at sizing
    by_cases own : other = agent
    · simp [own] at sizing
    · rw [Function.update_of_ne own] at sizing
      exact listening.lower other lower sizing
  · rw [size]
    rw [phase] at resets
    by_cases own : other = agent
    · simp [own, resetStage] at resets
    · rw [Function.update_of_ne own] at resets
      exact listening.resets other resets
  · rw [size] at all
    exact absurd all.ge notAll

theorem Listening.counted (listening : Listening totals) (before : totals.phase agent = .added)
    (phase : next.phase = Function.update totals.phase agent .counted) (starts : next.starts = totals.starts)
    (size : next.size = totals.size + 1) : Listening next := by
  have notAll : ¬Fintype.card Agent ≤ totals.size := fun all => (listening.all_counted all agent).2 before
  refine ⟨fun other => ?_, ?_, fun other lower sizing => ?_, fun other resets => ?_, fun _ => ⟨agent, ?_⟩⟩
  · rw [phase, starts, listening.starts other]
    by_cases own : other = agent
    · simp [own, before]
    · simp [own]
  · have new : agent ∉ countedAgents totals := fun member => (Finset.mem_filter.mp member).2.2 before
    rw [counted_insert (by decide) phase, Finset.card_insert_of_notMem new, size, listening.size]
  · rw [phase] at sizing
    by_cases own : other = agent
    · simp [own] at sizing
    · rw [Function.update_of_ne own] at sizing
      have least := listening.lower other lower sizing
      omega
  · rw [phase] at resets
    by_cases own : other = agent
    · simp [own, resetStage] at resets
    · rw [Function.update_of_ne own] at resets
      exact absurd (listening.resets other resets) notAll
  · rw [phase, Function.update_self]
    exact .inl rfl

theorem Listening.later (listening : Listening totals) (before : CountedPhase (totals.phase agent))
    (counted : CountedPhase after)
    (phase : next.phase = Function.update totals.phase agent after) (starts : next.starts = totals.starts)
    (size : next.size = totals.size) (lower : ∀ lower, after = .sizing lower → lower ≤ totals.size)
    (resets : 0 < resetStage after → 0 < resetStage (totals.phase agent) ∨ Fintype.card Agent ≤ totals.size)
    (finds : totals.size = Fintype.card Agent → Finds (Fintype.card Agent) (totals.phase agent) →
      Finds (Fintype.card Agent) after) : Listening next := by
  refine ⟨fun other => ?_, ?_, fun other least sizing => ?_, fun other advanced => ?_, fun all => ?_⟩
  · rw [phase, starts, listening.starts other]
    by_cases own : other = agent
    · simp [own, before.1, counted.1]
    · simp [own]
  · rw [size, listening.size, counted_kept (iff_of_true counted before) phase]
  · rw [size]
    rw [phase] at sizing
    by_cases own : other = agent
    · rw [own, Function.update_self] at sizing
      exact lower least sizing
    · rw [Function.update_of_ne own] at sizing
      exact listening.lower other least sizing
  · rw [size]
    rw [phase] at advanced
    by_cases own : other = agent
    · rw [own, Function.update_self] at advanced
      exact (resets advanced).elim (listening.resets agent) id
    · rw [Function.update_of_ne own] at advanced
      exact listening.resets other advanced
  · rw [size] at all
    obtain ⟨finder, found⟩ := listening.finds all
    refine ⟨finder, ?_⟩
    rw [phase]
    by_cases own : finder = agent
    · rw [own] at found ⊢
      rw [Function.update_self]
      exact finds all found
    · rw [Function.update_of_ne own]
      exact found

theorem Listening.step {label : TotalsStep Agent} (listening : Listening totals)
    (stepped : totals.step (Fintype.card Agent) label = some next) : Listening next := by
  cases listener_move stepped with
  | same phase starts size => exact listening.congr phase starts size
  | repeated agent idle member => exact absurd idle ((listening.starts agent).mp member)
  | added agent label_eq idle phase starts size => exact listening.added idle phase starts size
  | counted agent before phase starts size => exact listening.counted before phase starts size
  | later agent after before unreturned counted phase starts size lower resets finds =>
    exact listening.later before counted phase starts size lower resets finds

end Listening

end PerfTestProof
