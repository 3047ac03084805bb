import PerfTest.Metrics.StartListener

namespace PerfTestProof

open PerfTestModel PerfTestModel.FinalTotals Systems

variable {Agent : Type}

section Totals

def publications : TotalsStep Agent → ℕ
  | .published => 1
  | _ => 0

def receptions : TotalsStep Agent → ℕ
  | .received => 1
  | _ => 0

def timePassed : TotalsStep Agent → ℤ
  | .pass nanoseconds => nanoseconds
  | _ => 0

theorem timePassed_nonneg (label : TotalsStep Agent) : 0 ≤ timePassed label := by
  cases label <;> simp [timePassed]

def isReading : TotalsStep Agent → Bool
  | .readNow | .readStartTime | .readPublished | .readReceived => true
  | _ => false

variable [DecidableEq Agent] {agentCount : ℕ} {totals next : FinalTotals Agent} {label : TotalsStep Agent}

inductive TotalsMove (label : TotalsStep Agent) (totals next : FinalTotals Agent) : Prop where
  | kept (stages : ∀ agent, 1 < resetStage (next.phase agent) → next.phase agent = totals.phase agent)
    (published : next.publishedTotal = totals.publishedTotal + publications label)
    (received : next.receivedTotal = totals.receivedTotal + receptions label)
    (startTime : next.startTimeForTotal = totals.startTimeForTotal)
    (clock : next.clock = totals.clock + timePassed label)
  | published (agent : Agent) (before : totals.phase agent = .resetGlobals) (instant : timePassed label = 0)
    (next_eq : next = { totals.move agent .publishedReset with publishedTotal := 0 })
  | received (agent : Agent) (before : totals.phase agent = .publishedReset) (instant : timePassed label = 0)
    (next_eq : next = { totals.move agent .receivedReset with receivedTotal := 0 })
  | timed (agent : Agent) (before : totals.phase agent = .receivedReset) (instant : timePassed label = 0)
    (next_eq : next = totals.move agent (.timed totals.clock))
  | startTime (agent : Agent) (now : ℤ) (before : totals.phase agent = .timed now) (instant : timePassed label = 0)
    (next_eq : next = { totals.move agent (.returned true) with startTimeForTotal := now })

@[simp] theorem move_phase (agent : Agent) (phase : ListenerPhase) :
    (totals.move agent phase).phase = Function.update totals.phase agent phase := rfl

theorem stages_kept {agent other : Agent} {after : ListenerPhase} (early : resetStage after ≤ 1)
    (resets : 1 < resetStage ((totals.move agent after).phase other)) :
    (totals.move agent after).phase other = totals.phase other := by
  by_cases own : other = agent
  · rw [own, move_phase, Function.update_self] at resets
    omega
  · exact Function.update_of_ne own _ _

theorem totals_move (stepped : totals.step agentCount label = some next) : TotalsMove label totals next := by
  cases label with
  | published | received | pass nanoseconds =>
    obtain rfl := Option.some.inj stepped
    exact .kept (fun _ _ => rfl) rfl rfl rfl (by simp [timePassed])
  | add agent =>
    obtain ⟨_, result⟩ := Option.ite_none_right_eq_some.mp stepped
    split at result
    all_goals
      obtain rfl := Option.some.inj result
      exact .kept (fun other => stages_kept (by decide)) rfl rfl rfl (by simp [timePassed, move])
  | count agent | beginSize agent =>
    obtain ⟨_, result⟩ := Option.ite_none_right_eq_some.mp stepped
    obtain rfl := Option.some.inj result
    exact .kept (fun other => stages_kept (by simp [resetStage])) rfl rfl rfl (by simp [timePassed, move])
  | readSize agent size =>
    simp only [FinalTotals.step] at stepped
    split at stepped
    next lower before =>
      obtain ⟨_, result⟩ := Option.ite_none_right_eq_some.mp stepped
      obtain rfl := Option.some.inj result
      refine .kept (fun other => stages_kept ?_) rfl rfl rfl (by simp [timePassed, move])
      split <;> decide
    next => cases stepped
  | resetPublished agent =>
    obtain ⟨before, result⟩ := Option.ite_none_right_eq_some.mp stepped
    exact .published agent before rfl (Option.some.inj result).symm
  | resetReceived agent =>
    obtain ⟨before, result⟩ := Option.ite_none_right_eq_some.mp stepped
    exact .received agent before rfl (Option.some.inj result).symm
  | readTime agent =>
    obtain ⟨before, result⟩ := Option.ite_none_right_eq_some.mp stepped
    exact .timed agent before rfl (Option.some.inj result).symm
  | resetStartTime agent =>
    simp only [FinalTotals.step] at stepped
    split at stepped
    next now before => exact .startTime agent now before rfl (Option.some.inj stepped).symm
    next => cases stepped
  | close =>
    obtain rfl := Option.some.inj stepped
    split <;> exact .kept (fun _ _ => rfl) rfl rfl rfl (by simp [timePassed])
  | readNow =>
    obtain ⟨_, result⟩ := Option.ite_none_right_eq_some.mp stepped
    obtain rfl := Option.some.inj result
    exact .kept (fun _ _ => rfl) rfl rfl rfl (by simp [timePassed])
  | readStartTime | readPublished | readReceived =>
    simp only [FinalTotals.step] at stepped
    split at stepped
    · obtain rfl := Option.some.inj stepped
      exact .kept (fun _ _ => rfl) rfl rfl rfl (by simp [timePassed])
    · cases stepped

def Within (stage : ℕ) (total : FinalTotals Agent → ℕ) (totals : FinalTotals Agent) (counted : ℕ) : Prop :=
  ∀ agent, stage ≤ resetStage (totals.phase agent) → total totals ≤ counted

omit [DecidableEq Agent] in
theorem Within.le_add {stage counted : ℕ} {total : FinalTotals Agent → ℕ} (within_ : Within stage total totals counted)
    (agent : Agent) (reached : stage ≤ resetStage (totals.phase agent)) (more : ℕ) : total totals ≤ counted + more :=
  (within_ agent reached).trans (Nat.le_add_right _ _)

theorem published_within {counted : ℕ} (within_ : Within 2 publishedTotal totals counted)
    (stepped : totals.step agentCount label = some next) :
    Within 2 publishedTotal next (counted + publications label) := by
  intro other resets
  cases totals_move stepped with
  | kept stages published =>
    rw [stages other resets] at resets
    have bound := within_ other resets
    omega
  | published agent before instant next_eq =>
    rw [next_eq]
    exact Nat.zero_le _
  | received agent before instant next_eq =>
    subst next_eq
    exact within_.le_add agent (by rw [before]; decide) _
  | timed agent before instant next_eq =>
    subst next_eq
    exact within_.le_add agent (by rw [before]; decide) _
  | startTime agent now before instant next_eq =>
    subst next_eq
    exact within_.le_add agent (by rw [before]; simp [resetStage]) _

theorem received_within {counted : ℕ} (within_ : Within 3 receivedTotal totals counted)
    (stepped : totals.step agentCount label = some next) :
    Within 3 receivedTotal next (counted + receptions label) := by
  intro other resets
  cases totals_move stepped with
  | kept stages published received =>
    rw [stages other (by omega)] at resets
    have bound := within_ other resets
    omega
  | published agent before instant next_eq =>
    subst next_eq
    have different : other ≠ agent := by
      rintro rfl
      simp [resetStage] at resets
    exact within_.le_add other (by simpa [different] using resets) _
  | received agent before instant next_eq =>
    rw [next_eq]
    exact Nat.zero_le _
  | timed agent before instant next_eq =>
    subst next_eq
    exact within_.le_add agent (by rw [before]; decide) _
  | startTime agent now before instant next_eq =>
    subst next_eq
    exact within_.le_add agent (by rw [before]; simp [resetStage]) _

structure TimedSince (early : ℤ) (totals : FinalTotals Agent) (passed : ℤ) : Prop where
  clock : totals.clock = early + passed
  later : early ≤ totals.clock
  timed : ∀ agent now, totals.phase agent = .timed now → early ≤ now ∧ now ≤ totals.clock
  reset : ∀ agent, totals.phase agent = .returned true →
    early ≤ totals.startTimeForTotal ∧ totals.startTimeForTotal ≤ totals.clock

/-- A call that moves on reads the present time, or a time that lies between already. -/
theorem TimedSince.moved {early passed : ℤ} {agent : Agent} {after : ListenerPhase}
    (since : TimedSince early totals passed)
    (phase : next.phase = Function.update totals.phase agent after) (clock : next.clock = totals.clock)
    (timed : ∀ now, after = .timed now → early ≤ now ∧ now ≤ totals.clock)
    (startTime : next.startTimeForTotal = totals.startTimeForTotal ∧ after ≠ .returned true ∨
      early ≤ next.startTimeForTotal ∧ next.startTimeForTotal ≤ totals.clock) : TimedSince early next passed := by
  refine ⟨clock ▸ since.clock, clock ▸ since.later, fun other now timedAt => ?_, fun other reset => ?_⟩
  · rw [clock]
    rw [phase] at timedAt
    by_cases own : other = agent
    · rw [own, Function.update_self] at timedAt
      exact timed now timedAt
    · rw [Function.update_of_ne own] at timedAt
      exact since.timed other now timedAt
  · rw [clock]
    rcases startTime with ⟨same, notReset⟩ | between
    · rw [phase] at reset
      by_cases own : other = agent
      · rw [own, Function.update_self] at reset
        exact absurd reset notReset
      · rw [Function.update_of_ne own] at reset
        rw [same]
        exact since.reset other reset
    · exact between

theorem timed_since {early passed : ℤ} (since : TimedSince early totals passed)
    (stepped : totals.step agentCount label = some next) : TimedSince early next (passed + timePassed label) := by
  have future := timePassed_nonneg label
  have clock := since.clock
  have later := since.later
  cases totals_move stepped with
  | kept stages published received startTime clockNext =>
    refine ⟨by omega, by omega, fun agent now timed => ?_, fun agent reset => ?_⟩
    · have same := stages agent (by rw [timed]; simp [resetStage])
      have bounds := since.timed agent now (same ▸ timed)
      omega
    · have same := stages agent (by rw [reset]; decide)
      have bounds := since.reset agent (same ▸ reset)
      omega
  | published agent before instant next_eq | received agent before instant next_eq =>
    subst next_eq
    rw [instant, add_zero]
    exact since.moved rfl rfl (fun _ => ListenerPhase.noConfusion) (.inl ⟨rfl, by decide⟩)
  | timed agent before instant next_eq =>
    subst next_eq
    rw [instant, add_zero]
    refine since.moved rfl rfl (fun now same => ?_) (.inl ⟨rfl, by simp⟩)
    obtain rfl := ListenerPhase.timed.inj same
    exact ⟨later, le_rfl⟩
  | startTime agent now before instant next_eq =>
    subst next_eq
    rw [instant, add_zero]
    exact since.moved rfl rfl (fun _ => ListenerPhase.noConfusion) (.inr (since.timed agent now before))

end Totals

section Reading

variable [DecidableEq Agent] {agentCount : ℕ} {totals next : FinalTotals Agent} {label : TotalsStep Agent}

def Undisturbed (totals : FinalTotals Agent) : Prop :=
  ∀ agent, resetStage (totals.phase agent) = 0 ∨ totals.phase agent = .returned true

theorem Undisturbed.kept (undisturbed : Undisturbed totals) (stepped : totals.step agentCount label = some next) :
    next.publishedTotal = totals.publishedTotal + publications label ∧
      next.receivedTotal = totals.receivedTotal + receptions label ∧
      next.startTimeForTotal = totals.startTimeForTotal ∧ next.clock = totals.clock + timePassed label := by
  have absent {agent : Agent} {phase : ListenerPhase} (before : totals.phase agent = phase)
      (resets : resetStage phase ≠ 0) (runs : phase ≠ .returned true) : False := by
    rcases undisturbed agent with zero | returned
    · exact resets (before ▸ zero)
    · exact runs (before ▸ returned)
  cases totals_move stepped with
  | kept stages published received startTime clock => exact ⟨published, received, startTime, clock⟩
  | published agent before => exact (absent before (by decide) (by decide)).elim
  | received agent before => exact (absent before (by decide) (by decide)).elim
  | timed agent before => exact (absent before (by decide) (by decide)).elim
  | startTime agent now before => exact (absent before (by simp [resetStage]) (by simp)).elim

inductive ClosingMove (label : TotalsStep Agent) (totals next : FinalTotals Agent) : Prop where
  | same (plain : isReading label = false) (closing : next.closing = totals.closing)
    (started : next.started = totals.started)
  | closed (plain : isReading label = false) (started : totals.started = true) (closing : next.closing = .closed)
    (stopped : next.started = false)
  | timed (label_eq : label = .readNow) (before : totals.closing = .closed)
    (closing : next.closing = .timed totals.clock) (started : next.started = totals.started)
  | elapsed (label_eq : label = .readStartTime) (now : ℤ) (before : totals.closing = .timed now)
    (closing : next.closing = .elapsed (now - totals.startTimeForTotal)) (started : next.started = totals.started)
  | published (label_eq : label = .readPublished) (elapsedDuration : ℤ)
    (before : totals.closing = .elapsed elapsedDuration)
    (closing : next.closing = .publishedRead elapsedDuration totals.publishedTotal)
    (started : next.started = totals.started)
  | received (label_eq : label = .readReceived) (elapsedDuration : ℤ) (publishedTotal : ℕ)
    (before : totals.closing = .publishedRead elapsedDuration publishedTotal)
    (closing : next.closing = .printed elapsedDuration publishedTotal totals.receivedTotal)
    (started : next.started = totals.started)

theorem closing_move (stepped : totals.step agentCount label = some next) : ClosingMove label totals next := by
  cases label with
  | published | received | pass nanoseconds =>
    obtain rfl := Option.some.inj stepped
    exact .same rfl rfl rfl
  | add agent =>
    obtain ⟨_, result⟩ := Option.ite_none_right_eq_some.mp stepped
    split at result
    all_goals
      obtain rfl := Option.some.inj result
      exact .same rfl rfl rfl
  | count agent | beginSize agent | resetPublished agent | resetReceived agent | readTime agent =>
    obtain ⟨_, result⟩ := Option.ite_none_right_eq_some.mp stepped
    obtain rfl := Option.some.inj result
    exact .same rfl rfl rfl
  | readSize agent size =>
    simp only [FinalTotals.step] at stepped
    split at stepped
    · obtain ⟨_, result⟩ := Option.ite_none_right_eq_some.mp stepped
      obtain rfl := Option.some.inj result
      exact .same rfl rfl rfl
    · cases stepped
  | resetStartTime agent =>
    simp only [FinalTotals.step] at stepped
    split at stepped
    · obtain rfl := Option.some.inj stepped
      exact .same rfl rfl rfl
    · cases stepped
  | close =>
    obtain rfl := Option.some.inj stepped
    split
    next started => exact .closed rfl started rfl rfl
    next => exact .same rfl rfl rfl
  | readNow =>
    obtain ⟨before, result⟩ := Option.ite_none_right_eq_some.mp stepped
    obtain rfl := Option.some.inj result
    exact .timed rfl before rfl rfl
  | readStartTime =>
    simp only [FinalTotals.step] at stepped
    split at stepped
    next now before =>
      obtain rfl := Option.some.inj stepped
      exact .elapsed rfl now before rfl rfl
    next => cases stepped
  | readPublished =>
    simp only [FinalTotals.step] at stepped
    split at stepped
    next elapsedDuration before =>
      obtain rfl := Option.some.inj stepped
      exact .published rfl elapsedDuration before rfl rfl
    next => cases stepped
  | readReceived =>
    simp only [FinalTotals.step] at stepped
    split at stepped
    next elapsedDuration publishedTotal before =>
      obtain rfl := Option.some.inj stepped
      exact .received rfl elapsedDuration publishedTotal before rfl rfl
    next => cases stepped

def fixedElapsed (totals : FinalTotals Agent) : Option ℤ :=
  match totals.closing with
  | .running | .closed => none
  | .timed now => some (now - totals.startTimeForTotal)
  | .elapsed elapsedDuration | .publishedRead elapsedDuration _ | .printed elapsedDuration _ _ => some elapsedDuration

def fixedPublished (totals : FinalTotals Agent) : Option ℕ :=
  match totals.closing with
  | .publishedRead _ publishedTotal | .printed _ publishedTotal _ => some publishedTotal
  | _ => none

def fixedReceived (totals : FinalTotals Agent) : Option ℕ :=
  match totals.closing with
  | .printed _ _ receivedTotal => some receivedTotal
  | _ => none

omit [DecidableEq Agent] in
theorem summary_fixed {summary : MetricsSummary} (printed : totals.summary = some summary) :
    ∃ elapsedDuration publishedTotal receivedTotal, fixedElapsed totals = some elapsedDuration ∧
      fixedPublished totals = some publishedTotal ∧ fixedReceived totals = some receivedTotal ∧
      summary = printFinal elapsedDuration publishedTotal receivedTotal := by
  unfold FinalTotals.summary at printed
  split at printed
  next elapsedDuration publishedTotal receivedTotal closing =>
    refine ⟨elapsedDuration, publishedTotal, receivedTotal, ?_, ?_, ?_, (Option.some.inj printed).symm⟩
    · rw [fixedElapsed, closing]
    · rw [fixedPublished, closing]
    · rw [fixedReceived, closing]
  next => cases printed

structure QuietTotals (totals : FinalTotals Agent) : Prop where
  undisturbed : Undisturbed totals
  running : totals.started = true → totals.closing = .running

theorem QuietTotals.running_next (quiet : totals.started = true → totals.closing = .running)
    (stepped : totals.step agentCount label = some next) : next.started = true → next.closing = .running := by
  intro started
  have before (same : next.started = totals.started) : totals.closing = .running := quiet (same ▸ started)
  cases closing_move stepped with
  | same plain closing same => exact closing.trans (before same)
  | closed plain was closing stopped => cases stopped.symm.trans started
  | timed label_eq was closing same => cases was.symm.trans (before same)
  | elapsed label_eq now was closing same => cases was.symm.trans (before same)
  | published label_eq elapsedDuration was closing same => cases was.symm.trans (before same)
  | received label_eq elapsedDuration publishedTotal was closing same => cases was.symm.trans (before same)

def ReadBy {Value : Type} (reading label : TotalsStep Agent) (value : Value) (fixed fixedNext : Option Value) : Prop :=
  ((label == reading) = false → fixedNext = fixed) ∧
    ((label == reading) = true → fixed = none ∧ fixedNext = some value)

theorem read_by_other {Value : Type} {reading : TotalsStep Agent} {value : Value} {fixed fixedNext : Option Value}
    (reads : isReading reading = true) (plain : isReading label = false) (same : fixedNext = fixed) :
    ReadBy reading label value fixed fixedNext := by
  refine ⟨fun _ => same, fun own => ?_⟩
  rw [eq_of_beq own, reads] at plain
  cases plain

theorem QuietTotals.reads (quiet : QuietTotals totals) (stepped : totals.step agentCount label = some next) :
    ReadBy .readNow label (totals.clock - totals.startTimeForTotal) (fixedElapsed totals) (fixedElapsed next) ∧
      ReadBy .readPublished label totals.publishedTotal (fixedPublished totals) (fixedPublished next) ∧
      ReadBy .readReceived label totals.receivedTotal (fixedReceived totals) (fixedReceived next) := by
  obtain ⟨_, _, startTime, _⟩ := quiet.undisturbed.kept stepped
  unfold fixedElapsed fixedPublished fixedReceived
  cases closing_move stepped with
  | same plain closing =>
    rw [closing, startTime]
    exact ⟨read_by_other rfl plain rfl, read_by_other rfl plain rfl, read_by_other rfl plain rfl⟩
  | closed plain started closing =>
    rw [closing, quiet.running started]
    exact ⟨read_by_other rfl plain rfl, read_by_other rfl plain rfl, read_by_other rfl plain rfl⟩
  | timed label_eq before closing =>
    rw [closing, before, label_eq, startTime]
    simp [ReadBy]
  | elapsed label_eq now before closing =>
    rw [closing, before, label_eq]
    simp [ReadBy]
  | published label_eq elapsedDuration before closing =>
    rw [closing, before, label_eq]
    simp [ReadBy]
  | received label_eq elapsedDuration publishedTotal before closing =>
    rw [closing, before, label_eq]
    simp [ReadBy]

def sumBefore {Weight : Type} [AddMonoid Weight] (weight : TotalsStep Agent → Weight) (reading : TotalsStep Agent)
    (steps : List (TotalsStep Agent)) : Weight :=
  ((steps.takeWhile fun step => !(step == reading)).map weight).sum

/-- While no call resets the totals, the summary adds to them what the steps count before it reads each. -/
theorem summary_adds (allowed : TotalsStep Agent → Prop) (invariant : FinalTotals Agent → Prop)
    (preserved : ∀ state label next, allowed label → invariant state → state.step agentCount label = some next →
      invariant next)
    (quiet : ∀ state, invariant state → QuietTotals state) {steps : List (TotalsStep Agent)}
    (each : ∀ step ∈ steps, allowed step) {final : FinalTotals Agent} {summary : MetricsSummary}
    (initial : invariant totals) (running : totals.closing = .running)
    (executed : run (step agentCount) totals steps = some final) (printed : final.summary = some summary) :
    summary = printFinal (totals.clock - totals.startTimeForTotal + sumBefore timePassed .readNow steps)
      (totals.publishedTotal + sumBefore publications .readPublished steps)
      (totals.receivedTotal + sumBefore receptions .readReceived steps) := by
  obtain ⟨elapsedDuration, publishedTotal, receivedTotal, elapsed, published, received, rfl⟩ := summary_fixed printed
  have elapsed_eq :
      elapsedDuration = totals.clock - totals.startTimeForTotal + sumBefore timePassed .readNow steps := by
    refine run_weighed_until timePassed (fun state => state.clock - state.startTimeForTotal) fixedElapsed invariant
      allowed preserved ?_ ?_ ?_ each initial (by rw [fixedElapsed, running]) executed elapsed
    · intro state label next holds stepped
      obtain ⟨_, _, startTime, clock⟩ := (quiet state holds).undisturbed.kept stepped
      omega
    · exact fun state label next holds stepped => ((quiet state holds).reads stepped).1.1
    · exact fun state label next holds stepped => ((quiet state holds).reads stepped).1.2
  have published_eq : publishedTotal = totals.publishedTotal + sumBefore publications .readPublished steps := by
    refine run_weighed_until publications FinalTotals.publishedTotal fixedPublished invariant allowed preserved ?_ ?_ ?_
      each initial (by rw [fixedPublished, running]) executed published
    · exact fun state label next holds stepped => ((quiet state holds).undisturbed.kept stepped).1
    · exact fun state label next holds stepped => ((quiet state holds).reads stepped).2.1.1
    · exact fun state label next holds stepped => ((quiet state holds).reads stepped).2.1.2
  have received_eq : receivedTotal = totals.receivedTotal + sumBefore receptions .readReceived steps := by
    refine run_weighed_until receptions FinalTotals.receivedTotal fixedReceived invariant allowed preserved ?_ ?_ ?_
      each initial (by rw [fixedReceived, running]) executed received
    · exact fun state label next holds stepped => ((quiet state holds).undisturbed.kept stepped).2.1
    · exact fun state label next holds stepped => ((quiet state holds).reads stepped).2.2.1
    · exact fun state label next holds stepped => ((quiet state holds).reads stepped).2.2.2
  rw [elapsed_eq, published_eq, received_eq]

end Reading

section Summary

variable [DecidableEq Agent] {agentCount : ℕ} {totals next early late final : FinalTotals Agent} {now : ℤ}
  {label : TotalsStep Agent} {steps warmUp ramp load : List (TotalsStep Agent)} {summary : MetricsSummary}

theorem running_invariant (executed : run (step agentCount) (FinalTotals.initial now) steps = some totals) :
    totals.started = true → totals.closing = .running :=
  run_invariant (fun state => state.started = true → state.closing = .running)
    (fun _ _ _ running stepped => QuietTotals.running_next running stepped) (fun _ => rfl) executed

def AllReturned (totals : FinalTotals Agent) : Prop := ∀ agent, ∃ reset, totals.phase agent = .returned reset

omit [DecidableEq Agent] in
theorem AllReturned.undisturbed (returned : AllReturned totals) : Undisturbed totals := by
  intro agent
  obtain ⟨reset, phase⟩ := returned agent
  cases reset with
  | false => exact .inl (by rw [phase]; rfl)
  | true => exact .inr phase

theorem AllReturned.phase_next (returned : AllReturned totals) (stepped : totals.step agentCount label = some next) :
    next.phase = totals.phase := by
  have absurd_ (agent : Agent) (unreturned : ∀ reset, totals.phase agent ≠ .returned reset) : False := by
    obtain ⟨reset, phase⟩ := returned agent
    exact unreturned reset phase
  cases listener_move stepped with
  | same phase => exact phase
  | repeated agent idle => exact (absurd_ agent (by simp [idle])).elim
  | added agent _ idle => exact (absurd_ agent (by simp [idle])).elim
  | counted agent before => exact (absurd_ agent (by simp [before])).elim
  | later agent after before unreturned => exact (absurd_ agent unreturned).elim

theorem idle_step [Fintype Agent] {agent : Agent} (listening : Listening totals) (idle : totals.phase agent = .idle)
    (other : label ≠ .add agent) (stepped : totals.step (Fintype.card Agent) label = some next) :
    next.phase agent = .idle := by
  have moved {mover : Agent} {after : ListenerPhase} (different : agent ≠ mover)
      (phase : next.phase = Function.update totals.phase mover after) : next.phase agent = .idle := by
    rw [phase, Function.update_of_ne different, idle]
  cases listener_move stepped with
  | same phase => rw [phase, idle]
  | repeated mover idleMover member => exact absurd idleMover ((listening.starts mover).mp member)
  | added mover label_eq _ phase =>
    refine moved ?_ phase
    rintro rfl
    exact other label_eq
  | counted mover before phase =>
    refine moved ?_ phase
    rintro rfl
    cases idle.symm.trans before
  | later mover after before _ _ phase =>
    refine moved ?_ phase
    rintro rfl
    exact before.1 idle

omit [DecidableEq Agent] in
theorem Listening.undisturbed [Fintype Agent] {agent : Agent} (listening : Listening totals)
    (idle : totals.phase agent = .idle) (other : Agent) : resetStage (totals.phase other) = 0 := by
  by_contra resets
  exact (listening.all_counted (listening.resets other (Nat.pos_of_ne_zero resets)) agent).1 idle

/-- With an agent that does not start, the summary is about the whole run. -/
theorem summary_of_incomplete_start [Fintype Agent] {agent : Agent} (never : .add agent ∉ steps)
    (executed : run (step (Fintype.card Agent)) (FinalTotals.initial now) steps = some final)
    (printed : final.summary = some summary) :
    summary = printFinal (sumBefore timePassed .readNow steps) (sumBefore publications .readPublished steps)
      (sumBefore receptions .readReceived steps) := by
  have : Nonempty Agent := ⟨agent⟩
  let invariant (state : FinalTotals Agent) : Prop :=
    Listening state ∧ state.phase agent = .idle ∧ (state.started = true → state.closing = .running)
  have quiet : ∀ state, invariant state → QuietTotals state := fun state holds =>
    ⟨fun other => .inl (holds.1.undisturbed holds.2.1 other), holds.2.2⟩
  have adds := summary_adds (· ≠ .add agent) invariant ?_ quiet
    (fun label member same => never (same ▸ member)) ⟨Listening.initial now, rfl, fun _ => rfl⟩ rfl executed printed
  · simpa [FinalTotals.initial] using adds
  · rintro state label next other ⟨listening, idle, running⟩ stepped
    exact ⟨listening.step stepped, idle_step listening idle other stepped, QuietTotals.running_next running stepped⟩

def firstAgentStarts : List (TotalsStep Bool) :=
  [.published, .pass 1000000000, .add true, .count true, .beginSize true, .readSize true 1]

def twoSeconds : List (TotalsStep Bool) :=
  [.published, .received, .published, .pass 2000000000, .close, .readNow, .readStartTime, .readPublished, .published,
    .readReceived]

theorem summary_of_first_agent :
    (⟨3000000000, 1, 1 / 3⟩ : MetricsSummary) =
      printFinal (sumBefore timePassed .readNow (firstAgentStarts ++ twoSeconds))
        (sumBefore publications .readPublished (firstAgentStarts ++ twoSeconds))
        (sumBefore receptions .readReceived (firstAgentStarts ++ twoSeconds)) := by
  have never : .add false ∉ firstAgentStarts ++ twoSeconds := by decide
  exact summary_of_incomplete_start never
    (rfl : run _ (FinalTotals.initial 0) (firstAgentStarts ++ twoSeconds) = some _) (by decide +kernel)

variable [Fintype Agent]

theorem listening_invariant [Nonempty Agent]
    (executed : run (step (Fintype.card Agent)) (FinalTotals.initial now) steps = some totals) : Listening totals :=
  run_invariant Listening (fun _ _ _ listening stepped => listening.step stepped) (Listening.initial now) executed

omit [DecidableEq Agent] in
/-- Once all calls have returned, one has reset the totals. -/
theorem Listening.reset_returned (listening : Listening totals) (returned : AllReturned totals) :
    ∃ agent, totals.phase agent = .returned true := by
  have all : countedAgents totals = Finset.univ := by
    refine Finset.filter_true_of_mem fun agent _ => ?_
    obtain ⟨reset, phase⟩ := returned agent
    rw [phase]
    constructor <;> simp
  have size : totals.size = Fintype.card Agent := by rw [listening.size, all, Finset.card_univ]
  obtain ⟨agent, finds⟩ := listening.finds size
  obtain ⟨reset, phase⟩ := returned agent
  refine ⟨agent, ?_⟩
  cases reset with
  | true => exact phase
  | false =>
    rw [phase] at finds
    rcases finds with impossible | impossible | impossible
    · cases impossible
    · cases impossible
    · exact absurd impossible (Nat.lt_irrefl 0)

/-- The summary counts no event and no time from before every agent has started, and all of both from when the last
    call of the listener has returned. -/
theorem summary_covers_load (warmed : run (step (Fintype.card Agent)) (FinalTotals.initial now) warmUp = some early)
    (missing : ∃ agent, agent ∉ early.starts) (ramped : run (step (Fintype.card Agent)) early ramp = some late)
    (returned : AllReturned late) (started : late.started = true)
    (executed : run (step (Fintype.card Agent)) late load = some final) (printed : final.summary = some summary) :
    ∃ time published received, 0 ≤ time ∧ time ≤ (ramp.map timePassed).sum ∧ published ≤ (ramp.map publications).sum ∧
      received ≤ (ramp.map receptions).sum ∧
      summary = printFinal (time + sumBefore timePassed .readNow load)
        (published + sumBefore publications .readPublished load)
        (received + sumBefore receptions .readReceived load) := by
  obtain ⟨agent, missing⟩ := missing
  have : Nonempty Agent := ⟨agent⟩
  have earlyListening : Listening early := listening_invariant warmed
  have whole := run_append_some.mpr ⟨early, warmed, ramped⟩
  have idle : early.phase agent = .idle := not_not.mp fun active => missing ((earlyListening.starts agent).mpr active)
  have untouched := earlyListening.undisturbed idle
  obtain ⟨resetter, reset⟩ := (listening_invariant whole).reset_returned returned
  have stage : resetStage (late.phase resetter) = 5 := by
    rw [reset]
    rfl
  have published : late.publishedTotal ≤ 0 + (ramp.map publications).sum :=
    run_weighed publications (Within 2 publishedTotal) (fun _ _ _ _ within_ stepped => published_within within_ stepped)
      (fun other resets => by rw [untouched other] at resets; omega) ramped resetter (by omega)
  have received : late.receivedTotal ≤ 0 + (ramp.map receptions).sum :=
    run_weighed receptions (Within 3 receivedTotal) (fun _ _ _ _ within_ stepped => received_within within_ stepped)
      (fun other resets => by rw [untouched other] at resets; omega) ramped resetter (by omega)
  have since : TimedSince early.clock early 0 := by
    refine ⟨(add_zero _).symm, le_rfl, fun other now timed => ?_, fun other returned => ?_⟩
    · have zero := untouched other
      simp [timed, resetStage] at zero
    · have zero := untouched other
      simp [returned, resetStage] at zero
  have times : TimedSince early.clock late (0 + (ramp.map timePassed).sum) :=
    run_weighed timePassed (TimedSince early.clock) (fun _ _ _ _ since stepped => timed_since since stepped) since
      ramped
  have bounds := times.reset resetter reset
  have clock := times.clock
  refine ⟨late.clock - late.startTimeForTotal, late.publishedTotal, late.receivedTotal, by omega, by omega, by omega,
    by omega, ?_⟩
  let invariant (state : FinalTotals Agent) : Prop :=
    AllReturned state ∧ (state.started = true → state.closing = .running)
  have quiet : ∀ state, invariant state → QuietTotals state := fun state holds => ⟨holds.1.undisturbed, holds.2⟩
  refine summary_adds (fun _ => True) invariant ?_ quiet (fun _ _ => trivial)
    ⟨returned, running_invariant whole⟩ (running_invariant whole started) executed printed
  rintro state label next - ⟨settled, running⟩ stepped
  exact ⟨fun other => settled.phase_next stepped ▸ settled other, QuietTotals.running_next running stepped⟩

end Summary

def secondAgentStarts : List (TotalsStep Bool) :=
  [.add false, .count true, .count false, .beginSize true, .beginSize false, .readSize true 2, .readSize false 2,
    .resetPublished true, .published, .resetPublished false, .resetReceived true, .readTime true, .resetReceived false,
    .pass 5, .readTime false, .resetStartTime false, .resetStartTime true]

theorem summary_covers_load_two :
    ∃ time published received, 0 ≤ time ∧ time ≤ (secondAgentStarts.map timePassed).sum ∧
      published ≤ (secondAgentStarts.map publications).sum ∧ received ≤ (secondAgentStarts.map receptions).sum ∧
      (⟨2000000005, 1, 1 / 2⟩ : MetricsSummary) = printFinal (time + sumBefore timePassed .readNow twoSeconds)
        (published + sumBefore publications .readPublished twoSeconds)
        (received + sumBefore receptions .readReceived twoSeconds) := by
  refine summary_covers_load
    (rfl : run _ (FinalTotals.initial 0) [.published, .pass 1000000000, .add true, .received] = some _) ⟨false, ?_⟩
    rfl ?_ rfl rfl ?_
  · decide
  · intro agent
    cases agent <;> exact ⟨true, rfl⟩
  · decide +kernel

end PerfTestProof
