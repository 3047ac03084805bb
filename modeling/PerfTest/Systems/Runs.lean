import Mathlib.Algebra.Ring.Int.Defs
import Mathlib.Algebra.BigOperators.Group.List.Basic
import Mathlib.Data.List.Basic
import Mathlib.Data.List.Infix

namespace Systems

variable {State Label : Type*}

def run (step : State → Label → Option State) : State → List Label → Option State
  | state, [] => some state
  | state, label :: labels => (step state label).bind fun next => run step next labels

/-- The system that refuses the steps which do not meet a condition on the state before the
    step and its label. -/
def restrict (condition : State → Label → Bool) (step : State → Label → Option State) (state : State)
    (label : Label) : Option State :=
  if condition state label then step state label else none

@[simp] theorem run_nil (step : State → Label → Option State) (state : State) :
    run step state [] = some state := rfl

theorem run_cons {step : State → Label → Option State} {state final : State} {label : Label}
    {labels : List Label} :
    run step state (label :: labels) = some final ↔
      ∃ next, step state label = some next ∧ run step next labels = some final := by
  simp only [run, Option.bind_eq_some_iff]

theorem run_append {step : State → Label → Option State} (state : State)
    (first second : List Label) :
    run step state (first ++ second) = (run step state first).bind fun next => run step next second := by
  induction first generalizing state with
  | nil => rfl
  | cons label labels ih =>
    simp only [List.cons_append, run]
    cases step state label with
    | none => rfl
    | some next => exact ih next

theorem run_append_some {step : State → Label → Option State} {state final : State}
    {first second : List Label} :
    run step state (first ++ second) = some final ↔
      ∃ middle, run step state first = some middle ∧ run step middle second = some final := by
  rw [run_append, Option.bind_eq_some_iff]

theorem restrict_some {condition : State → Label → Bool} {step : State → Label → Option State}
    {state next : State} {label : Label} :
    restrict condition step state label = some next ↔
      condition state label = true ∧ step state label = some next := by
  unfold restrict
  split <;> simp_all

/-- A property that every enabled step with an allowed label keeps holds wherever a run of such labels leads. -/
theorem run_invariant_on {step : State → Label → Option State} (invariant : State → Prop) (allowed : Label → Prop)
    (preserved : ∀ state label next, allowed label → invariant state → step state label = some next → invariant next)
    {labels : List Label} (each : ∀ label ∈ labels, allowed label) {state final : State} (initial : invariant state)
    (executed : run step state labels = some final) : invariant final := by
  induction labels generalizing state with
  | nil => cases executed; exact initial
  | cons label labels ih =>
    obtain ⟨next, stepped, rest⟩ := run_cons.mp executed
    obtain ⟨own, later⟩ := List.forall_mem_cons.mp each
    exact ih later (preserved state label next own initial stepped) rest

/-- A property that every enabled step keeps holds wherever a run leads. -/
theorem run_invariant {step : State → Label → Option State} (invariant : State → Prop)
    (preserved : ∀ state label next, invariant state → step state label = some next → invariant next)
    {labels : List Label} {state final : State} (initial : invariant state)
    (executed : run step state labels = some final) : invariant final :=
  run_invariant_on invariant (fun _ => True) (fun state label next _ => preserved state label next)
    (fun _ _ => trivial) initial executed

/-- A measure that the steps of a condition keep and all others raise tells whether a run took only such steps. -/
theorem run_restrict_of_measure {step : State → Label → Option State} {condition : State → Label → Bool}
    (measure : State → ℤ) (invariant : State → Prop)
    (preserved : ∀ state label next, invariant state → step state label = some next → invariant next)
    (kept : ∀ state label next, invariant state → step state label = some next → condition state label = true →
      measure next = measure state)
    (raised : ∀ state label next, invariant state → step state label = some next → condition state label = false →
      measure state < measure next)
    {labels : List Label} {state final : State} (initial : invariant state)
    (executed : run step state labels = some final) :
    measure state ≤ measure final ∧
      (measure final = measure state → run (restrict condition step) state labels = some final) := by
  induction labels generalizing state with
  | nil =>
    cases executed
    exact ⟨Int.le_refl _, fun _ => rfl⟩
  | cons label labels ih =>
    obtain ⟨next, stepped, rest⟩ := run_cons.mp executed
    obtain ⟨higher, restricted⟩ := ih (preserved state label next initial stepped) rest
    cases meets : condition state label with
    | true =>
      have same := kept state label next initial stepped meets
      refine ⟨same ▸ higher, fun equal => run_cons.mpr ⟨next, restrict_some.mpr ⟨meets, stepped⟩, ?_⟩⟩
      exact restricted (equal.trans same.symm)
    | false =>
      have more := raised state label next initial stepped meets
      exact ⟨by omega, fun equal => by omega⟩

/-- What meets a property in every sound state and fails it in every trapped one, where the steps of a condition lead
    from sound to sound states and all others into the trap, tells whether a run took only such steps. -/
theorem run_restrict_iff {step : State → Label → Option State} {condition : State → Label → Bool}
    (property sound trapped : State → Prop)
    (keeps : ∀ state label next, sound state → step state label = some next → condition state label = true →
      sound next)
    (traps : ∀ state label next, sound state → step state label = some next → condition state label = false →
      trapped next)
    (stays : ∀ state label next, trapped state → step state label = some next → trapped next)
    (meets : ∀ state, sound state → property state) (fails : ∀ state, trapped state → ¬ property state)
    {labels : List Label} {state final : State} (initial : sound state)
    (executed : run step state labels = some final) :
    property final ↔ run (restrict condition step) state labels = some final := by
  constructor
  · intro met
    induction labels generalizing state with
    | nil => exact executed
    | cons label labels ih =>
      obtain ⟨next, stepped, rest⟩ := run_cons.mp executed
      cases allowed : condition state label with
      | true =>
        have restricted := ih (keeps state label next initial stepped allowed) rest
        exact run_cons.mpr ⟨next, restrict_some.mpr ⟨allowed, stepped⟩, restricted⟩
      | false =>
        have inside := run_invariant trapped stays (traps state label next initial stepped allowed) rest
        exact absurd met (fails final inside)
  · intro restricted
    refine meets final (run_invariant sound ?_ initial restricted)
    intro state label next soundState stepped
    obtain ⟨allowed, stepped⟩ := restrict_some.mp stepped
    exact keeps state label next soundState stepped allowed

/-- Each step of one system is matched by a run of another between the images of its states, so
    its runs are matched too. The invariant is what the matching may rely on. -/
theorem run_simulated {Image Entry : Type*} {step : State → Label → Option State}
    (imageStep : Image → Entry → Option Image) (view : State → Image) (invariant : State → Prop)
    (preserved : ∀ state label next, invariant state → step state label = some next → invariant next)
    (matched : ∀ state label next, invariant state → step state label = some next →
      ∃ entries, run imageStep (view state) entries = some (view next))
    {labels : List Label} {state final : State} (initial : invariant state)
    (executed : run step state labels = some final) :
    ∃ entries, run imageStep (view state) entries = some (view final) := by
  induction labels generalizing state with
  | nil => cases executed; exact ⟨[], rfl⟩
  | cons label labels ih =>
    obtain ⟨next, stepped, rest⟩ := run_cons.mp executed
    obtain ⟨first, firstRun⟩ := matched state label next initial stepped
    obtain ⟨second, secondRun⟩ := ih (preserved state label next initial stepped) rest
    exact ⟨first ++ second, run_append_some.mpr ⟨view next, firstRun, secondRun⟩⟩

/-- Two systems whose steps go together, or fail together, do so over whole runs. -/
theorem run_rel {Image : Type*} {step : State → Label → Option State} {imageStep : Image → Label → Option Image}
    {related : State → Image → Prop}
    (matched : ∀ state image label, related state image →
      Option.Rel related (step state label) (imageStep image label))
    (labels : List Label) {state : State} {image : Image} (initial : related state image) :
    Option.Rel related (run step state labels) (run imageStep image labels) := by
  induction labels generalizing state image with
  | nil => exact .some initial
  | cons label labels ih =>
    have together := matched state image label initial
    rw [run, run]
    generalize step state label = next, imageStep image label = nextImage at together
    cases together with
    | none => exact .none
    | some next => exact ih next

section Weights

variable {Weight : Type*} [AddMonoid Weight] {step : State → Label → Option State} (weight : Label → Weight)

/-- A property that each step keeps while it adds the weight of its label to a sum. -/
theorem run_weighed (property : State → Weight → Prop)
    (preserved : ∀ state label next sum, property state sum → step state label = some next →
      property next (sum + weight label))
    {labels : List Label} {state final : State} {sum : Weight} (initial : property state sum)
    (executed : run step state labels = some final) : property final (sum + (labels.map weight).sum) := by
  induction labels generalizing state sum with
  | nil =>
    cases executed
    simpa using initial
  | cons label labels ih =>
    obtain ⟨next, stepped, rest⟩ := run_cons.mp executed
    have later := ih (preserved state label next sum initial stepped) rest
    simpa [add_assoc] using later

/-- A value that each step raises by the weight of its label is read once, with the weights of the labels before. -/
theorem run_weighed_until {reads : Label → Bool} (value : State → Weight) (fixed : State → Option Weight)
    (invariant : State → Prop) (allowed : Label → Prop)
    (preserved : ∀ state label next, allowed label → invariant state → step state label = some next → invariant next)
    (raised : ∀ state label next, invariant state → step state label = some next →
      value next = value state + weight label)
    (kept : ∀ state label next, invariant state → step state label = some next → reads label = false →
      fixed next = fixed state)
    (read : ∀ state label next, invariant state → step state label = some next → reads label = true →
      fixed state = none ∧ fixed next = some (value state))
    {labels : List Label} (each : ∀ label ∈ labels, allowed label) {state final : State} {seen : Weight}
    (initial : invariant state) (unread : fixed state = none) (executed : run step state labels = some final)
    (result : fixed final = some seen) : seen = value state + ((labels.takeWhile (!reads ·)).map weight).sum := by
  induction labels generalizing state with
  | nil =>
    cases executed
    cases unread.symm.trans result
  | cons label labels ih =>
    obtain ⟨next, stepped, rest⟩ := run_cons.mp executed
    obtain ⟨own, later⟩ := List.forall_mem_cons.mp each
    have held := preserved state label next own initial stepped
    cases reading : reads label with
    | false =>
      have sum := ih later held ((kept state label next initial stepped reading).trans unread) rest
      rw [sum, raised state label next initial stepped]
      simp [reading, add_assoc]
    | true =>
      obtain ⟨_, fixedNow⟩ := read state label next initial stepped reading
      have stays : invariant final ∧ fixed final = some (value state) := by
        refine run_invariant_on (fun reached => invariant reached ∧ fixed reached = some (value state)) allowed ?_ later
          ⟨held, fixedNow⟩ rest
        rintro reached other after permitted ⟨holds, same⟩ moved
        refine ⟨preserved reached other after permitted holds moved, ?_⟩
        cases again : reads other with
        | false => exact (kept reached other after holds moved again).trans same
        | true => cases (read reached other after holds moved again).1.symm.trans same
      obtain rfl := Option.some.inj (stays.2.symm.trans result)
      simp [reading]

end Weights

def EachStep (holds : List Label → Label → Prop) (labels : List Label) : Prop :=
  ∀ earlier label, earlier ++ [label] <+: labels → holds earlier label

theorem eachStep_nil {holds : List Label → Label → Prop} : EachStep holds [] := by
  intro earlier label begins
  exact absurd (List.prefix_nil.mp begins) (List.append_ne_nil_of_right_ne_nil _ (List.cons_ne_nil _ _))

theorem eachStep_append {holds : List Label → Label → Prop} {labels : List Label} {label : Label} :
    EachStep holds (labels ++ [label]) ↔ EachStep holds labels ∧ holds labels label := by
  constructor
  · intro each
    constructor
    · intro earlier other begins
      exact each earlier other (begins.trans (List.prefix_append _ _))
    · exact each labels label List.prefix_rfl
  · rintro ⟨each, last⟩ earlier other begins
    rcases List.prefix_concat_iff.mp begins with whole | begins
    · obtain ⟨rfl, same⟩ := List.append_inj_left' whole rfl, List.append_inj_right' whole rfl
      rw [List.singleton_inj.mp same]
      exact last
    · exact each earlier other begins

end Systems
