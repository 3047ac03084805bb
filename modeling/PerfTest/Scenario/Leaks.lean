import Mathlib.Data.Rat.Floor
import PerfTest.Scenario.Varying

namespace PerfTestModel

structure PublishingParams where
  producerRateLimit : ℚ
  publishingRates : List String
  publishingInterval : Option ℤ
  producerRandomStartDelayInSeconds : ℤ
  deriving DecidableEq, Repr

inductive MulticastProperty where
  | producerRateLimit
  | publishingRates
  | publishingInterval
  | producerRandomStartDelayInSeconds
  | other (name : String)
  deriving DecidableEq, Repr

inductive MulticastValue where
  | producerRateLimit (value : ℚ)
  | publishingRates (value : List String)
  | publishingInterval (value : ℤ)
  | producerRandomStartDelayInSeconds (value : ℤ)
  | other (name value : String)
  deriving DecidableEq, Repr

namespace MulticastValue

def property : MulticastValue → MulticastProperty
  | .producerRateLimit _ => .producerRateLimit
  | .publishingRates _ => .publishingRates
  | .publishingInterval _ => .publishingInterval
  | .producerRandomStartDelayInSeconds _ => .producerRandomStartDelayInSeconds
  | .other name _ => .other name

def setup (params : PublishingParams) : MulticastValue → PublishingParams
  | .producerRateLimit value => { params with producerRateLimit := value }
  | .publishingRates value => { params with publishingRates := value }
  | .publishingInterval value => { params with publishingInterval := some value }
  | .producerRandomStartDelayInSeconds value => { params with producerRandomStartDelayInSeconds := value }
  | .other _ _ => params

def teardown (params : PublishingParams) : MulticastValue → PublishingParams := fun _ => params

end MulticastValue

structure MulticastVariable where
  property : MulticastProperty
  values : List MulticastValue
  same : ∀ value ∈ values, value.property = property

inductive RateIndicator where
  | fixed (rate : ℚ)
  | variable (rates : List String)
  deriving DecidableEq, Repr

inductive ProducerDriver where
  | scheduled (publishingInterval : ℤ)
  | idle
  | looping
  deriving DecidableEq, Repr

structure ProducerStart where
  driver : ProducerDriver
  rate : RateIndicator
  randomStartDelay : ℤ
  deriving DecidableEq, Repr

namespace PublishingParams

def rateIndicator (params : PublishingParams) : RateIndicator :=
  if params.publishingRates = [] then .fixed params.producerRateLimit else .variable params.publishingRates

def scheduledRate (params : PublishingParams) : Option ℚ :=
  match params.rateIndicator with
  | .fixed rate => if 1 ≤ rate ∧ rate ≤ 10 then some rate else none
  | .variable _ => none

variable (rateToPublishingInterval : ℚ → ℤ)

/-- The interval is written to the parameters. -/
def calculateInterval (params : PublishingParams) : PublishingParams :=
  match params.scheduledRate with
  | some rate => { params with publishingInterval := some (rateToPublishingInterval rate) }
  | none => params

def driver (params : PublishingParams) : ProducerDriver :=
  match params.publishingInterval with
  | some publishingInterval => .scheduled publishingInterval
  | none => if params.rateIndicator = .fixed 0 then .idle else .looping

def startProducers (params : PublishingParams) : ProducerStart × PublishingParams :=
  let calculated := params.calculateInterval rateToPublishingInterval
  (⟨calculated.driver, calculated.rateIndicator, calculated.producerRandomStartDelayInSeconds⟩, calculated)

end PublishingParams

def MulticastProperty.name : MulticastProperty → String
  | .producerRateLimit => "producerRateLimit"
  | .publishingRates => "publishingRates"
  | .publishingInterval => "publishingInterval"
  | .producerRandomStartDelayInSeconds => "producerRandomStartDelayInSeconds"
  | .other name => name

def MulticastValue.interface (print : MulticastValue → String) : VariableInterface MulticastValue PublishingParams where
  getName value := value.property.name
  getValue := print
  setup value params := value.setup params
  teardown value params := value.teardown params

def startSet (rateToPublishingInterval : ℚ → ℤ) (params : PublishingParams) (stats : Unit) : PublishingParams × Unit :=
  ((params.startProducers rateToPublishingInterval).2, stats)

def VaryingScenario.runMulticast (print : MulticastValue → String) (rateToPublishingInterval : ℚ → ℤ)
    (base : PublishingParams) (varied : List MulticastVariable) :
    VaryingScenario MulticastValue PublishingParams Unit :=
  run (MulticastValue.interface print) (startSet rateToPublishingInterval) (varied.map (·.values)) (create [base] ())

def CombinationRun.starts (rateToPublishingInterval : ℚ → ℤ) (run : CombinationRun MulticastValue PublishingParams) :
    List ProducerStart :=
  run.params.map fun params => (params.startProducers rateToPublishingInterval).1

end PerfTestModel

namespace PerfTestProof

open PerfTestModel Systems

def configured (params : PublishingParams) (choice : List MulticastValue) : PublishingParams :=
  choice.foldl (fun params value => value.setup params) params

def Sets (choice : List MulticastValue) (property : MulticastProperty) : Prop := property ∈ choice.map (·.property)

def leftInterval (rateToPublishingInterval : ℚ → ℤ) (base : PublishingParams) (history : List (List MulticastValue)) :
    Option ℤ :=
  history.foldl (fun left choice =>
    match (configured base choice).scheduledRate with
    | some rate => some (rateToPublishingInterval rate)
    | none => left) base.publishingInterval

section

variable {rateToPublishingInterval : ℚ → ℤ} {base params other : PublishingParams}
  {choice : List MulticastValue} {history : List (List MulticastValue)}

structure AgreeElsewhere (choice : List MulticastValue) (params other : PublishingParams) : Prop where
  rate : ¬ Sets choice .producerRateLimit → params.producerRateLimit = other.producerRateLimit
  rates : ¬ Sets choice .publishingRates → params.publishingRates = other.publishingRates
  delay : ¬ Sets choice .producerRandomStartDelayInSeconds →
    params.producerRandomStartDelayInSeconds = other.producerRandomStartDelayInSeconds

structure AlikeButInterval (params other : PublishingParams) : Prop where
  rate : params.producerRateLimit = other.producerRateLimit
  rates : params.publishingRates = other.publishingRates
  delay : params.producerRandomStartDelayInSeconds = other.producerRandomStartDelayInSeconds

theorem AlikeButInterval.symm (alike : AlikeButInterval params other) : AlikeButInterval other params :=
  ⟨alike.rate.symm, alike.rates.symm, alike.delay.symm⟩

theorem AlikeButInterval.trans {third : PublishingParams} (alike : AlikeButInterval params other)
    (others : AlikeButInterval other third) : AlikeButInterval params third :=
  ⟨alike.rate.trans others.rate, alike.rates.trans others.rates, alike.delay.trans others.delay⟩

theorem sets_cons {value : MulticastValue} {property : MulticastProperty} :
    Sets (value :: choice) property ↔ property = value.property ∨ Sets choice property := by
  simp [Sets]

theorem AgreeElsewhere.setup {value : MulticastValue} (agree : AgreeElsewhere (value :: choice) params other) :
    AgreeElsewhere choice (value.setup params) (value.setup other) := by
  obtain ⟨rate, rates, delay⟩ := agree
  simp only [sets_cons, not_or] at rate rates delay
  cases value with
  | producerRateLimit value =>
    exact ⟨fun _ => rfl, fun unset => rates ⟨nofun, unset⟩, fun unset => delay ⟨nofun, unset⟩⟩
  | publishingRates value =>
    exact ⟨fun unset => rate ⟨nofun, unset⟩, fun _ => rfl, fun unset => delay ⟨nofun, unset⟩⟩
  | producerRandomStartDelayInSeconds value =>
    exact ⟨fun unset => rate ⟨nofun, unset⟩, fun unset => rates ⟨nofun, unset⟩, fun _ => rfl⟩
  | publishingInterval value =>
    exact ⟨fun unset => rate ⟨nofun, unset⟩, fun unset => rates ⟨nofun, unset⟩, fun unset => delay ⟨nofun, unset⟩⟩
  | other name value =>
    exact ⟨fun unset => rate ⟨nofun, unset⟩, fun unset => rates ⟨nofun, unset⟩, fun unset => delay ⟨nofun, unset⟩⟩

theorem AgreeElsewhere.alike (agree : AgreeElsewhere choice params other) :
    AlikeButInterval (configured params choice) (configured other choice) := by
  induction choice generalizing params other with
  | nil => exact ⟨agree.rate List.not_mem_nil, agree.rates List.not_mem_nil, agree.delay List.not_mem_nil⟩
  | cons value choice ih => exact ih agree.setup

theorem configured_unset (params : PublishingParams) (choice : List MulticastValue) :
    AgreeElsewhere choice (configured params choice) params := by
  induction choice generalizing params with
  | nil => exact ⟨fun _ => rfl, fun _ => rfl, fun _ => rfl⟩
  | cons value choice ih =>
    obtain ⟨rate, rates, delay⟩ := ih (value.setup params)
    simp only [configured, List.foldl_cons] at *
    refine ⟨fun unset => ?_, fun unset => ?_, fun unset => ?_⟩
    · rw [sets_cons, not_or] at unset
      rw [rate unset.2]
      cases value <;> first | rfl | exact absurd rfl unset.1
    · rw [sets_cons, not_or] at unset
      rw [rates unset.2]
      cases value <;> first | rfl | exact absurd rfl unset.1
    · rw [sets_cons, not_or] at unset
      rw [delay unset.2]
      cases value <;> first | rfl | exact absurd rfl unset.1

theorem configured_interval_of_unset (params : PublishingParams) (unset : ¬ Sets choice .publishingInterval) :
    (configured params choice).publishingInterval = params.publishingInterval := by
  induction choice generalizing params with
  | nil => rfl
  | cons value choice ih =>
    rw [sets_cons, not_or] at unset
    have step : (value.setup params).publishingInterval = params.publishingInterval := by
      cases value <;> first | rfl | exact absurd rfl unset.1
    exact (ih (value.setup params) unset.2).trans step

theorem configured_interval_of_sets (sets : Sets choice .publishingInterval) :
    (configured params choice).publishingInterval = (configured other choice).publishingInterval := by
  induction choice generalizing params other with
  | nil => cases sets
  | cons value choice ih =>
    by_cases later : Sets choice .publishingInterval
    · exact ih later
    · have here : MulticastProperty.publishingInterval = value.property := (sets_cons.mp sets).resolve_right later
      have step : (value.setup params).publishingInterval = (value.setup other).publishingInterval := by
        cases value <;> first | rfl | cases here
      exact (configured_interval_of_unset _ later).trans (step.trans (configured_interval_of_unset _ later).symm)

def SameCombination (first second : List MulticastValue) : Prop :=
  first = second ∨ first.Perm second ∧ (first.map (·.property)).Nodup

theorem setup_comm {first second : MulticastValue} (differ : first.property ≠ second.property) :
    second.setup (first.setup params) = first.setup (second.setup params) := by
  cases first <;> cases second <;> first | rfl | exact absurd rfl differ

theorem SameCombination.sameParams {first second : List MulticastValue} (same : SameCombination first second) :
    configured params first = configured params second := by
  rcases same with rfl | ⟨perm, distinct⟩
  · rfl
  · refine perm.foldl_eq' (fun one inFirst two alsoInFirst params => ?_) params
    by_cases differ : one.property = two.property
    · rw [List.inj_on_of_nodup_map distinct inFirst alsoInFirst differ]
    · exact setup_comm differ

theorem SameCombination.sets {first second : List MulticastValue} {property : MulticastProperty}
    (same : SameCombination first second) : Sets first property ↔ Sets second property := by
  rcases same with rfl | ⟨perm, _⟩
  · rfl
  · exact (perm.map _).mem_iff

def leftParams (rateToPublishingInterval : ℚ → ℤ) (base : PublishingParams) (history : List (List MulticastValue)) :
    PublishingParams :=
  history.foldl (fun params choice => ((configured params choice).startProducers rateToPublishingInterval).2) base

theorem leftParams_append :
    leftParams rateToPublishingInterval base (history ++ [choice]) =
      (configured (leftParams rateToPublishingInterval base history) choice).calculateInterval
        rateToPublishingInterval := by
  rw [leftParams, List.foldl_append]
  rfl

theorem AlikeButInterval.scheduledRate (alike : AlikeButInterval params other) :
    params.scheduledRate = other.scheduledRate := by
  unfold PublishingParams.scheduledRate PublishingParams.rateIndicator
  rw [alike.rate, alike.rates]

theorem alike_calculateInterval (rateToPublishingInterval : ℚ → ℤ) (params : PublishingParams) :
    AlikeButInterval (params.calculateInterval rateToPublishingInterval) params := by
  unfold PublishingParams.calculateInterval
  split <;> exact ⟨rfl, rfl, rfl⟩

theorem AgreeElsewhere.left (agree : AgreeElsewhere choice params base) {later : List MulticastValue}
    (properties : ∀ property, Sets later property ↔ Sets choice property) :
    AgreeElsewhere choice ((configured params later).calculateInterval rateToPublishingInterval) base := by
  have calculated := alike_calculateInterval rateToPublishingInterval (configured params later)
  have kept := configured_unset params later
  refine ⟨fun unset => ?_, fun unset => ?_, fun unset => ?_⟩
  · rw [calculated.rate, kept.rate (mt (properties _).mp unset), agree.rate unset]
  · rw [calculated.rates, kept.rates (mt (properties _).mp unset), agree.rates unset]
  · rw [calculated.delay, kept.delay (mt (properties _).mp unset), agree.delay unset]

def SameProperties (choice : List MulticastValue) (history : List (List MulticastValue)) : Prop :=
  ∀ earlier ∈ history, ∀ property, Sets earlier property ↔ Sets choice property

theorem agree_leftParams (rateToPublishingInterval : ℚ → ℤ) (base : PublishingParams)
    (properties : SameProperties choice history) :
    AgreeElsewhere choice (leftParams rateToPublishingInterval base history) base := by
  induction history using List.reverseRecOn with
  | nil => exact ⟨fun _ => rfl, fun _ => rfl, fun _ => rfl⟩
  | append_singleton history last ih =>
    rw [leftParams_append]
    have before := ih fun earlier listed => properties earlier (List.mem_append_left _ listed)
    exact before.left (properties last (List.mem_append_right _ (List.mem_singleton_self last)))

theorem leftParams_interval (properties : SameProperties choice history)
    (unset : ¬ Sets choice .publishingInterval) :
    (leftParams rateToPublishingInterval base history).publishingInterval =
      leftInterval rateToPublishingInterval base history := by
  induction history using List.reverseRecOn with
  | nil => rfl
  | append_singleton history last ih =>
    have earlier : SameProperties choice history := fun combination listed =>
      properties combination (List.mem_append_left _ listed)
    have lastProperties := properties last (List.mem_append_right _ (List.mem_singleton_self last))
    have ofLast : SameProperties last history := fun combination listed property =>
      (earlier combination listed property).trans (lastProperties property).symm
    have rate := (agree_leftParams rateToPublishingInterval base ofLast).alike.scheduledRate
    have kept := configured_interval_of_unset (leftParams rateToPublishingInterval base history)
      (mt (lastProperties _).mp unset)
    rw [leftParams_append, leftInterval, List.foldl_append, List.foldl_cons, List.foldl_nil, ← leftInterval,
      PublishingParams.calculateInterval, rate]
    cases (configured base last).scheduledRate with
    | some rate => rfl
    | none => exact kept.trans (ih earlier)

theorem AlikeButInterval.eq (alike : AlikeButInterval params other)
    (interval : params.publishingInterval = other.publishingInterval) : params = other := by
  obtain ⟨rate, rates, delay⟩ := alike
  cases params
  cases other
  simp only at rate rates delay interval
  rw [rate, rates, delay, interval]

theorem driver_inj (indicator : params.rateIndicator = other.rateIndicator) (driver : params.driver = other.driver) :
    params.publishingInterval = other.publishingInterval := by
  unfold PublishingParams.driver at driver
  rw [indicator] at driver
  cases here : params.publishingInterval with
  | none =>
    cases there : other.publishingInterval with
    | none => rfl
    | some interval =>
      simp only [here, there] at driver
      split at driver <;> cases driver
  | some interval =>
    cases there : other.publishingInterval with
    | none =>
      simp only [here, there] at driver
      split at driver <;> cases driver
    | some otherInterval =>
      simp only [here, there, ProducerDriver.scheduled.injEq] at driver
      rw [driver]

/-- Parameters that differ at most in the interval start producers alike when it is overwritten or the same. -/
theorem AlikeButInterval.starts_iff (alike : AlikeButInterval params other) :
    (params.startProducers rateToPublishingInterval).1 = (other.startProducers rateToPublishingInterval).1 ↔
      params.scheduledRate ≠ none ∨ params.publishingInterval = other.publishingInterval := by
  have rate := alike.scheduledRate
  cases calculated : params.scheduledRate with
  | some rate_ =>
    rw [calculated] at rate
    have same : params.calculateInterval rateToPublishingInterval =
        other.calculateInterval rateToPublishingInterval := by
      unfold PublishingParams.calculateInterval
      rw [calculated, ← rate]
      refine AlikeButInterval.eq ?_ rfl
      exact ⟨alike.rate, alike.rates, alike.delay⟩
    refine iff_of_true ?_ (.inl nofun)
    unfold PublishingParams.startProducers
    rw [same]
  | none =>
    rw [calculated] at rate
    have here : params.calculateInterval rateToPublishingInterval = params := by
      unfold PublishingParams.calculateInterval
      rw [calculated]
    have there : other.calculateInterval rateToPublishingInterval = other := by
      unfold PublishingParams.calculateInterval
      rw [← rate]
    unfold PublishingParams.startProducers
    rw [here, there]
    constructor
    · intro same
      exact .inr (driver_inj (ProducerStart.mk.inj same).2.1 (ProducerStart.mk.inj same).1)
    · intro same
      rw [alike.eq (same.resolve_left fun differ => differ rfl)]

end

section

variable {print : MulticastValue → String} {rateToPublishingInterval : ℚ → ℤ} {base : PublishingParams}

structure SetUp (rateToPublishingInterval : ℚ → ℤ) (base : PublishingParams) (choices : List (List MulticastValue))
    (scenario : VaryingScenario MulticastValue PublishingParams Unit) : Prop where
  values : scenario.runs.map (·.values) = choices
  params : scenario.params = [leftParams rateToPublishingInterval base choices]
  started : ∀ earlier run later, scenario.runs = earlier ++ run :: later →
    run.params = [configured (leftParams rateToPublishingInterval base (earlier.map (·.values))) run.values]

theorem foldl_teardown (choice : List MulticastValue) (params : PublishingParams) :
    choice.foldl (fun params value => (MulticastValue.interface print).teardown value params) params = params := by
  induction choice with
  | nil => rfl
  | cons value choice ih => exact ih

theorem SetUp.run {choices : List (List MulticastValue)}
    {scenario : VaryingScenario MulticastValue PublishingParams Unit}
    (setUp : SetUp rateToPublishingInterval base choices scenario) (choice : List MulticastValue) :
    SetUp rateToPublishingInterval base (choices ++ [choice])
      (VaryingScenario.runCombination (MulticastValue.interface print) (startSet rateToPublishingInterval) choice
        scenario) := by
  obtain ⟨values, params, started⟩ := setUp
  unfold VaryingScenario.runCombination VaryingScenarioStats.next
  refine ⟨?_, ?_, fun earlier run later split => ?_⟩
  · simp [values]
  · simp only [params, VaryingScenario.runSets, startSet, foldl_teardown, leftParams_append]
    rfl
  · rcases List.eq_nil_or_concat later with rfl | ⟨kept, last, rfl⟩
    · obtain ⟨rfl, same⟩ := List.append_inj' split rfl
      cases same
      rw [values, params]
      rfl
    · rw [List.concat_eq_append, ← List.cons_append, ← List.append_assoc] at split
      obtain ⟨before, _⟩ := List.append_inj' split rfl
      exact started earlier run kept before

theorem setUp_combinations (print : MulticastValue → String) (rateToPublishingInterval : ℚ → ℤ)
    (base : PublishingParams) (varied : List MulticastVariable) :
    SetUp rateToPublishingInterval base (combinations (varied.map (·.values)))
      (VaryingScenario.runMulticast print rateToPublishingInterval base varied) := by
  rw [VaryingScenario.runMulticast, VaryingScenario.run, nestedLoop_eq]
  simp only [List.nil_append]
  induction combinations (varied.map (·.values)) using List.reverseRecOn with
  | nil => exact ⟨rfl, rfl, fun earlier run later split => absurd split.symm (by simp [VaryingScenario.create])⟩
  | append_singleton choices choice ih =>
    rw [List.foldl_append]
    exact ih.run choice

theorem properties_of_choice {varied : List MulticastVariable} {choice : List MulticastValue}
    (chosen : List.Forall₂ (· ∈ ·) choice (varied.map (·.values))) :
    choice.map (·.property) = varied.map (·.property) := by
  induction varied generalizing choice with
  | nil =>
    cases chosen
    rfl
  | cons known varied ih =>
    cases chosen with
    | cons member others => rw [List.map_cons, List.map_cons, known.same _ member, ih others]

theorem properties_of_history {varied : List MulticastVariable}
    {run : CombinationRun MulticastValue PublishingParams}
    {earlier later : List (CombinationRun MulticastValue PublishingParams)}
    (split : (VaryingScenario.runMulticast print rateToPublishingInterval base varied).runs = earlier ++ run :: later) :
    SameProperties run.values (earlier.map (·.values)) := by
  have values := (setUp_combinations print rateToPublishingInterval base varied).values
  have properties (choice : List MulticastValue) (listed : choice ∈ (earlier ++ run :: later).map (·.values)) :
      choice.map (·.property) = varied.map (·.property) := by
    rw [← split, values] at listed
    exact properties_of_choice (mem_combinations.mp listed)
  intro choice listed property
  rw [List.map_append, List.map_cons] at properties
  unfold Sets
  rw [properties choice (List.mem_append_left _ listed),
    properties run.values (List.mem_append_right _ List.mem_cons_self)]

/-- Two runs start the producers of a combination alike unless an earlier low rate left another interval. -/
theorem combinations_leak_iff (print : MulticastValue → String) (rateToPublishingInterval : ℚ → ℤ)
    (base : PublishingParams) (varied₁ varied₂ : List MulticastVariable)
    (run₁ run₂ : CombinationRun MulticastValue PublishingParams)
    (earlier₁ later₁ earlier₂ later₂ : List (CombinationRun MulticastValue PublishingParams))
    (first : (VaryingScenario.runMulticast print rateToPublishingInterval base varied₁).runs =
      earlier₁ ++ run₁ :: later₁)
    (second : (VaryingScenario.runMulticast print rateToPublishingInterval base varied₂).runs =
      earlier₂ ++ run₂ :: later₂)
    (same : SameCombination run₁.values run₂.values) :
    run₁.starts rateToPublishingInterval = run₂.starts rateToPublishingInterval ↔
      Sets run₁.values .publishingInterval ∨ (configured base run₁.values).scheduledRate ≠ none ∨
        leftInterval rateToPublishingInterval base (earlier₁.map (·.values)) =
          leftInterval rateToPublishingInterval base (earlier₂.map (·.values)) := by
  have firstProperties := properties_of_history first
  have secondProperties : SameProperties run₁.values (earlier₂.map (·.values)) :=
    fun choice listed property => (properties_of_history second choice listed property).trans same.sets.symm
  have agree₁ := agree_leftParams rateToPublishingInterval base firstProperties
  have agree₂ := agree_leftParams rateToPublishingInterval base secondProperties
  have alike : AlikeButInterval
      (configured (leftParams rateToPublishingInterval base (earlier₁.map (·.values))) run₁.values)
      (configured (leftParams rateToPublishingInterval base (earlier₂.map (·.values))) run₁.values) :=
    agree₁.alike.trans agree₂.alike.symm
  have started₁ := (setUp_combinations print rateToPublishingInterval base varied₁).started earlier₁ run₁ later₁ first
  have started₂ := (setUp_combinations print rateToPublishingInterval base varied₂).started earlier₂ run₂ later₂ second
  rw [CombinationRun.starts, CombinationRun.starts, started₁, started₂, ← same.sameParams, List.map_singleton,
    List.map_singleton, List.singleton_inj, alike.starts_iff, agree₁.alike.scheduledRate]
  by_cases sets : Sets run₁.values .publishingInterval
  · exact iff_of_true (.inr (configured_interval_of_sets sets)) (.inl sets)
  · rw [configured_interval_of_unset _ sets, configured_interval_of_unset _ sets,
      leftParams_interval firstProperties sets,
      leftParams_interval secondProperties sets, or_iff_right sets]

end

def exactInterval (rate : ℚ) : ℤ := ⌊1 / rate * 1000⌋

def unlimited : PublishingParams := ⟨-1, [], none, 0⟩

def rates (first second : ℚ) : MulticastVariable where
  property := .producerRateLimit
  values := [.producerRateLimit first, .producerRateLimit second]
  same := by simp [MulticastValue.property]

def runRates (first second : ℚ) : List (CombinationRun MulticastValue PublishingParams) :=
  (VaryingScenario.runMulticast (fun _ => "") exactInterval unlimited [rates first second]).runs

/-- After 5 messages a second, the producers at 50 messages a second are scheduled every 200 ms. -/
theorem low_rate_leaks : ∃ run₁ ∈ runRates 5 50, ∃ run₂ ∈ runRates 50 5, run₁.values = run₂.values ∧
    run₁.starts exactInterval = [⟨.scheduled 200, .fixed 50, 0⟩] ∧
    run₂.starts exactInterval = [⟨.looping, .fixed 50, 0⟩] := by
  decide +kernel

def run50 (stats : ℕ) : CombinationRun MulticastValue PublishingParams :=
  ⟨[.producerRateLimit 50], stats, [{ unlimited with producerRateLimit := 50 }]⟩

def run100 (stats : ℕ) : CombinationRun MulticastValue PublishingParams :=
  ⟨[.producerRateLimit 100], stats, [{ unlimited with producerRateLimit := 100 }]⟩

theorem high_rates_apart : (run50 0).starts exactInterval = (run50 1).starts exactInterval :=
  (combinations_leak_iff (fun _ => "") exactInterval unlimited [rates 50 100] [rates 100 50] (run50 0) (run50 1)
    [] [run100 1] [run100 0] [] (by decide +kernel) (by decide +kernel) (.inl rfl)).mpr
    (.inr (.inr (by decide +kernel)))

end PerfTestProof
