import Mathlib.Algebra.Order.Field.Rat
import Mathlib.Tactic.LinearCombination
import PerfTest.Java.Primitives
import PerfTest.Java.Strings
import PerfTest.Scenario.Leaks

open Java (RuntimeException)

namespace PerfTestModel

def parsePublishingInterval (input : Option ℚ) : Except RuntimeException ℤ :=
  match input with
  | none => .error (.illegalArgument "Must be a number")
  | some decimalValue =>
    if decimalValue ≤ 0 then .error (.illegalArgument "Must be positive")
    else
      let result := Java.long ((decimalValue * 1000).num.tdiv (decimalValue * 1000).den)
      if result < 100 then .error (.illegalArgument "Cannot be less than 0.1") else .ok result

/-- A value that is infinite or not a number is `none`. -/
structure DoubleAccumulator where
  function : Option ℚ → Option ℚ → Option ℚ
  value : Option ℚ

namespace DoubleAccumulator

def accumulate (accumulator : DoubleAccumulator) (value : Option ℚ) : DoubleAccumulator :=
  { accumulator with value := accumulator.function accumulator.value value }

def createDoubleAccumulator (expected : ℚ) : DoubleAccumulator := ⟨fun _ _ => some expected, some expected⟩

def lastValue : DoubleAccumulator := ⟨fun _ newValue => newValue, some 0⟩

def zero : DoubleAccumulator := ⟨fun _ _ => some 0, some 0⟩

end DoubleAccumulator

inductive StartType
  | producer
  | consumer
  deriving DecidableEq, Repr

structure ExpectedMetrics where
  producers : ℤ
  consumers : ℤ
  expectedPublished : DoubleAccumulator
  expectedConsumed : DoubleAccumulator
  consumingRateCalculation : ℤ → Option ℚ

namespace ExpectedMetrics

def METRICS_PUBLISHED : String := "expected_published"

def METRICS_CONSUMED : String := "expected_consumed"

/-- The rates that the command line exposes instead are the map's. -/
def create (params : PublishingParams) (consumerRateLimit : ℚ) (exposedMetrics : String → Option ℚ) : ExpectedMetrics :=
  { producers := 0
    consumers := 0
    expectedPublished :=
      match exposedMetrics METRICS_PUBLISHED with
      | some expectedRateValue => .createDoubleAccumulator expectedRateValue
      | none =>
        if 0 ≤ params.producerRateLimit ∨ params.publishingRates ≠ [] ∨ params.publishingInterval ≠ none then .lastValue
        else .zero
    expectedConsumed :=
      match exposedMetrics METRICS_CONSUMED with
      | some expectedRateValue => .createDoubleAccumulator expectedRateValue
      | none => if 0 < consumerRateLimit then .lastValue else .zero
    consumingRateCalculation := fun consumerCount =>
      if exposedMetrics METRICS_CONSUMED = none ∧ 0 < consumerRateLimit then some (consumerCount * consumerRateLimit)
      else some 0 }

/-- What `register` sets: without an interval, the rate is that of the indicator. -/
def publishingRateCalculation (publishingInterval : Option ℤ) (rate : ℚ) (producers : ℤ) : Option ℚ :=
  match publishingInterval with
  | none => some (producers * rate)
  | some publishingInterval =>
    let seconds := publishingInterval / 1000
    if seconds = 0 then none else some (producers / seconds)

def agentStarted (calculation : ℤ → Option ℚ) (metrics : ExpectedMetrics) : StartType → ExpectedMetrics
  | .producer =>
    let producers := Java.int (metrics.producers + 1)
    { metrics with
      producers := producers
      expectedPublished := metrics.expectedPublished.accumulate (calculation producers) }
  | .consumer =>
    let consumers := Java.int (metrics.consumers + 1)
    { metrics with
      consumers := consumers
      expectedConsumed := metrics.expectedConsumed.accumulate (metrics.consumingRateCalculation consumers) }

end ExpectedMetrics

end PerfTestModel

namespace PerfTestProof

open PerfTestModel PerfTestModel.ExpectedMetrics

section Intervals

variable {input : Option ℚ} {millis : ℤ}

theorem parsed_interval (parsed : parsePublishingInterval input = .ok millis) : 100 ≤ millis := by
  unfold parsePublishingInterval at parsed
  split at parsed
  · cases parsed
  · split at parsed
    · cases parsed
    · dsimp only at parsed
      split at parsed
      case isTrue => cases parsed
      case isFalse enough =>
        cases parsed
        exact not_lt.mp enough

end Intervals

section Starts

variable (calculation : ℤ → Option ℚ) {metrics : ExpectedMetrics}

theorem int_add_one (count : ℕ) : Java.int (Java.int count + 1) = Java.int (count + 1 : ℕ) := by
  unfold Java.int
  rw [Int.bmod_add_bmod, Nat.cast_succ]

theorem started_producers (created : metrics.producers = 0) (starts : List StartType) :
    (starts.foldl (agentStarted calculation) metrics).producers = Java.int (starts.count .producer) := by
  induction starts using List.reverseRecOn with
  | nil => exact created
  | append_singleton starts start ih =>
    rw [List.foldl_append, List.count_append]
    cases start with
    | producer =>
      show Java.int ((starts.foldl (agentStarted calculation) metrics).producers + 1) = _
      rw [ih, int_add_one]
      rfl
    | consumer => exact ih

theorem started_lastValue (created : metrics.producers = 0) (last : metrics.expectedPublished = .lastValue)
    (starts : List StartType) :
    (starts.foldl (agentStarted calculation) metrics).expectedPublished =
      { DoubleAccumulator.lastValue with
        value := if starts.count .producer = 0 then some 0 else calculation (Java.int (starts.count .producer)) } := by
  induction starts using List.reverseRecOn with
  | nil => exact last
  | append_singleton starts start ih =>
    have counted := started_producers calculation created (starts ++ [start])
    rw [List.foldl_append] at counted ⊢
    cases start with
    | producer =>
      have more : (starts ++ [StartType.producer]).count .producer ≠ 0 := by
        rw [List.count_append, List.count_singleton_self]
        exact Nat.succ_ne_zero _
      rw [if_neg more, ← counted]
      show DoubleAccumulator.accumulate (starts.foldl (agentStarted calculation) metrics).expectedPublished _ = _
      rw [ih]
      rfl
    | consumer =>
      have same : (starts ++ [StartType.consumer]).count .producer = starts.count .producer := by
        rw [List.count_append]
        rfl
      rw [same]
      exact ih

theorem started_constant {value : Option ℚ} (constant : metrics.expectedPublished = ⟨fun _ _ => value, value⟩)
    (starts : List StartType) :
    (starts.foldl (agentStarted calculation) metrics).expectedPublished = ⟨fun _ _ => value, value⟩ := by
  induction starts using List.reverseRecOn with
  | nil => exact constant
  | append_singleton starts start ih =>
    rw [List.foldl_append]
    cases start with
    | producer =>
      show DoubleAccumulator.accumulate (starts.foldl (agentStarted calculation) metrics).expectedPublished _ = _
      rw [ih]
      rfl
    | consumer => exact ih

end Starts

section Rates

variable {millis : ℤ} {count : ℕ}

theorem int_of_nat (count : ℕ) : ∃ wraps : ℤ, 0 ≤ wraps ∧ (count : ℤ) = Java.int count + 2 ^ 32 * wraps := by
  have whole := Int.bmod_add_bdiv (count : ℤ) (2 ^ 32)
  have upper := (Java.int_range count).2
  refine ⟨(count : ℤ).bdiv (2 ^ 32), ?_, whole.symm⟩
  unfold Java.int at upper
  by_contra negative
  omega

def exactRate (count : ℕ) (millis : ℤ) : ℚ := (count : ℚ) / ((millis : ℚ) / 1000)

/-- Only whole seconds are counted, and the counter is an `int`. -/
theorem rate_exact_iff (positive : 0 < millis) (some_ : 0 < count) (rate : ℚ) :
    publishingRateCalculation (some millis) rate (Java.int count) = some (exactRate count millis) ↔
      count < 2 ^ 31 ∧ 1000 ∣ millis := by
  have division := Int.emod_add_mul_ediv millis 1000
  have restLower := Int.emod_nonneg millis (by decide : (1000 : ℤ) ≠ 0)
  have restUpper := Int.emod_lt_of_pos millis (by decide : (0 : ℤ) < 1000)
  unfold publishingRateCalculation
  dsimp only
  generalize millis / 1000 = seconds at division ⊢
  generalize millis % 1000 = rest at division restLower restUpper
  split
  case isTrue zero =>
    constructor
    · exact fun impossible => by cases impossible
    · rintro ⟨-, whole⟩
      omega
  case isFalse nonzero =>
    have secondsPositive : 0 < seconds := by omega
    have secondsRat : (0 : ℚ) < seconds := by exact_mod_cast secondsPositive
    have millisRat : (0 : ℚ) < millis := by exact_mod_cast positive
    have crossed : (Java.int count : ℚ) / seconds = exactRate count millis ↔
        Java.int count * millis = count * 1000 * seconds := by
      unfold exactRate
      rw [div_div_eq_mul_div, div_eq_div_iff secondsRat.ne' millisRat.ne']
      exact_mod_cast Iff.rfl
    rw [Option.some.injEq, crossed]
    constructor
    · intro equal
      obtain ⟨wraps, wrapsNonneg, counted⟩ := int_of_nat count
      have upper := (Java.int_range count).2
      generalize Java.int count = shown at equal counted upper
      have lost : shown * rest = 2 ^ 32 * 1000 * (wraps * seconds) := by
        rw [← division, counted] at equal
        linear_combination equal
      rcases wrapsNonneg.eq_or_lt with rfl | wrapsPositive
      · have factors : shown * rest = 0 := by rw [lost, zero_mul, mul_zero]
        rcases mul_eq_zero.mp factors with none | whole
        · omega
        · exact ⟨by omega, by omega⟩
      · have many : 1 ≤ wraps * seconds := mul_pos wrapsPositive secondsPositive
        have few : shown * rest ≤ 2 ^ 31 * rest := mul_le_mul_of_nonneg_right upper.le restLower
        omega
    · rintro ⟨fits, whole⟩
      have exact_ : Java.int count = count := Int.bmod_eq_of_le (by omega) (by omega)
      obtain rfl : rest = 0 := by omega
      rw [exact_, ← division]
      ring

end Rates

section Scheduling

variable {rateToPublishingInterval : ℚ → ℤ} {params : PublishingParams} {millis : ℤ}

theorem scheduledRate_cases {rate : ℚ} (scheduled : params.scheduledRate = some rate) :
    rate = params.producerRateLimit ∧ 1 ≤ rate ∧ rate ≤ 10 := by
  unfold PublishingParams.scheduledRate PublishingParams.rateIndicator at scheduled
  by_cases noRates : params.publishingRates = []
  · rw [if_pos noRates] at scheduled
    obtain ⟨inRange, same⟩ := Option.ite_none_right_eq_some.mp scheduled
    obtain rfl := Option.some.inj same
    exact ⟨rfl, inRange⟩
  · rw [if_neg noRates] at scheduled
    cases scheduled

/-- An interval that producers are scheduled with comes from a rate or is a given one. -/
theorem scheduled_interval (scheduled : (params.startProducers rateToPublishingInterval).1.driver = .scheduled millis) :
    (params.startProducers rateToPublishingInterval).2.publishingInterval = some millis ∧
      ((∃ rate, params.scheduledRate = some rate ∧ millis = rateToPublishingInterval rate) ∨
        params.publishingInterval = some millis) := by
  have interval : (params.calculateInterval rateToPublishingInterval).publishingInterval = some millis := by
    have driver : (params.calculateInterval rateToPublishingInterval).driver = .scheduled millis := scheduled
    unfold PublishingParams.driver at driver
    cases known : (params.calculateInterval rateToPublishingInterval).publishingInterval with
    | some given =>
      rw [known] at driver
      cases driver
      rfl
    | none =>
      rw [known] at driver
      dsimp only at driver
      split at driver
      · cases driver
      · cases driver
  refine ⟨interval, ?_⟩
  unfold PublishingParams.calculateInterval at interval
  cases rated : params.scheduledRate with
  | some rate =>
    rw [rated] at interval
    exact Or.inl ⟨rate, rfl, (Option.some.inj interval).symm⟩
  | none =>
    rw [rated] at interval
    exact Or.inr interval

theorem create_published (params : PublishingParams) (consumerRateLimit : ℚ) (exposedMetrics : String → Option ℚ) :
    (create params consumerRateLimit exposedMetrics).expectedPublished =
      match exposedMetrics METRICS_PUBLISHED with
      | some expected => .createDoubleAccumulator expected
      | none =>
        if 0 ≤ params.producerRateLimit ∨ params.publishingRates ≠ [] ∨ params.publishingInterval ≠ none then .lastValue
        else .zero := rfl

end Scheduling

/-- `getSeconds` drops the fraction of the interval, and an interval below one second has no seconds at all. -/
theorem expected_rate_iff {rateToPublishingInterval : ℚ → ℤ}
    (positiveInterval : ∀ rate, 1 ≤ rate → rate ≤ 10 → 0 < rateToPublishingInterval rate) (params : PublishingParams)
    (given : ∀ millis, params.publishingInterval = some millis → ∃ input, parsePublishingInterval input = .ok millis)
    {millis : ℤ} (scheduled : (params.startProducers rateToPublishingInterval).1.driver = .scheduled millis)
    (consumerRateLimit rate : ℚ) (exposedMetrics : String → Option ℚ) (starts : List StartType) :
    (starts.foldl (agentStarted (publishingRateCalculation
        (params.startProducers rateToPublishingInterval).2.publishingInterval rate))
      (create params consumerRateLimit exposedMetrics)).expectedPublished.value =
        some (exactRate (starts.count .producer) millis) ↔
      match exposedMetrics METRICS_PUBLISHED with
      | some expected => expected = exactRate (starts.count .producer) millis
      | none => starts.count .producer = 0 ∨ starts.count .producer < 2 ^ 31 ∧ 1000 ∣ millis := by
  obtain ⟨interval, origin⟩ := scheduled_interval scheduled
  have positive : 0 < millis := by
    rcases origin with ⟨rate, rated, rfl⟩ | asGiven
    · obtain ⟨-, lower, upper⟩ := scheduledRate_cases rated
      exact positiveInterval rate lower upper
    · obtain ⟨input, parsed⟩ := given millis asGiven
      exact lt_of_lt_of_le (by decide) (parsed_interval parsed)
  have instructed : 0 ≤ params.producerRateLimit ∨ params.publishingRates ≠ [] ∨ params.publishingInterval ≠ none := by
    rcases origin with ⟨rate, rated, -⟩ | asGiven
    · obtain ⟨rfl, lower, -⟩ := scheduledRate_cases rated
      exact Or.inl (zero_le_one.trans lower)
    · exact Or.inr (Or.inr (asGiven ▸ Option.some_ne_none millis))
  have created := create_published params consumerRateLimit exposedMetrics
  rw [interval]
  cases exposed : exposedMetrics METRICS_PUBLISHED with
  | some expected =>
    rw [exposed] at created
    rw [started_constant _ created]
    exact Option.some_inj
  | none =>
    rw [exposed] at created
    dsimp only at created ⊢
    rw [if_pos instructed] at created
    rw [started_lastValue _ rfl created]
    rcases Nat.eq_zero_or_pos (starts.count .producer) with noProducer | some_
    · dsimp only
      rw [if_pos noProducer, noProducer, exactRate]
      simp
    · dsimp only
      rw [if_neg some_.ne', rate_exact_iff positive some_]
      exact ⟨Or.inr, fun either => either.resolve_left some_.ne'⟩

def everyInterval (millis : ℤ) : PublishingParams := ⟨-1, [], some millis, 1⟩

theorem expected_every_two_seconds :
    ([StartType.producer, .consumer, .producer, .producer].foldl (agentStarted (publishingRateCalculation
        ((everyInterval 2000).startProducers fun rate => (1000 / rate).floor).2.publishingInterval 0))
      (create (everyInterval 2000) 0 fun _ => none)).expectedPublished.value = some (exactRate 3 2000) := by
  have floors : ∀ rate : ℚ, 1 ≤ rate → rate ≤ 10 → 0 < (1000 / rate).floor := by
    intro rate lower upper
    have quotient : (1 : ℚ) ≤ 1000 / rate := (one_le_div (zero_lt_one.trans_le lower)).mpr (upper.trans (by decide))
    exact zero_lt_one.trans_le (Rat.le_floor_iff.mpr quotient)
  have given : ∀ millis, (everyInterval 2000).publishingInterval = some millis →
      ∃ input, parsePublishingInterval input = .ok millis := by
    rintro millis ⟨⟩
    exact ⟨some 2, by decide +kernel⟩
  exact (expected_rate_iff floors (everyInterval 2000) given (by decide +kernel) 0 0 (fun _ => none)
    [.producer, .consumer, .producer, .producer]).mpr (Or.inr ⟨by decide, by decide⟩)

/-- Every half second: the expected rate is a division by zero seconds. Every 2.5 seconds: it is that of 2 seconds. -/
theorem expected_below_one_second :
    parsePublishingInterval (some (1 / 2)) = .ok 500 ∧
      ([StartType.producer].foldl (agentStarted (publishingRateCalculation (some 500) 0))
        (create (everyInterval 500) 0 fun _ => none)).expectedPublished.value = none ∧
      exactRate 1 500 = 2 ∧
      parsePublishingInterval (some (5 / 2)) = .ok 2500 ∧
      ([StartType.producer].foldl (agentStarted (publishingRateCalculation (some 2500) 0))
        (create (everyInterval 2500) 0 fun _ => none)).expectedPublished.value = some (1 / 2) ∧
      exactRate 1 2500 = 2 / 5 := by
  refine ⟨by decide +kernel, by decide +kernel, by decide +kernel, by decide +kernel, by decide +kernel,
    by decide +kernel⟩

end PerfTestProof
