import PerfTest.Java.Numbers
import PerfTest.Metrics.ExpectedRates

namespace Java

structure BigDecimal where
  unscaledValue : ℤ
  scale : ℤ
  deriving DecidableEq, Repr

namespace BigDecimal

def isExponent (c : Char) : Bool := c = 'e' || c = 'E'

/-- `new BigDecimal(text)`, with `none` for the NumberFormatException: a sign, digits with a point among them and an
    exponent that is an `int` and leaves the scale one. -/
def parse (text : String) : Option BigDecimal := do
  let (sign, unsigned) : ℤ × List Char := match text.toList with
    | '-' :: unsigned => (-1, unsigned)
    | '+' :: unsigned => (1, unsigned)
    | unsigned => (1, unsigned)
  let significand := unsigned.takeWhile (!isExponent ·)
  let integer := significand.takeWhile (· ≠ '.')
  let fraction := (significand.dropWhile (· ≠ '.')).tail
  let magnitude ← decimal (integer ++ fraction)
  let exponent ← match unsigned.dropWhile (!isExponent ·) with
    | [] => some 0
    | _ :: exponent => (signed exponent).filter fun exponent => -2 ^ 31 < exponent && exponent < 2 ^ 31
  let scale := fraction.length - exponent
  if -2 ^ 31 ≤ scale ∧ scale < 2 ^ 31 then some ⟨sign * magnitude, scale⟩ else none

def value (number : BigDecimal) : ℚ :=
  if 0 ≤ number.scale then number.unscaledValue / 10 ^ number.scale.toNat
  else number.unscaledValue * 10 ^ (-number.scale).toNat

end BigDecimal

end Java

namespace PerfTestModel

def parsePublishingIntervalText (input : String) : Except Java.RuntimeException ℤ :=
  parsePublishingInterval ((Java.BigDecimal.parse input).map Java.BigDecimal.value)

end PerfTestModel

namespace PerfTestProof

open PerfTestModel

structure ParsesInterval (text : String) : Prop where
  accepts : ∀ millis, parsePublishingIntervalText text = .ok millis ↔
    ∃ number, Java.BigDecimal.parse text = some number ∧ 1 / 10 ≤ number.value ∧
      (1000 * number.value).floor < 2 ^ 63 ∧ millis = (1000 * number.value).floor
  rejects : ∀ exception, parsePublishingIntervalText text = .error exception → exception.isIllegalArgument = true

theorem interval_of_number {value : ℚ} (positive : 0 < value) : parsePublishingInterval (some value) =
    if Java.long (1000 * value).floor < 100 then .error (.illegalArgument "Cannot be less than 0.1")
    else .ok (Java.long (1000 * value).floor) := by
  have floors : (value * 1000).num.tdiv (value * 1000).den = (1000 * value).floor := by
    have scaled : 0 ≤ (value * 1000).num := Rat.num_nonneg.mpr (by positivity)
    rw [Int.tdiv_eq_ediv_of_nonneg scaled, Rat.floor_def, mul_comm]
  unfold parsePublishingInterval
  dsimp only
  rw [if_neg (not_le.mpr positive), floors]

theorem enough_iff (value : ℚ) : 100 ≤ (1000 * value).floor ↔ 1 / 10 ≤ value := by
  rw [Rat.le_floor_iff]
  constructor
  · intro enough
    norm_num at enough
    linarith
  · intro enough
    norm_num
    linarith

variable {text : String} {number : Java.BigDecimal}

theorem parses_rejected {exception : Java.RuntimeException}
    (rejected : parsePublishingIntervalText text = .error exception)
    (illegal : exception.isIllegalArgument = true) : ParsesInterval text ↔
      ∀ number, Java.BigDecimal.parse text = some number → 1 / 10 ≤ number.value →
        2 ^ 63 ≤ (1000 * number.value).floor := by
  constructor
  · intro exact_ number parsed enough
    by_contra fits
    have accepted := (exact_.accepts _).mpr ⟨number, parsed, enough, not_le.mp fits, rfl⟩
    cases rejected.symm.trans accepted
  · intro none
    constructor
    · intro millis
      constructor
      · intro accepted
        cases rejected.symm.trans accepted
      · rintro ⟨number, parsed, enough, fits, rfl⟩
        exact absurd fits (not_lt.mpr (none number parsed enough))
    · intro other rejected'
      obtain rfl := Except.error.inj (rejected.symm.trans rejected')
      exact illegal

theorem text_of_number (parsed : Java.BigDecimal.parse text = some number) :
    parsePublishingIntervalText text = parsePublishingInterval (some number.value) := by
  unfold parsePublishingIntervalText
  rw [parsed, Option.map_some]

theorem parses_accepted (parsed : Java.BigDecimal.parse text = some number) (positive : 0 < number.value)
    (accepted : parsePublishingIntervalText text = .ok (Java.long (1000 * number.value).floor))
    (enough : 100 ≤ Java.long (1000 * number.value).floor) :
    ParsesInterval text ↔ (1000 * number.value).floor < 2 ^ 63 := by
  have least := enough_iff number.value
  have lower : 0 ≤ (1000 * number.value).floor := by
    rw [Rat.le_floor_iff]
    norm_num
    linarith
  generalize floors : (1000 * number.value).floor = floor at accepted enough least lower ⊢
  constructor
  · intro exact_
    obtain ⟨other, again, -, fits, -⟩ := (exact_.accepts _).mp accepted
    obtain rfl := Option.some.inj (parsed.symm.trans again)
    exact floors ▸ fits
  · intro fits
    have same : Java.long floor = floor := Java.long_eq_self.mpr ⟨by omega, fits⟩
    rw [same] at accepted enough
    constructor
    · intro millis
      rw [accepted]
      constructor
      · intro returned
        obtain rfl := Except.ok.inj returned
        exact ⟨number, parsed, least.mp enough, floors.symm ▸ fits, floors.symm⟩
      · rintro ⟨other, again, -, -, rfl⟩
        obtain rfl := Option.some.inj (parsed.symm.trans again)
        rw [floors]
    · intro exception rejected
      cases accepted.symm.trans rejected

/-- The comparison with 100 is one of the wrapped number. -/
theorem parses_number (parsed : Java.BigDecimal.parse text = some number) : ParsesInterval text ↔
    (1000 * number.value).floor < 2 ^ 63 ∨ Java.long (1000 * number.value).floor < 100 := by
  have outcome := text_of_number parsed
  by_cases positive : 0 < number.value
  · rw [interval_of_number positive] at outcome
    by_cases few : Java.long (1000 * number.value).floor < 100
    · rw [if_pos few] at outcome
      rw [parses_rejected outcome rfl]
      refine iff_of_true (fun other again enough => ?_) (Or.inr few)
      obtain rfl := Option.some.inj (parsed.symm.trans again)
      have hundred := (enough_iff number.value).mpr enough
      by_contra fits
      have same := Java.long_eq_self.mpr ⟨by omega, not_le.mp fits⟩
      omega
    · rw [if_neg few] at outcome
      rw [or_iff_left few]
      exact parses_accepted parsed positive outcome (not_lt.mp few)
  · have rejected : parsePublishingInterval (some number.value) = .error (.illegalArgument "Must be positive") :=
      if_pos (not_lt.mp positive)
    rw [parses_rejected (outcome.trans rejected) rfl]
    refine iff_of_true (fun other again enough => ?_) (Or.inl ?_)
    · obtain rfl := Option.some.inj (parsed.symm.trans again)
      exact absurd (lt_of_lt_of_le (by norm_num) enough) positive
    · rw [Rat.floor_lt_iff]
      norm_num
      linarith

/-- Only the low 64 bits of the milliseconds are left when they are compared with 100. -/
theorem publishing_interval_iff (text : String) : ParsesInterval text ↔
    ∀ number, Java.BigDecimal.parse text = some number →
      (1000 * number.value).floor < 2 ^ 63 ∨ Java.long (1000 * number.value).floor < 100 := by
  cases parsed : Java.BigDecimal.parse text with
  | none =>
    have outcome : parsePublishingIntervalText text = .error (.illegalArgument "Must be a number") := by
      unfold parsePublishingIntervalText
      rw [parsed]
      rfl
    rw [parses_rejected outcome rfl, parsed]
    exact iff_of_true (fun number again => by cases again) (fun number again => by cases again)
  | some number =>
    rw [parses_number parsed]
    constructor
    · rintro fits other same
      exact Option.some.inj same ▸ fits
    · exact fun all => all number rfl

/-- More than 584 million years are a tenth of a second. -/
theorem interval_wraps :
    parsePublishingIntervalText "18446744073709551.716" = .ok 100 ∧ ¬ ∀ text, ParsesInterval text := by
  refine ⟨by decide +kernel, fun exact_ => ?_⟩
  have parsed : Java.BigDecimal.parse "18446744073709551.716" = some ⟨18446744073709551716, 3⟩ := by decide +kernel
  exact absurd ((parses_number parsed).mp (exact_ _)) (by decide +kernel)

end PerfTestProof
