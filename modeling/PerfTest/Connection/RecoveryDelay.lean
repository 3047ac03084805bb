import Mathlib.Data.List.TakeWhile
import PerfTest.Java.Numbers

open Java (RuntimeException)

namespace PerfTestModel

/-- `nextLong` on an empty range is an IllegalArgumentException. -/
structure ThreadLocalRandom where
  choose : ℤ → ℤ → ℤ
  inRange : ∀ origin bound, origin < bound → origin ≤ choose origin bound ∧ choose origin bound < bound

def ThreadLocalRandom.nextLong (random : ThreadLocalRandom) (origin bound : ℤ) : Except RuntimeException ℤ :=
  if origin < bound then .ok (random.choose origin bound)
  else .error (.illegalArgument "bound must be greater than origin")

namespace Utils

/-- The number of attempts that are made is not used. -/
abbrev RecoveryDelayHandler := ThreadLocalRandom → ℤ → Except RuntimeException ℤ

def pattern (argument : String) : Option (String × Option String) :=
  let first := argument.toList.takeWhile Char.isDigit
  if first = [] then none
  else
    match argument.toList.dropWhile Char.isDigit with
    | [] => some (String.ofList first, none)
    | '-' :: second =>
      if second ≠ [] ∧ second.all Char.isDigit then some (String.ofList first, some (String.ofList ('-' :: second)))
      else none
    | _ => none

def parseLong (text : String) : Except RuntimeException ℤ :=
  match Java.parseLong text with
  | some value => .ok value
  | none => .error (.numberFormat text)

def getRecoveryDelayHandler : Option String → Except RuntimeException (Option RecoveryDelayHandler)
  | none => .ok none
  | some argument =>
    if Java.trim argument = "" then .ok none
    else
      let argument := Java.trim argument
      match pattern argument with
      | none => .error (.illegalArgument
          "Incorrect argument for connection recovery interval. Must be e.g. 30 or 30-60.")
      | some (first, second) => do
        let delay := Java.long ((← parseLong first) * 1000)
        match second with
        | none => .ok (some fun _ _ => .ok delay)
        | some second =>
          let maxInput := Java.long ((← parseLong (String.ofList (second.toList.filter (· ≠ '-')))) * 1000)
          if maxInput ≤ delay then .error (.illegalArgument ("Wrong interval min-max values: " ++ argument))
          else
            let maxDelay := Java.long (maxInput + 1000)
            .ok (some fun random _ => random.nextLong delay maxDelay)

end Utils

end PerfTestModel

namespace PerfTestProof

open PerfTestModel PerfTestModel.Utils

def IsMinimum (text : String) (minimum : ℕ) : Prop :=
  ∃ digits, digits ≠ [] ∧ (∀ c ∈ digits, c.isDigit) ∧ (Java.trim text).toList = digits ∧
    minimum = Java.number digits

def IsRange (text : String) (minimum maximum : ℕ) : Prop :=
  ∃ first second, (first ≠ [] ∧ ∀ c ∈ first, c.isDigit) ∧ (second ≠ [] ∧ ∀ c ∈ second, c.isDigit) ∧
    (Java.trim text).toList = first ++ '-' :: second ∧ minimum = Java.number first ∧ maximum = Java.number second

variable {text : String} {minimum maximum : ℕ}

section Forms

theorem parsed_long {digits : List Char} (some_ : digits ≠ []) (ascii : ∀ c ∈ digits, c.isDigit) :
    Utils.parseLong (String.ofList digits) = if Java.number digits < 2 ^ 63 then .ok (Java.number digits : ℤ)
      else .error (.numberFormat (String.ofList digits)) := by
  unfold Utils.parseLong
  rw [Java.parseLong_digits some_ ascii]
  by_cases fits : Java.number digits < 2 ^ 63
  · rw [if_pos fits, if_pos fits]
  · rw [if_neg fits, if_neg fits]

theorem ok_bind {α β : Type} (value : α) (next : α → Except RuntimeException β) :
    (Except.ok value >>= next) = next value := rfl

theorem pattern_minimum {digits : List Char} (some_ : digits ≠ []) (ascii : ∀ c ∈ digits, c.isDigit)
    (whole : text.toList = digits) : pattern text = some (String.ofList digits, none) := by
  unfold pattern
  rw [whole, List.takeWhile_eq_self_iff.mpr ascii, List.dropWhile_eq_nil_iff.mpr ascii]
  exact if_neg some_

theorem pattern_range {first second : List Char} (someFirst : first ≠ []) (asciiFirst : ∀ c ∈ first, c.isDigit)
    (someSecond : second ≠ []) (asciiSecond : ∀ c ∈ second, c.isDigit) (whole : text.toList = first ++ '-' :: second) :
    pattern text = some (String.ofList first, some (String.ofList ('-' :: second))) := by
  have taken : (first ++ '-' :: second).takeWhile Char.isDigit = first := by
    rw [List.takeWhile_append_of_pos asciiFirst, List.takeWhile_cons_of_neg (by decide), List.append_nil]
  have left : (first ++ '-' :: second).dropWhile Char.isDigit = '-' :: second := by
    rw [List.dropWhile_append_of_pos asciiFirst, List.dropWhile_cons_of_neg (by decide)]
  unfold pattern
  rw [whole, taken, left]
  exact (if_neg someFirst).trans (if_pos ⟨someSecond, List.all_eq_true.mpr asciiSecond⟩)

theorem pattern_forms {first : String} {second : Option String}
    (matched : pattern (Java.trim text) = some (first, second)) :
    (∃ minimum, IsMinimum text minimum) ∨ ∃ minimum maximum, IsRange text minimum maximum := by
  have whole := List.takeWhile_append_dropWhile (p := Char.isDigit) (l := (Java.trim text).toList)
  have decimals : ∀ c ∈ (Java.trim text).toList.takeWhile Char.isDigit, c.isDigit :=
    fun c inside => List.mem_takeWhile_imp inside
  unfold pattern at matched
  generalize (Java.trim text).toList.takeWhile Char.isDigit = digits at matched whole decimals
  generalize (Java.trim text).toList.dropWhile Char.isDigit = rest at matched whole
  dsimp only at matched
  obtain ⟨some_, groups⟩ := Option.ite_none_left_eq_some.mp matched
  split at groups
  · rw [List.append_nil] at whole
    exact Or.inl ⟨_, digits, some_, decimals, whole.symm, rfl⟩
  · obtain ⟨⟨someSecond, ascii⟩, -⟩ := Option.ite_none_right_eq_some.mp groups
    exact Or.inr ⟨_, _, digits, _, ⟨some_, decimals⟩, ⟨someSecond, List.all_eq_true.mp ascii⟩, whole.symm, rfl, rfl⟩
  · cases groups

theorem not_both (isMinimum : IsMinimum text minimum) {lower upper : ℕ} : ¬ IsRange text lower upper := by
  rintro ⟨first, second, ⟨someFirst, asciiFirst⟩, ⟨someSecond, asciiSecond⟩, whole, -, -⟩
  obtain ⟨digits, some_, ascii, single, -⟩ := isMinimum
  have groups := (pattern_minimum some_ ascii single).symm.trans
    (pattern_range someFirst asciiFirst someSecond asciiSecond whole)
  obtain ⟨-, second⟩ := Prod.mk.inj (Option.some.inj groups)
  cases second

theorem minimum_unique {other : ℕ} (isMinimum : IsMinimum text minimum) (again : IsMinimum text other) :
    minimum = other := by
  obtain ⟨digits, -, -, whole, rfl⟩ := isMinimum
  obtain ⟨digits', -, -, whole', rfl⟩ := again
  rw [← whole, ← whole']

theorem range_unique {lower upper : ℕ} (isRange : IsRange text minimum maximum) (again : IsRange text lower upper) :
    minimum = lower ∧ maximum = upper := by
  obtain ⟨first, second, ⟨someFirst, asciiFirst⟩, ⟨someSecond, asciiSecond⟩, whole, rfl, rfl⟩ := isRange
  obtain ⟨first', second', ⟨someFirst', asciiFirst'⟩, ⟨someSecond', asciiSecond'⟩, whole', rfl, rfl⟩ := again
  have groups := (pattern_range someFirst asciiFirst someSecond asciiSecond whole).symm.trans
    (pattern_range someFirst' asciiFirst' someSecond' asciiSecond' whole')
  obtain ⟨left, right⟩ := Prod.mk.inj (Option.some.inj groups)
  obtain rfl := String.ofList_injective left
  obtain ⟨-, rfl⟩ := List.cons.inj (String.ofList_injective (Option.some.inj right))
  exact ⟨rfl, rfl⟩

theorem given_of_form (form : (∃ minimum, IsMinimum text minimum) ∨ ∃ minimum maximum, IsRange text minimum maximum) :
    ¬ ∀ c ∈ text.toList, c ≤ ' ' := by
  intro blank
  have empty := Java.trim_empty.mpr blank
  rcases form with ⟨minimum, digits, some_, -, whole, -⟩ | ⟨minimum, maximum, first, second, -, -, whole, -, -⟩
  · exact some_ (by rw [← whole, empty]; rfl)
  · rw [empty] at whole
    exact List.append_ne_nil_of_right_ne_nil first (List.cons_ne_nil '-' second) whole.symm

end Forms

section Handlers

def rangeHandler (minimum maximum : ℕ) : RecoveryDelayHandler := fun random _ =>
  random.nextLong (Java.long (minimum * 1000)) (Java.long (maximum * 1000 + 1000))

theorem handler_blank (blank : ∀ c ∈ text.toList, c ≤ ' ') : getRecoveryDelayHandler (some text) = .ok none :=
  if_pos (Java.trim_empty.mpr blank)

theorem handler_minimum (isMinimum : IsMinimum text minimum) :
    if minimum < 2 ^ 63 then
      getRecoveryDelayHandler (some text) = .ok (some fun _ _ => .ok (Java.long (minimum * 1000)))
    else ∃ exception, getRecoveryDelayHandler (some text) = .error exception ∧ exception.isIllegalArgument = true := by
  have given : Java.trim text ≠ "" := fun empty =>
    given_of_form (Or.inl ⟨minimum, isMinimum⟩) (Java.trim_empty.mp empty)
  obtain ⟨digits, some_, ascii, whole, rfl⟩ := isMinimum
  unfold getRecoveryDelayHandler
  dsimp only
  rw [if_neg given, pattern_minimum some_ ascii whole]
  dsimp only
  rw [parsed_long some_ ascii]
  by_cases fits : Java.number digits < 2 ^ 63
  · rw [if_pos fits, if_pos fits]
    rfl
  · rw [if_neg fits, if_neg fits]
    exact ⟨_, rfl, rfl⟩

theorem handler_range (isRange : IsRange text minimum maximum) :
    if minimum < 2 ^ 63 ∧ maximum < 2 ^ 63 ∧ Java.long (minimum * 1000) < Java.long (maximum * 1000) then
      getRecoveryDelayHandler (some text) = .ok (some (rangeHandler minimum maximum))
    else ∃ exception, getRecoveryDelayHandler (some text) = .error exception ∧ exception.isIllegalArgument = true := by
  have given : Java.trim text ≠ "" := fun empty =>
    given_of_form (Or.inr ⟨minimum, maximum, isRange⟩) (Java.trim_empty.mp empty)
  obtain ⟨first, second, ⟨someFirst, asciiFirst⟩, ⟨someSecond, asciiSecond⟩, whole, rfl, rfl⟩ := isRange
  have replaced : (String.ofList ('-' :: second)).toList.filter (· ≠ '-') = second := by
    rw [String.toList_ofList, List.filter_cons_of_neg (by decide)]
    refine List.filter_eq_self.mpr fun c inside => decide_eq_true ?_
    rintro rfl
    exact absurd (asciiSecond '-' inside) (by decide)
  have bound :
      Java.long (Java.long (Java.number second * 1000) + 1000) = Java.long (Java.number second * 1000 + 1000) := by
    unfold Java.long
    rw [Int.bmod_add_bmod]
  unfold getRecoveryDelayHandler rangeHandler
  dsimp only
  rw [if_neg given, pattern_range someFirst asciiFirst someSecond asciiSecond whole, ← bound]
  dsimp only
  rw [replaced, parsed_long someFirst asciiFirst, parsed_long someSecond asciiSecond]
  by_cases fitsFirst : Java.number first < 2 ^ 63
  · rw [if_pos fitsFirst]
    by_cases fitsSecond : Java.number second < 2 ^ 63
    · rw [if_pos fitsSecond]
      rw [ok_bind, ok_bind]
      by_cases less : Java.long (Java.number first * 1000) < Java.long (Java.number second * 1000)
      · rw [if_pos ⟨fitsFirst, fitsSecond, less⟩, if_neg (not_le.mpr less)]
      · rw [if_neg fun all => less all.2.2, if_pos (not_lt.mp less)]
        exact ⟨_, rfl, rfl⟩
    · rw [if_neg fitsSecond, if_neg fun all => fitsSecond all.2.1]
      exact ⟨_, rfl, rfl⟩
  · rw [if_neg fitsFirst, if_neg fun all => fitsFirst all.1]
    exact ⟨_, rfl, rfl⟩

theorem handler_other (given : ¬ ∀ c ∈ text.toList, c ≤ ' ') (noMinimum : ¬ ∃ minimum, IsMinimum text minimum)
    (noRange : ¬ ∃ minimum maximum, IsRange text minimum maximum) :
    ∃ exception, getRecoveryDelayHandler (some text) = .error exception ∧ exception.isIllegalArgument = true := by
  have unmatched : pattern (Java.trim text) = none := by
    cases matched : pattern (Java.trim text) with
    | none => rfl
    | some groups => exact ((pattern_forms matched).elim noMinimum noRange).elim
  unfold getRecoveryDelayHandler
  dsimp only
  rw [if_neg fun empty => given (Java.trim_empty.mp empty), unmatched]
  exact ⟨_, rfl, rfl⟩

end Handlers

section Delays

def IsInterval (text : String) : Prop :=
  (∃ minimum, IsMinimum text minimum) ∨ ∃ minimum maximum, IsRange text minimum maximum ∧ minimum < maximum

structure HandlesDelays (argument : Option String) : Prop where
  null : getRecoveryDelayHandler argument = .ok none ↔ ∀ text, argument = some text → ∀ c ∈ text.toList, c ≤ ' '
  accepts : (∃ handler, getRecoveryDelayHandler argument = .ok (some handler)) ↔
    ∃ text, argument = some text ∧ IsInterval text
  rejects : ∀ exception, getRecoveryDelayHandler argument = .error exception → exception.isIllegalArgument = true
  fixed : ∀ text minimum handler, argument = some text → IsMinimum text minimum →
    getRecoveryDelayHandler argument = .ok (some handler) →
      ∀ random recoveryAttempts, handler random recoveryAttempts = .ok (minimum * 1000)
  within : ∀ text minimum maximum handler, argument = some text → IsRange text minimum maximum →
    getRecoveryDelayHandler argument = .ok (some handler) →
      ∀ random recoveryAttempts, ∃ delay : ℤ, handler random recoveryAttempts = .ok delay ∧
        minimum * 1000 ≤ delay ∧ delay < (maximum + 1) * 1000

def InRange (minimum maximum : ℕ) : Prop :=
  if minimum < maximum then
    minimum * 1000 < 2 ^ 63 ∧ maximum < 2 ^ 63 ∧ (minimum * 1000 : ℤ) < Java.long (maximum * 1000) ∧
      (minimum * 1000 : ℤ) < Java.long (maximum * 1000 + 1000)
  else 2 ^ 63 ≤ minimum ∨ Java.long (maximum * 1000) ≤ Java.long (minimum * 1000)

theorem long_le {value : ℤ} (positive : 0 ≤ value) : Java.long value ≤ value := by
  have range := Java.long_range value
  by_cases fits : value < 2 ^ 63
  · exact (Java.long_eq_self.mpr ⟨by omega, fits⟩).le
  · omega

theorem interval_given (interval : IsInterval text) : ¬ ∀ c ∈ text.toList, c ≤ ' ' := by
  refine given_of_form (interval.imp id ?_)
  rintro ⟨minimum, maximum, range, -⟩
  exact ⟨minimum, maximum, range⟩

theorem handles_none : HandlesDelays none := by
  constructor
  · constructor
    · intro null text same
      cases same
    · exact fun _ => rfl
  · constructor
    · rintro ⟨handler, accepted⟩
      cases accepted
    · rintro ⟨text, same, -⟩
      cases same
  · intro exception rejected
    cases rejected
  · intro text minimum handler same
    cases same
  · intro text minimum maximum handler same
    cases same

theorem handles_blank (blank : ∀ c ∈ text.toList, c ≤ ' ') : HandlesDelays (some text) := by
  have returned := handler_blank blank
  have noHandler : ∀ handler, getRecoveryDelayHandler (some text) ≠ .ok (some handler) := by
    intro handler accepted
    cases returned.symm.trans accepted
  constructor
  · exact ⟨fun _ text same => Option.some.inj same ▸ blank, fun _ => returned⟩
  · constructor
    · rintro ⟨handler, accepted⟩
      exact absurd accepted (noHandler handler)
    · rintro ⟨other, same, interval⟩
      obtain rfl := Option.some.inj same
      exact absurd blank (interval_given interval)
  · intro exception rejected
    cases returned.symm.trans rejected
  · exact fun _ _ handler _ _ accepted => absurd accepted (noHandler handler)
  · exact fun _ _ _ handler _ _ accepted => absurd accepted (noHandler handler)

theorem handles_rejected {exception : RuntimeException} (given : ¬ ∀ c ∈ text.toList, c ≤ ' ')
    (rejected : getRecoveryDelayHandler (some text) = .error exception) (illegal : exception.isIllegalArgument = true) :
    HandlesDelays (some text) ↔ ¬ IsInterval text := by
  have noHandler : ∀ result, getRecoveryDelayHandler (some text) ≠ .ok result := by
    intro result accepted
    cases rejected.symm.trans accepted
  constructor
  · intro handles interval
    obtain ⟨handler, accepted⟩ := handles.accepts.mpr ⟨text, rfl, interval⟩
    exact noHandler _ accepted
  · intro noInterval
    constructor
    · exact ⟨fun accepted => absurd accepted (noHandler _), fun blank => absurd (blank text rfl) given⟩
    · constructor
      · rintro ⟨handler, accepted⟩
        exact absurd accepted (noHandler _)
      · rintro ⟨other, same, interval⟩
        obtain rfl := Option.some.inj same
        exact absurd interval noInterval
    · intro other rejected'
      obtain rfl := Except.error.inj (rejected.symm.trans rejected')
      exact illegal
    · exact fun _ _ handler _ _ accepted => absurd accepted (noHandler _)
    · exact fun _ _ _ handler _ _ accepted => absurd accepted (noHandler _)

theorem handles_accepted {handler : RecoveryDelayHandler} (given : ¬ ∀ c ∈ text.toList, c ≤ ' ')
    (accepted : getRecoveryDelayHandler (some text) = .ok (some handler)) :
    HandlesDelays (some text) ↔ IsInterval text ∧
      (∀ minimum, IsMinimum text minimum →
        ∀ random recoveryAttempts, handler random recoveryAttempts = .ok (minimum * 1000)) ∧
      ∀ minimum maximum, IsRange text minimum maximum → ∀ random recoveryAttempts, ∃ delay : ℤ,
        handler random recoveryAttempts = .ok delay ∧ minimum * 1000 ≤ delay ∧ delay < (maximum + 1) * 1000 := by
  constructor
  · intro handles
    obtain ⟨other, same, interval⟩ := handles.accepts.mp ⟨handler, accepted⟩
    obtain rfl := Option.some.inj same
    exact ⟨interval, fun minimum isMinimum => handles.fixed text minimum handler rfl isMinimum accepted,
      fun minimum maximum isRange => handles.within text minimum maximum handler rfl isRange accepted⟩
  · rintro ⟨interval, fixed, within⟩
    constructor
    · constructor
      · intro null
        cases accepted.symm.trans null
      · exact fun blank => absurd (blank text rfl) given
    · exact ⟨fun _ => ⟨text, rfl, interval⟩, fun _ => ⟨handler, accepted⟩⟩
    · intro exception rejected
      cases accepted.symm.trans rejected
    · intro other minimum again same isMinimum returned
      obtain rfl := Option.some.inj same
      obtain rfl := Option.some.inj (Except.ok.inj (accepted.symm.trans returned))
      exact fixed minimum isMinimum
    · intro other minimum maximum again same isRange returned
      obtain rfl := Option.some.inj same
      obtain rfl := Option.some.inj (Except.ok.inj (accepted.symm.trans returned))
      exact within minimum maximum isRange

def least : ThreadLocalRandom := ⟨fun origin _ => origin, fun _ _ less => ⟨le_rfl, less⟩⟩

theorem handles_minimum (isMinimum : IsMinimum text minimum) :
    HandlesDelays (some text) ↔ minimum * 1000 < 2 ^ 63 := by
  have given := given_of_form (Or.inl ⟨minimum, isMinimum⟩)
  have interval : IsInterval text := Or.inl ⟨minimum, isMinimum⟩
  have outcome := handler_minimum isMinimum
  split at outcome
  case isTrue fits =>
    rw [handles_accepted given outcome]
    constructor
    · rintro ⟨-, fixed, -⟩
      have range := Java.long_range (minimum * 1000)
      have same : Java.long (minimum * 1000) = minimum * 1000 := Except.ok.inj (fixed minimum isMinimum least 0)
      omega
    · intro small
      have same : Java.long (minimum * 1000) = minimum * 1000 := Java.long_eq_self.mpr ⟨by omega, by omega⟩
      refine ⟨interval, fun other again random recoveryAttempts => ?_, fun _ _ isRange => ?_⟩
      · obtain rfl := minimum_unique isMinimum again
        exact congrArg Except.ok same
      · exact absurd isRange (not_both isMinimum)
  case isFalse large =>
    obtain ⟨exception, rejected, illegal⟩ := outcome
    rw [handles_rejected given rejected illegal]
    constructor
    · exact fun noInterval => absurd interval noInterval
    · omega

theorem interval_range (isRange : IsRange text minimum maximum) : IsInterval text ↔ minimum < maximum := by
  constructor
  · rintro (⟨other, isMinimum⟩ | ⟨lower, upper, again, less⟩)
    · exact absurd isRange (not_both isMinimum)
    · obtain ⟨rfl, rfl⟩ := range_unique isRange again
      exact less
  · exact fun less => Or.inr ⟨minimum, maximum, isRange, less⟩

/-- The delays of a range lie from its lower bound to a second after its upper one, if that is how the bounds wrap. -/
theorem delays_range (lower upper : ℕ) :
    (∀ random recoveryAttempts, ∃ delay : ℤ, rangeHandler lower upper random recoveryAttempts = .ok delay ∧
      lower * 1000 ≤ delay ∧ delay < (upper + 1) * 1000) ↔
    (lower * 1000 : ℤ) < 2 ^ 63 ∧ (lower * 1000 : ℤ) < Java.long (upper * 1000 + 1000) := by
  have lowerLe : Java.long (lower * 1000) ≤ lower * 1000 := long_le (by omega)
  have upperLe : Java.long (upper * 1000 + 1000) ≤ upper * 1000 + 1000 := long_le (by omega)
  have lowerRange := Java.long_range (lower * 1000)
  unfold rangeHandler ThreadLocalRandom.nextLong
  constructor
  · intro delays
    obtain ⟨delay, returned, atLeast, -⟩ := delays least 0
    generalize Java.long (lower * 1000) = origin at lowerLe lowerRange returned
    generalize Java.long (upper * 1000 + 1000) = bound at upperLe returned ⊢
    split at returned
    case isTrue less =>
      have same : origin = delay := Except.ok.inj returned
      exact ⟨by omega, by omega⟩
    case isFalse empty => cases returned
  · rintro ⟨fits, less⟩ random recoveryAttempts
    have same : Java.long (lower * 1000) = lower * 1000 := Java.long_eq_self.mpr ⟨by omega, fits⟩
    rw [same, if_pos less]
    obtain ⟨atLeast, below⟩ := random.inRange _ _ less
    exact ⟨_, rfl, atLeast, by omega⟩

theorem handles_range (isRange : IsRange text minimum maximum) :
    HandlesDelays (some text) ↔ InRange minimum maximum := by
  have given := given_of_form (Or.inr ⟨minimum, maximum, isRange⟩)
  have interval := interval_range isRange
  have outcome := handler_range isRange
  unfold InRange
  split at outcome
  case isTrue accepted =>
    obtain ⟨fits, fitsMaximum, less⟩ := accepted
    rw [handles_accepted given outcome, interval]
    by_cases ordered : minimum < maximum
    · rw [if_pos ordered]
      constructor
      · rintro ⟨-, -, within⟩
        obtain ⟨small, below⟩ := (delays_range minimum maximum).mp (within minimum maximum isRange)
        have same : Java.long (minimum * 1000) = minimum * 1000 := Java.long_eq_self.mpr ⟨by omega, small⟩
        rw [same] at less
        exact ⟨by omega, fitsMaximum, less, below⟩
      · rintro ⟨small, -, -, below⟩
        refine ⟨ordered, fun _ isMinimum => absurd isRange (not_both isMinimum), fun lower upper again => ?_⟩
        obtain ⟨rfl, rfl⟩ := range_unique isRange again
        exact (delays_range minimum maximum).mpr ⟨by omega, below⟩
    · rw [if_neg ordered]
      constructor
      · exact fun handles => absurd handles.1 ordered
      · rintro (large | wrapped)
        · omega
        · omega
  case isFalse refused =>
    obtain ⟨exception, rejected, illegal⟩ := outcome
    rw [handles_rejected given rejected illegal, interval]
    by_cases ordered : minimum < maximum
    · rw [if_pos ordered]
      refine iff_of_false (not_not.mpr ordered) ?_
      rintro ⟨small, fitsMaximum, less, -⟩
      have same : Java.long (minimum * 1000) = minimum * 1000 := Java.long_eq_self.mpr ⟨by omega, by omega⟩
      rw [← same] at less
      exact refused ⟨by omega, fitsMaximum, less⟩
    · rw [if_neg ordered]
      refine iff_of_true ordered ?_
      by_contra neither
      obtain ⟨fits, less⟩ := not_or.mp neither
      exact refused ⟨by omega, by omega, by omega⟩

end Delays

/-- No limit is checked before the seconds are turned into milliseconds. -/
theorem recovery_delay_iff (argument : Option String) :
    HandlesDelays argument ↔ ∀ text, argument = some text →
      (∀ minimum, IsMinimum text minimum → minimum * 1000 < 2 ^ 63) ∧
      ∀ minimum maximum, IsRange text minimum maximum → InRange minimum maximum := by
  cases argument with
  | none => exact iff_of_true handles_none fun text same => by cases same
  | some text =>
    have single : (∀ other, some text = some other →
        (∀ minimum, IsMinimum other minimum → minimum * 1000 < 2 ^ 63) ∧
        ∀ minimum maximum, IsRange other minimum maximum → InRange minimum maximum) ↔
        (∀ minimum, IsMinimum text minimum → minimum * 1000 < 2 ^ 63) ∧
        ∀ minimum maximum, IsRange text minimum maximum → InRange minimum maximum := by
      constructor
      · exact fun all => all text rfl
      · intro inRange other same
        exact Option.some.inj same ▸ inRange
    rw [single]
    by_cases minimal : ∃ minimum, IsMinimum text minimum
    · obtain ⟨minimum, isMinimum⟩ := minimal
      rw [handles_minimum isMinimum]
      constructor
      · exact fun small => ⟨fun _ again => minimum_unique isMinimum again ▸ small,
          fun _ _ isRange => absurd isRange (not_both isMinimum)⟩
      · exact fun inRange => inRange.1 minimum isMinimum
    by_cases ranged : ∃ minimum maximum, IsRange text minimum maximum
    · obtain ⟨minimum, maximum, isRange⟩ := ranged
      rw [handles_range isRange]
      constructor
      · intro inRange
        refine ⟨fun _ isMinimum => absurd isRange (not_both isMinimum), fun lower upper again => ?_⟩
        obtain ⟨rfl, rfl⟩ := range_unique isRange again
        exact inRange
      · exact fun inRange => inRange.2 minimum maximum isRange
    refine iff_of_true ?_ ⟨fun _ isMinimum => absurd ⟨_, isMinimum⟩ minimal,
      fun _ _ isRange => absurd ⟨_, _, isRange⟩ ranged⟩
    by_cases blank : ∀ c ∈ text.toList, c ≤ ' '
    · exact handles_blank blank
    · obtain ⟨exception, rejected, illegal⟩ := handler_other blank minimal ranged
      refine (handles_rejected blank rejected illegal).mpr ?_
      rintro (isMinimum | ⟨lower, upper, isRange, -⟩)
      · exact minimal isMinimum
      · exact ranged ⟨lower, upper, isRange⟩

/-- A delay below zero, and a range that is empty to the handler. -/
theorem delay_overflows :
    (∃ handler, getRecoveryDelayHandler (some "9223372036854776") = .ok (some handler) ∧
      ∀ random recoveryAttempts, handler random recoveryAttempts = .ok (-9223372036854775616)) ∧
    (∃ handler, getRecoveryDelayHandler (some "9223372036854774-9223372036854775") = .ok (some handler) ∧
      ∀ random recoveryAttempts,
        handler random recoveryAttempts = .error (.illegalArgument "bound must be greater than origin")) ∧
    ¬ ∀ argument, HandlesDelays argument := by
  have alone : IsMinimum "9223372036854776" 9223372036854776 :=
    ⟨"9223372036854776".toList, by decide, List.all_eq_true.mp (by decide), by decide, by decide⟩
  have range : IsRange "9223372036854774-9223372036854775" 9223372036854774 9223372036854775 :=
    ⟨"9223372036854774".toList, "9223372036854775".toList, ⟨by decide, List.all_eq_true.mp (by decide)⟩,
      ⟨by decide, List.all_eq_true.mp (by decide)⟩, by decide, by decide, by decide⟩
  have accepted := handler_minimum alone
  have acceptedRange := handler_range range
  rw [if_pos (by decide)] at accepted acceptedRange
  refine ⟨⟨_, accepted, fun _ _ => by decide⟩, ⟨_, acceptedRange, fun _ _ => ?_⟩, fun handles => ?_⟩
  · unfold rangeHandler ThreadLocalRandom.nextLong
    rw [if_neg (by decide)]
  · exact absurd ((handles_minimum alone).mp (handles _)) (by decide)

end PerfTestProof
