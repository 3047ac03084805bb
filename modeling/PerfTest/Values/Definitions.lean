import Mathlib.Data.List.Forall2
import PerfTest.Java.Primitives
import PerfTest.Java.Strings

open Java (RuntimeException)

namespace PerfTestModel

namespace VariableValueIndicator

def invalidDefinition (definition : String) : RuntimeException :=
  .illegalArgument ("Invalid variable value definition: " ++ definition ++ ". " ++
    "Should be [VALUE]:[DURATION] with VALUE integer >= 0 and DURATION integer > 0")

def validations : List (ℤ → Bool) := [fun value => 0 ≤ value, fun value => 0 < value]

def passes (parameters : String × (ℤ → Bool)) : Bool :=
  match Java.parseInt parameters.1 with
  | some value => parameters.2 value
  | none => false

def valid (definition : String) : Bool :=
  definition ≠ "" && definition.toList.contains ':' && (Java.split ':' definition).length == 2 &&
    ((Java.split ':' definition).zip validations).all passes

def validate (definition : String) : Except RuntimeException Unit :=
  if valid definition then .ok () else .error (invalidDefinition definition)

structure Interval (T : Type) where
  start : ℤ
  end_ : ℤ
  value : T
  deriving DecidableEq, Repr

def Interval.isIn {T : Type} (interval : Interval T) (value : ℤ) : Bool :=
  interval.start ≤ value && value < interval.end_

def elementAt (array : List String) (index : ℕ) : Except RuntimeException String :=
  match array[index]? with
  | some element => .ok element
  | none => .error (.arrayIndexOutOfBounds index)

def valueOf (text : String) : Except RuntimeException ℤ :=
  match Java.parseInt text with
  | some value => .ok value
  | none => .error (.numberFormat text)

variable {T : Type} (conversion : String → Except RuntimeException T)

def intervalsFrom (start : ℤ) : List String → Except RuntimeException (List (Interval T))
  | [] => .ok []
  | value :: values => do
    validate value
    let valueAndDuration := Java.split ':' value
    let duration ← valueOf (← elementAt valueAndDuration 1)
    let end_ := Java.int (start + duration)
    let converted ← conversion (← elementAt valueAndDuration 0)
    let intervals ← intervalsFrom end_ values
    .ok (⟨start, end_, converted⟩ :: intervals)

def intervals (values : List String) : Except RuntimeException (List (Interval T)) := intervalsFrom conversion 0 values

end VariableValueIndicator

end PerfTestModel

namespace PerfTestProof

open PerfTestModel PerfTestModel.VariableValueIndicator

structure Accepted (value duration : String) : Prop where
  value : ∃ number, Java.parseInt value = some number ∧ 0 ≤ number
  duration : ∃ number, Java.parseInt duration = some number ∧ 0 < number

def Written (value duration : String) (extra : ℕ) (definition : String) : Prop :=
  definition.toList = value.toList ++ ':' :: (duration.toList ++ List.replicate extra ':')

section Validation

variable {value duration definition : String} {number : ℤ}

theorem parseInt_no_colon (read : Java.parseInt value = some number) : ':' ∉ value.toList := by
  intro inside
  rcases (Java.parseInt_chars read).2 ':' inside with sign | sign | isDigit
  · revert sign
    decide
  · revert sign
    decide
  · revert isDigit
    decide

theorem Accepted.no_colon (accepted : Accepted value duration) :
    ':' ∉ value.toList ∧ ':' ∉ duration.toList ∧ duration ≠ "" := by
  obtain ⟨⟨first, readValue, -⟩, second, readDuration, -⟩ := accepted
  exact ⟨parseInt_no_colon readValue, parseInt_no_colon readDuration, (Java.parseInt_chars readDuration).1⟩

theorem Accepted.split (accepted : Accepted value duration) {extra : ℕ}
    (written : Written value duration extra definition) : Java.split ':' definition = [value, duration] := by
  obtain ⟨noneFirst, noneSecond, nonempty⟩ := accepted.no_colon
  exact Java.split_pair.mpr ⟨nonempty, noneFirst, noneSecond, extra, written⟩

theorem passes_iff {check : ℤ → Bool} :
    passes (value, check) = true ↔ ∃ number, Java.parseInt value = some number ∧ check number = true := by
  unfold passes
  cases read : Java.parseInt value with
  | none => simp
  | some number => simp

theorem checks_pair : ([value, duration].zip validations).all passes = true ↔ Accepted value duration := by
  simp only [validations, List.zip_cons_cons, List.zip_nil_right, List.all_cons, List.all_nil, Bool.and_true,
    Bool.and_eq_true, passes_iff, decide_eq_true_eq]
  exact ⟨fun ⟨first, second⟩ => ⟨first, second⟩, fun ⟨first, second⟩ => ⟨first, second⟩⟩

theorem valid_iff :
    valid definition = true ↔
      ∃ value duration extra, Accepted value duration ∧ Written value duration extra definition := by
  unfold valid
  constructor
  · intro all
    simp only [Bool.and_eq_true, beq_iff_eq] at all
    obtain ⟨⟨-, pair⟩, checks⟩ := all
    obtain ⟨value, duration, parts⟩ := List.length_eq_two.mp pair
    rw [parts] at checks
    obtain ⟨-, -, -, extra, written⟩ := Java.split_pair.mp parts
    exact ⟨value, duration, extra, checks_pair.mp checks, written⟩
  · rintro ⟨value, duration, extra, accepted, written⟩
    have nonempty : definition ≠ "" := by
      rintro rfl
      have sizes := congrArg List.length written
      simp at sizes
    have colon : definition.toList.contains ':' = true := by
      rw [written]
      simp
    rw [accepted.split written, checks_pair.mpr accepted, colon, decide_eq_true nonempty]
    rfl

theorem validate_ok : validate definition = .ok () ↔ valid definition = true := by
  unfold validate
  split <;> rename_i outcome
  · exact ⟨fun _ => outcome, fun _ => rfl⟩
  · exact ⟨fun accepted => absurd accepted (by simp), fun valid => absurd valid outcome⟩

theorem validate_cases (definition : String) :
    validate definition = .ok () ∨ validate definition = .error (invalidDefinition definition) := by
  unfold validate
  split
  · exact Or.inl rfl
  · exact Or.inr rfl

end Validation

section Parsing

variable {T : Type} {conversion : String → Except RuntimeException T} {value duration definition : String}
  {start length : ℤ}

theorem intervalsFrom_cons {extra : ℕ} (accepted : Accepted value duration)
    (written : Written value duration extra definition) (read : Java.parseInt duration = some length)
    (definitions : List String) :
    intervalsFrom conversion start (definition :: definitions) = (do
      let converted ← conversion value
      let intervals ← intervalsFrom conversion (Java.int (start + length)) definitions
      .ok (⟨start, Java.int (start + length), converted⟩ :: intervals)) := by
  have ok : validate definition = .ok () := validate_ok.mpr (valid_iff.mpr ⟨value, duration, extra, accepted, written⟩)
  rw [intervalsFrom, ok, accepted.split written]
  simp only [elementAt, List.getElem?_cons_zero, List.getElem?_cons_succ, bind, Except.bind, valueOf, read]

theorem valid_of_intervals {definitions : List String} {intervals : List (Interval T)}
    (parsed : intervalsFrom conversion start (definition :: definitions) = .ok intervals) :
    validate definition = .ok () := by
  rcases validate_cases definition with ok | thrown
  · exact ok
  · rw [intervalsFrom, thrown] at parsed
    cases parsed

/-- The interval that `intervals` makes of a definition. -/
def Parsed (conversion : String → Except RuntimeException T) (definition : String) (interval : Interval T) : Prop :=
  ∃ value duration extra length, Accepted value duration ∧ Written value duration extra definition ∧
    Java.parseInt duration = some length ∧ conversion value = .ok interval.value ∧
    interval.end_ = Java.int (interval.start + length)

def Converts (conversion : String → Except RuntimeException T) (definition : String) : Prop :=
  ∀ value duration extra, Accepted value duration → Written value duration extra definition →
    ∃ converted, conversion value = .ok converted

theorem intervals_parsed {definitions : List String} (valid : ∀ definition ∈ definitions, validate definition = .ok ())
    (converts : ∀ definition ∈ definitions, Converts conversion definition) (start : ℤ) :
    ∃ intervals, intervalsFrom conversion start definitions = .ok intervals ∧
      List.Forall₂ (Parsed conversion) definitions intervals := by
  induction definitions generalizing start with
  | nil => exact ⟨[], rfl, List.Forall₂.nil⟩
  | cons definition definitions ih =>
    obtain ⟨value, duration, extra, accepted, written⟩ := valid_iff.mp (validate_ok.mp (valid _ List.mem_cons_self))
    obtain ⟨length, read, -⟩ := accepted.duration
    obtain ⟨converted, conversionOk⟩ := converts _ List.mem_cons_self value duration extra accepted written
    obtain ⟨intervals, later, parsed⟩ := ih (fun definition inside => valid _ (List.mem_cons_of_mem _ inside))
      (fun definition inside => converts _ (List.mem_cons_of_mem _ inside)) (Java.int (start + length))
    refine ⟨⟨start, Java.int (start + length), converted⟩ :: intervals, ?_, ?_⟩
    · rw [intervalsFrom_cons accepted written read, conversionOk]
      simp only [bind, Except.bind, later]
    · exact List.Forall₂.cons ⟨value, duration, extra, length, accepted, written, read, conversionOk, rfl⟩ parsed

theorem converts_valueOf (definition : String) : Converts valueOf definition := by
  intro value duration extra accepted written
  obtain ⟨number, read, -⟩ := accepted.value
  exact ⟨number, by rw [valueOf, read]⟩

end Parsing

section Grammar

variable {value duration definition : String}

def FollowedByColons (definition : String) : Prop :=
  ∃ value duration extra, 0 < extra ∧ Accepted value duration ∧ Written value duration extra definition

theorem written_plain : Written value duration 0 definition ↔ definition = value ++ ":" ++ duration := by
  unfold Written
  rw [List.replicate_zero, List.append_nil, ← String.toList_inj, String.toList_append, String.toList_append]
  simp

theorem Accepted.one_colon (accepted : Accepted value duration) : (value ++ ":" ++ duration).toList.count ':' = 1 := by
  obtain ⟨noneFirst, noneSecond, -⟩ := accepted.no_colon
  rw [String.toList_append, String.toList_append, List.count_append, List.count_append,
    List.count_eq_zero_of_not_mem noneFirst, List.count_eq_zero_of_not_mem noneSecond]
  decide

theorem plain_of_not_followed (plain : ¬ FollowedByColons definition) {extra : ℕ} (accepted : Accepted value duration)
    (written : Written value duration extra definition) : definition = value ++ ":" ++ duration := by
  rcases Nat.eq_zero_or_pos extra with rfl | positive
  · exact written_plain.mp written
  · exact absurd ⟨value, duration, extra, positive, accepted, written⟩ plain

/-- VALUE and DURATION are what `Integer.valueOf` reads: digits of any script, possibly after a sign. -/
theorem definition_grammar :
    (∀ definition, ¬ FollowedByColons definition →
      (validate definition = .ok () ↔ definition.toList.count ':' = 1 ∧
        ∃ value duration, definition = value ++ ":" ++ duration ∧ Accepted value duration)) ∧
    (∀ definition, validate definition = .ok () ∨ validate definition = .error (invalidDefinition definition)) ∧
    (∀ (T : Type) (conversion : String → Except RuntimeException T) (definitions : List String),
      (∀ definition ∈ definitions,
        validate definition = .ok () ∧ ¬ FollowedByColons definition ∧ Converts conversion definition) →
      ∃ list, intervals conversion definitions = .ok list ∧
        List.Forall₂ (fun definition interval => ∃ value duration length,
          definition = value ++ ":" ++ duration ∧ Accepted value duration ∧ conversion value = .ok interval.value ∧
          Java.parseInt duration = some length ∧ interval.end_ = Java.int (interval.start + length)) definitions list) ∧
    ∀ definition, Converts valueOf definition := by
  refine ⟨fun definition plain => ?_, validate_cases, fun T conversion definitions accepted => ?_, converts_valueOf⟩
  · rw [validate_ok, valid_iff]
    constructor
    · rintro ⟨value, duration, extra, accepted, written⟩
      have text := plain_of_not_followed plain accepted written
      exact ⟨text ▸ accepted.one_colon, value, duration, text, accepted⟩
    · rintro ⟨-, value, duration, text, accepted⟩
      exact ⟨value, duration, 0, accepted, written_plain.mpr text⟩
  · obtain ⟨list, parsed, each⟩ := intervals_parsed (fun definition inside => (accepted definition inside).1)
      (fun definition inside => (accepted definition inside).2.2) 0
    refine ⟨list, parsed, ?_⟩
    rw [List.forall₂_iff_get] at each ⊢
    obtain ⟨sameLength, each⟩ := each
    refine ⟨sameLength, fun index below belowList => ?_⟩
    obtain ⟨value, duration, extra, length, ranges, written, read, converted, end_⟩ := each index below belowList
    have text := plain_of_not_followed (accepted _ (List.get_mem definitions ⟨index, below⟩)).2.1 ranges written
    exact ⟨value, duration, length, text, ranges, converted, read, end_⟩

/-- A sign is accepted, and so are colons after the DURATION, although neither is a decimal digit. -/
theorem definition_with_signs :
    validate "+1:+2" = .ok () ∧ validate "1:2:" = .ok () ∧
      ¬ ∃ value duration : String, "+1:+2" = value ++ ":" ++ duration ∧
        (∀ c ∈ value.toList, (Java.digit c).isSome) ∧ ∀ c ∈ duration.toList, (Java.digit c).isSome := by
  refine ⟨by decide, by decide, ?_⟩
  rintro ⟨value, duration, text, digitsFirst, digitsSecond⟩
  have inside : '+' ∈ (value ++ ":" ++ duration).toList := by
    rw [← text]
    decide
  rw [String.toList_append, String.toList_append, List.mem_append, List.mem_append] at inside
  rcases inside with (first | colon) | second
  · exact absurd (digitsFirst '+' first) (by decide)
  · exact absurd colon (by decide)
  · exact absurd (digitsSecond '+' second) (by decide)

example : intervals valueOf ["5:6", "0:2"] = .ok [⟨0, 6, 5⟩, ⟨6, 8, 0⟩] := by decide +kernel

end Grammar

end PerfTestProof
