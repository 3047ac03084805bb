import Mathlib.Data.List.TakeWhile
import PerfTest.Java.Numbers

open Java (RuntimeException)

namespace PerfTestModel

structure ByteCapacity where
  bytes : ℤ
  input : String
  deriving DecidableEq, Repr

namespace ByteCapacity

def KILOBYTES_MULTIPLIER : ℤ := 1000

def MEGABYTES_MULTIPLIER : ℤ := 1000 * 1000

def GIGABYTES_MULTIPLIER : ℤ := 1000 * 1000 * 1000

def TERABYTES_MULTIPLIER : ℤ := 1000 * 1000 * 1000 * 1000

def B (bytes : ℤ) : ByteCapacity := ⟨bytes, toString bytes⟩

def kB (kilobytes : ℤ) (input : String) : ByteCapacity := ⟨Java.long (kilobytes * KILOBYTES_MULTIPLIER), input⟩

def MB (megabytes : ℤ) (input : String) : ByteCapacity := ⟨Java.long (megabytes * MEGABYTES_MULTIPLIER), input⟩

def GB (gigabytes : ℤ) (input : String) : ByteCapacity := ⟨Java.long (gigabytes * GIGABYTES_MULTIPLIER), input⟩

def TB (terabytes : ℤ) (input : String) : ByteCapacity := ⟨Java.long (terabytes * TERABYTES_MULTIPLIER), input⟩

def CONSTRUCTORS : String → Option (ℤ → String → ByteCapacity)
  | "kb" => some kB
  | "mb" => some MB
  | "gb" => some GB
  | "tb" => some TB
  | _ => none

/-- The groups `size` and `unit` of a match of the whole value. -/
def PATTERN (value : String) : Option (String × Option String) :=
  let size := String.ofList (value.toList.takeWhile Char.isDigit)
  let unit := String.ofList (value.toList.dropWhile Char.isDigit)
  if unit = "" then some (size, none)
  else if unit.toLower ∈ ["kb", "mb", "gb", "tb"] then some (size, some unit)
  else none

def «from» (value : String) : Except RuntimeException ByteCapacity :=
  match PATTERN value with
  | none => .error (.illegalArgument ("Cannot parse value for byte capacity: " ++ value))
  | some (sizeGroup, unitGroup) =>
    match Java.parseLong sizeGroup with
    | none => .error (.numberFormat sizeGroup)
    | some size =>
      match unitGroup with
      | none => .ok (B size)
      | some unit =>
        match CONSTRUCTORS unit.toLower with
        | some constructor_ => .ok (constructor_ size value)
        | none => .error (.illegalArgument ("Unknown capacity unit: " ++ unit))

def toBytes (capacity : ByteCapacity) : ℤ := capacity.bytes

def compareTo (capacity other : ByteCapacity) : ℤ :=
  if capacity.bytes < other.bytes then -1 else if capacity.bytes = other.bytes then 0 else 1

end ByteCapacity

end PerfTestModel

namespace PerfTestProof

open PerfTestModel

def units : List (String × ℕ) := [("", 1), ("kb", 10 ^ 3), ("mb", 10 ^ 6), ("gb", 10 ^ 9), ("tb", 10 ^ 12)]

structure Denotes (text : String) (digits : List Char) (multiplier : ℕ) : Prop where
  some_ : digits ≠ []
  decimals : ∀ c ∈ digits, c.isDigit
  unit : ∃ unit : String, text.toList = digits ++ unit.toList ∧ (unit.toLower, multiplier) ∈ units

variable {text other : String} {digits others : List Char} {multiplier scale : ℕ}

section Patterns

theorem unit_notDigits {unit : String} (known : (unit.toLower, multiplier) ∈ units) :
    ∀ c ∈ unit.toList, ¬ c.isDigit = true := by
  intro c inside decimal
  have lowered : c ∈ unit.toLower.toList := by
    rw [Java.toList_toLower]
    exact Java.toLower_isDigit decimal ▸ List.mem_map_of_mem inside
  have letters : ∀ each ∈ units, each.1.toList.all (!·.isDigit) = true := by decide
  have letter := List.all_eq_true.mp (letters _ known) c lowered
  rw [decimal] at letter
  cases letter

theorem toLower_empty {unit : String} : unit.toLower = "" ↔ unit = "" := by
  rw [← String.toList_inj, Java.toList_toLower, String.toList_empty, List.map_eq_nil_iff,
    ← String.toList_empty, String.toList_inj]

theorem unit_empty {unit : String} (known : (unit.toLower, multiplier) ∈ units) :
    unit = "" ∧ multiplier = 1 ∨ unit ≠ "" ∧ unit.toLower ∈ ["kb", "mb", "gb", "tb"] := by
  by_cases none : unit = ""
  · have single : ∀ each ∈ units, each.1 = "" → each.2 = 1 := by decide
    exact Or.inl ⟨none, single _ known (toLower_empty.mpr none)⟩
  · have named : ∀ each ∈ units, each.1 ≠ "" → each.1 ∈ ["kb", "mb", "gb", "tb"] := by decide
    exact Or.inr ⟨none, named _ known fun empty => none (toLower_empty.mp empty)⟩

theorem pattern_denotes {unit : String} (decimals : ∀ c ∈ digits, c.isDigit)
    (whole : text.toList = digits ++ unit.toList)
    (known : (unit.toLower, multiplier) ∈ units) :
    ByteCapacity.PATTERN text = some (String.ofList digits, if unit = "" then none else some unit) := by
  have noDigits := unit_notDigits known
  have taken : text.toList.takeWhile Char.isDigit = digits := by
    have none : unit.toList.takeWhile Char.isDigit = [] := by
      cases letters : unit.toList with
      | nil => rfl
      | cons first rest => exact List.takeWhile_cons_of_neg (noDigits first (letters ▸ List.mem_cons_self))
    rw [whole, List.takeWhile_append_of_pos decimals, none, List.append_nil]
  have left : text.toList.dropWhile Char.isDigit = unit.toList := by
    have both := List.takeWhile_append_dropWhile (p := Char.isDigit) (l := text.toList)
    rw [taken] at both
    exact List.append_cancel_left (both.trans whole)
  unfold ByteCapacity.PATTERN
  rw [taken, left, String.ofList_toList]
  rcases unit_empty known with ⟨none, -⟩ | ⟨given, listed⟩
  · rw [if_pos none, if_pos none]
  · rw [if_neg given, if_neg given, if_pos listed]

theorem pattern_some {size : String} {unit : Option String} (matched : ByteCapacity.PATTERN text = some (size, unit))
    (some_ : size ≠ "") : ∃ digits multiplier, Denotes text digits multiplier := by
  have whole : text.toList = text.toList.takeWhile Char.isDigit ++
      (String.ofList (text.toList.dropWhile Char.isDigit)).toList := by
    rw [String.toList_ofList, List.takeWhile_append_dropWhile]
  have decimals : ∀ c ∈ text.toList.takeWhile Char.isDigit, c.isDigit := fun c inside => List.mem_takeWhile_imp inside
  unfold ByteCapacity.PATTERN at matched
  generalize text.toList.takeWhile Char.isDigit = digits at matched whole decimals
  generalize String.ofList (text.toList.dropWhile Char.isDigit) = unit at matched whole
  have denotes : size = String.ofList digits → (∃ multiplier, (unit.toLower, multiplier) ∈ units) →
      ∃ digits multiplier, Denotes text digits multiplier := by
    rintro rfl ⟨multiplier, known⟩
    exact ⟨digits, multiplier, fun none => some_ (none ▸ rfl), decimals, unit, whole, known⟩
  dsimp only at matched
  split at matched
  case isTrue none =>
    cases matched
    exact denotes rfl ⟨1, by rw [toLower_empty.mpr none]; decide⟩
  case isFalse given =>
    obtain ⟨listed, groups⟩ := Option.ite_none_right_eq_some.mp matched
    cases groups
    have known : ∀ name ∈ ["kb", "mb", "gb", "tb"], ∃ each ∈ units, each.1 = name := by decide
    obtain ⟨each, inside, same⟩ := known _ listed
    exact denotes rfl ⟨each.2, same ▸ inside⟩

theorem constructor_bytes {unit : String} (known : (unit, multiplier) ∈ units) (given : unit ≠ "") :
    ∃ constructor_, ByteCapacity.CONSTRUCTORS unit = some constructor_ ∧
      ∀ size input, (constructor_ size input).bytes = Java.long (size * multiplier) := by
  unfold units at known
  simp only [List.mem_cons, Prod.mk.injEq, List.not_mem_nil, or_false] at known
  rcases known with ⟨rfl, -⟩ | ⟨rfl, rfl⟩ | ⟨rfl, rfl⟩ | ⟨rfl, rfl⟩ | ⟨rfl, rfl⟩
  · exact absurd rfl given
  · exact ⟨ByteCapacity.kB, rfl, fun size input => rfl⟩
  · exact ⟨ByteCapacity.MB, rfl, fun size input => rfl⟩
  · exact ⟨ByteCapacity.GB, rfl, fun size input => rfl⟩
  · exact ⟨ByteCapacity.TB, rfl, fun size input => rfl⟩

end Patterns

section Parsing

theorem from_denotes (denotes : Denotes text digits multiplier) :
    if Java.number digits < 2 ^ 63 then
      ∃ capacity, ByteCapacity.from text = .ok capacity ∧
        capacity.toBytes = Java.long (Java.number digits * multiplier)
    else ByteCapacity.from text = .error (.numberFormat (String.ofList digits)) := by
  obtain ⟨some_, decimals, unit, whole, known⟩ := denotes
  have matched := pattern_denotes decimals whole known
  have parsed := Java.parseLong_digits some_ decimals
  unfold ByteCapacity.from
  rw [matched]
  dsimp only
  rw [parsed]
  by_cases fits : Java.number digits < 2 ^ 63
  · rw [if_pos fits, if_pos fits]
    rcases unit_empty known with ⟨none, rfl⟩ | ⟨given, listed⟩
    · rw [if_pos none]
      have same : Java.long (Java.number digits * (1 : ℕ)) = Java.number digits := by
        rw [Nat.cast_one, mul_one]
        exact Java.long_eq_self.mpr ⟨by omega, by omega⟩
      exact ⟨_, rfl, same.symm⟩
    · rw [if_neg given]
      obtain ⟨constructor_, constructs, bytes⟩ := constructor_bytes known fun empty => given (toLower_empty.mp empty)
      dsimp only
      rw [constructs]
      exact ⟨_, rfl, bytes _ _⟩
  · rw [if_neg fits, if_neg fits]

theorem from_other (other : ¬ ∃ digits multiplier, Denotes text digits multiplier) :
    ∃ exception, ByteCapacity.from text = .error exception ∧ exception.isIllegalArgument = true := by
  unfold ByteCapacity.from
  cases matched : ByteCapacity.PATTERN text with
  | none => exact ⟨_, rfl, rfl⟩
  | some groups =>
    obtain ⟨size, unit⟩ := groups
    have empty : size = "" := by
      by_contra some_
      exact other (pattern_some matched some_)
    subst empty
    exact ⟨_, rfl, rfl⟩

structure ParsesExactly (text : String) : Prop where
  accepts : ∀ bytes : ℤ, (∃ capacity, ByteCapacity.from text = .ok capacity ∧ capacity.toBytes = bytes) ↔
    ∃ digits multiplier, Denotes text digits multiplier ∧ Java.number digits * multiplier < 2 ^ 63 ∧
      bytes = (Java.number digits * multiplier : ℕ)
  rejects : ∀ exception, ByteCapacity.from text = .error exception → exception.isIllegalArgument = true

def OverflowsWithUnit (text : String) : Prop :=
  ∃ digits multiplier, Denotes text digits multiplier ∧ Java.number digits < 2 ^ 63 ∧
    2 ^ 63 ≤ Java.number digits * multiplier

theorem multiplier_pos (denotes : Denotes text digits multiplier) : 0 < multiplier := by
  obtain ⟨-, -, unit, -, known⟩ := denotes
  have positive : ∀ each ∈ units, 0 < each.2 := by decide
  exact positive _ known

theorem denotes_unique (denotes : Denotes text digits multiplier) (again : Denotes text others scale) :
    digits = others ∧ multiplier = scale := by
  obtain ⟨-, decimals, unit, whole, known⟩ := denotes
  obtain ⟨-, decimals', unit', whole', known'⟩ := again
  have matched := (pattern_denotes decimals whole known).symm.trans (pattern_denotes decimals' whole' known')
  obtain ⟨size, -⟩ := Prod.mk.inj (Option.some.inj matched)
  have same : digits = others := String.ofList_injective size
  subst same
  obtain rfl := String.toList_inj.mp (List.append_cancel_left (whole.symm.trans whole'))
  have single : ∀ each ∈ units, ∀ other ∈ units, each.1 = other.1 → each.2 = other.2 := by decide
  exact ⟨rfl, single _ known _ known' rfl⟩

theorem accepted_exactly (denotes : Denotes text digits multiplier) (exact_ : ¬ OverflowsWithUnit text)
    {capacity : ByteCapacity} (accepted : ByteCapacity.from text = .ok capacity) :
    Java.number digits * multiplier < 2 ^ 63 ∧ capacity.toBytes = (Java.number digits * multiplier : ℕ) := by
  have outcome := from_denotes denotes
  split at outcome
  case isTrue fits =>
    obtain ⟨result, returned, bytes⟩ := outcome
    obtain rfl := Except.ok.inj (returned.symm.trans accepted)
    have small : Java.number digits * multiplier < 2 ^ 63 := by
      by_contra large
      exact exact_ ⟨digits, multiplier, denotes, fits, not_lt.mp large⟩
    rw [bytes, ← Nat.cast_mul]
    exact ⟨small, Java.long_eq_self.mpr ⟨by omega, by omega⟩⟩
  case isFalse large => cases outcome.symm.trans accepted

theorem parsesExactly_iff (text : String) : ParsesExactly text ↔ ¬ OverflowsWithUnit text := by
  constructor
  · rintro exact_ ⟨digits, multiplier, denotes, fits, overflow⟩
    have outcome := from_denotes denotes
    rw [if_pos fits] at outcome
    obtain ⟨capacity, returned, -⟩ := outcome
    obtain ⟨digits', multiplier', denotes', small, -⟩ := (exact_.accepts capacity.toBytes).mp ⟨capacity, returned, rfl⟩
    obtain ⟨rfl, rfl⟩ := denotes_unique denotes denotes'
    omega
  · intro exact_
    by_cases denoting : ∃ digits multiplier, Denotes text digits multiplier
    · obtain ⟨digits, multiplier, denotes⟩ := denoting
      have outcome := from_denotes denotes
      constructor
      · intro bytes
        constructor
        · rintro ⟨capacity, accepted, rfl⟩
          exact ⟨digits, multiplier, denotes, accepted_exactly denotes exact_ accepted⟩
        · rintro ⟨digits', multiplier', denotes', small, rfl⟩
          obtain ⟨rfl, rfl⟩ := denotes_unique denotes denotes'
          have fits : Java.number digits < 2 ^ 63 :=
            (Nat.le_mul_of_pos_right _ (multiplier_pos denotes)).trans_lt small
          rw [if_pos fits] at outcome
          obtain ⟨capacity, returned, -⟩ := outcome
          exact ⟨capacity, returned, (accepted_exactly denotes exact_ returned).2⟩
      · intro exception rejected
        split at outcome
        case isTrue fits =>
          obtain ⟨capacity, returned, -⟩ := outcome
          cases returned.symm.trans rejected
        case isFalse large =>
          obtain rfl := Except.error.inj (outcome.symm.trans rejected)
          rfl
    · obtain ⟨exception, rejected, illegal⟩ := from_other denoting
      constructor
      · intro bytes
        constructor
        · rintro ⟨capacity, accepted, -⟩
          cases rejected.symm.trans accepted
        · rintro ⟨digits, multiplier, denotes, -⟩
          exact absurd ⟨digits, multiplier, denotes⟩ denoting
      · intro exception' rejected'
        obtain rfl := Except.error.inj (rejected.symm.trans rejected')
        exact illegal

end Parsing

def ComparesExactly (text other : String) : Prop :=
  ∀ digits multiplier others scale, Denotes text digits multiplier → Denotes other others scale →
    ∀ capacity limit, ByteCapacity.from text = .ok capacity → ByteCapacity.from other = .ok limit →
      (capacity.compareTo limit < 0 ↔ Java.number digits * multiplier < Java.number others * scale) ∧
      (capacity.compareTo limit = 0 ↔ Java.number digits * multiplier = Java.number others * scale)

theorem capacity_exact_iff (text : String) :
    (ParsesExactly text ↔ ¬ OverflowsWithUnit text) ∧
      ∀ other, ¬ OverflowsWithUnit text → ¬ OverflowsWithUnit other → ComparesExactly text other := by
  refine ⟨parsesExactly_iff text, fun other exact_ otherExact => ?_⟩
  intro digits multiplier others scale denotes otherDenotes capacity limit accepted otherAccepted
  have value := (accepted_exactly denotes exact_ accepted).2
  have otherValue := (accepted_exactly otherDenotes otherExact otherAccepted).2
  unfold ByteCapacity.toBytes at value otherValue
  unfold ByteCapacity.compareTo
  rw [value, otherValue]
  generalize Java.number digits * multiplier = quantity
  generalize Java.number others * scale = quantityOfLimit
  constructor
  · split_ifs <;> omega
  · rcases Nat.lt_trichotomy quantity quantityOfLimit with less | same | more
    · rw [if_pos (by omega)]
      omega
    · rw [if_neg (by omega), if_pos (by omega)]
      omega
    · rw [if_neg (by omega), if_neg (by omega)]
      omega

/-- 9223372036854776 kilobytes are a negative number of bytes, and 20 exabytes are less than 9. -/
theorem capacity_overflows :
    (ByteCapacity.from "9223372036854776kb").toOption.map ByteCapacity.toBytes = some (-9223372036854775616) ∧
      (∃ capacity limit, ByteCapacity.from "20000000tb" = .ok capacity ∧ ByteCapacity.from "9000000tb" = .ok limit ∧
        capacity.compareTo limit < 0) ∧
      ¬ ∀ text, ParsesExactly text := by
  refine ⟨by decide +kernel, ⟨⟨1553255926290448384, "20000000tb"⟩, ⟨9000000000000000000, "9000000tb"⟩, ?_⟩, ?_⟩
  · exact ⟨by decide +kernel, by decide +kernel, by decide⟩
  · intro exact_
    have denotes : Denotes "9223372036854776kb" "9223372036854776".toList (10 ^ 3) :=
      ⟨by decide, List.all_eq_true.mp (by decide), "kb", by decide, by decide +kernel⟩
    exact (parsesExactly_iff _).mp (exact_ _) ⟨_, _, denotes, by decide, by decide⟩

end PerfTestProof
