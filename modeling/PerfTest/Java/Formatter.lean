import Mathlib.Data.Int.Log
import Mathlib.Data.Rat.Floor
import PerfTest.Java.Numbers

namespace Java

inductive DecimalSeparator
  | point
  | comma
  deriving DecidableEq, Repr

def DecimalSeparator.char : DecimalSeparator → Char
  | .point => '.'
  | .comma => ','

structure Duration where
  seconds : ℤ
  nano : ℕ
  seconds_long : long seconds = seconds
  nano_lt : nano < 1000000000

def Duration.nanoseconds (duration : Duration) : ℤ := duration.seconds * 1000000000 + duration.nano

def Duration.toNanos (duration : Duration) : Except RuntimeException ℤ :=
  if long duration.nanoseconds = duration.nanoseconds then .ok duration.nanoseconds
  else .error (.arithmetic "long overflow")

def roundHalfEven (value : ℚ) : ℤ :=
  let below := ⌊value⌋
  if value - below < 1 / 2 ∨ value - below = 1 / 2 ∧ below % 2 = 0 then below else below + 1

/-- The `float` nearest to a value that is zero or has the exponent of a normal one: 24 bits are kept. -/
def float (value : ℚ) : ℚ :=
  if value = 0 then 0
  else
    let last : ℚ := 2 ^ (Int.log 2 |value| - 23)
    roundHalfEven (value / last) * last

def longOfDouble (value : ℚ) : ℤ := max longMinValue (min longMaxValue (value.num.tdiv value.den))

/-- `%.nf` with the precision n: rounded half up, and with the sign of the value also before a zero. -/
def formatFixed (separator : DecimalSeparator) (precision : ℕ) (value : ℚ) : String :=
  let scaled := ⌊|value| * 10 ^ precision + 1 / 2⌋₊
  let fraction := (Nat.toDigits 10 (scaled % 10 ^ precision)).leftpad precision '0'
  String.ofList ((if value < 0 then ['-'] else []) ++ Nat.toDigits 10 (scaled / 10 ^ precision) ++
    separator.char :: fraction)

example : formatFixed .comma 2 (-1 / 200) = "-0,01" := by decide +kernel

theorem toNanos_ok {duration : Duration} {nanos : ℤ} :
    duration.toNanos = .ok nanos ↔ long duration.nanoseconds = duration.nanoseconds ∧ nanos = duration.nanoseconds := by
  unfold Duration.toNanos
  split
  · rename_i fits
    constructor
    · intro same
      exact ⟨fits, (Except.ok.inj same).symm⟩
    · rintro ⟨-, rfl⟩
      rfl
  · rename_i beyond
    constructor
    · intro same
      cases same
    · rintro ⟨fits, -⟩
      exact absurd fits beyond

theorem mem_formatFixed {separator : DecimalSeparator} {precision : ℕ} {value : ℚ} {c : Char}
    (inside : c ∈ (formatFixed separator precision value).toList) : c = '-' ∨ c.isDigit ∨ c = separator.char := by
  have digits : ∀ number, c ∈ Nat.toDigits 10 number → c.isDigit := fun number =>
    Nat.isDigit_of_mem_toDigits (by decide) (by decide)
  unfold formatFixed at inside
  rw [String.toList_ofList, List.mem_append, List.mem_append, List.mem_cons] at inside
  rcases inside with (sign | whole) | rfl | fraction
  · split at sign
    · exact Or.inl (List.mem_singleton.mp sign)
    · cases sign
  · exact Or.inr (Or.inl (digits _ whole))
  · exact Or.inr (Or.inr rfl)
  · rcases List.mem_append.mp fraction with zeros | rest
    · obtain rfl := List.eq_of_mem_replicate zeros
      exact Or.inr (Or.inl rfl)
    · exact Or.inr (Or.inl (digits _ rest))

theorem separator_mem (separator : DecimalSeparator) (precision : ℕ) (value : ℚ) :
    separator.char ∈ (formatFixed separator precision value).toList := by
  simp [formatFixed]

end Java
