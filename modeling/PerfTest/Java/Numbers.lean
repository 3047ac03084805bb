import Mathlib.Data.List.Induction
import Mathlib.Data.Nat.Digits.Defs
import PerfTest.Java.Primitives
import PerfTest.Java.Strings

namespace Java

def RuntimeException.isIllegalArgument : RuntimeException → Bool
  | .illegalArgument _ => true
  | .numberFormat _ => true
  | .arrayIndexOutOfBounds _ => false
  | .arithmetic _ => false

/-- `Long.parseLong`, with `none` for the NumberFormatException. -/
def parseLong (text : String) : Option ℤ :=
  (signed text.toList).filter fun value => -2 ^ 63 ≤ value && value < 2 ^ 63

/-- `text.trim()`, which takes off more than white space. -/
def trim (text : String) : String :=
  String.ofList ((text.toList.dropWhile (· ≤ ' ')).reverse.dropWhile (· ≤ ' ')).reverse

theorem long_eq_self {value : ℤ} : long value = value ↔ -2 ^ 63 ≤ value ∧ value < 2 ^ 63 := by
  have lower := Int.le_bmod (x := value) (m := 2 ^ 64) (by decide)
  have upper := Int.bmod_lt (x := value) (m := 2 ^ 64) (by decide)
  unfold long
  constructor
  · intro fits
    omega
  · rintro ⟨lower, upper⟩
    exact Int.bmod_eq_of_le (by omega) (by omega)

theorem long_range (value : ℤ) : -2 ^ 63 ≤ long value ∧ long value < 2 ^ 63 := by
  have lower := Int.le_bmod (x := value) (m := 2 ^ 64) (by decide)
  have upper := Int.bmod_lt (x := value) (m := 2 ^ 64) (by decide)
  exact ⟨lower, upper⟩

section Letters

theorem trim_empty {text : String} : trim text = "" ↔ ∀ c ∈ text.toList, c ≤ ' ' := by
  have blanks : trim text = "" ↔ (text.toList.dropWhile (· ≤ ' ')).reverse.dropWhile (· ≤ ' ') = [] := by
    unfold trim
    rw [← String.toList_inj, String.toList_ofList, String.toList_empty, List.reverse_eq_nil_iff]
  rw [blanks, List.dropWhile_eq_nil_iff]
  constructor
  · intro left
    have none : text.toList.dropWhile (· ≤ ' ') = [] := by
      cases kept : text.toList.dropWhile (· ≤ ' ') with
      | nil => rfl
      | cons first rest =>
        have head := List.head?_dropWhile_not (· ≤ ' ') text.toList
        rw [kept] at head
        have blank := left first (List.mem_reverse.mpr (kept ▸ List.mem_cons_self))
        simp only [List.head?_cons] at head
        exact absurd blank (by simpa using head)
    exact fun c inside => of_decide_eq_true (List.dropWhile_eq_nil_iff.mp none c inside)
  · intro blank c inside
    exact decide_eq_true (blank c ((List.dropWhile_sublist _).mem (List.mem_reverse.mp inside)))

theorem isDigit_range {c : Char} : c.isDigit = true ↔ 48 ≤ c.toNat ∧ c.toNat ≤ 57 := by
  unfold Char.isDigit
  rw [Bool.and_eq_true, decide_eq_true_eq, decide_eq_true_eq]
  rfl

theorem toList_toLower (text : String) : text.toLower.toList = text.toList.map Char.toLower := String.toList_map

theorem toLower_cases (c : Char) : c.toLower = c ∨ 65 ≤ c.toNat ∧ c.toNat ≤ 90 ∧ c.toLower.toNat = c.toNat + 32 := by
  unfold Char.toLower
  split
  case isTrue letter =>
    have lower : 65 ≤ c.toNat := letter.1
    have upper : c.toNat ≤ 90 := letter.2
    have shifted : (c.val + ('a'.val - 'A'.val)).toNat = c.toNat + 32 := by
      show (c.val + 32).toNat = c.toNat + 32
      rw [UInt32.toNat_add]
      exact Nat.mod_eq_of_lt (by show c.toNat + 32 < 2 ^ 32; omega)
    exact Or.inr ⟨lower, upper, shifted⟩
  case isFalse => exact Or.inl rfl

theorem toLower_isDigit {c : Char} (ascii : c.isDigit) : c.toLower = c := by
  obtain ⟨-, upper⟩ := isDigit_range.mp ascii
  rcases toLower_cases c with same | ⟨lower, -⟩
  · exact same
  · omega

theorem mem_repr {number : ℕ} {c : Char} (inside : c ∈ number.repr.toList) : c.isDigit := by
  rw [Nat.toList_repr] at inside
  exact Nat.isDigit_of_mem_toDigits (by decide) (by decide) inside

theorem mem_toString {number : ℤ} {c : Char} (inside : c ∈ (toString number).toList) : c = '-' ∨ c.isDigit := by
  rw [Int.toString_eq_repr, Int.repr_eq_if] at inside
  split at inside
  case isTrue => exact Or.inr (mem_repr inside)
  case isFalse =>
    rw [String.toList_append] at inside
    rcases List.mem_append.mp inside with sign | behind
    · exact Or.inl (List.mem_singleton.mp sign)
    · exact Or.inr (mem_repr behind)

end Letters

section Decimals

variable {digits : List Char}

def number (digits : List Char) : ℕ := Nat.ofDigits 10 (digits.reverse.map fun c => c.toNat - 48)

theorem number_snoc (digits : List Char) (c : Char) : number (digits ++ [c]) = 10 * number digits + (c.toNat - 48) := by
  unfold number
  rw [List.reverse_append, List.reverse_singleton, List.singleton_append, List.map_cons, Nat.ofDigits_cons, add_comm]

theorem digit_isDigit {c : Char} (ascii : c.isDigit) : digit c = some (c.toNat - 48) := by
  obtain ⟨lower, upper⟩ := isDigit_range.mp ascii
  unfold digit zeros
  rw [List.find?_cons_of_pos (by simp only [Bool.and_eq_true, decide_eq_true_eq]; omega)]
  rfl

theorem foldlM_digits (ascii : ∀ c ∈ digits, c.isDigit) :
    digits.foldlM (fun value c => (digit c).map (10 * value + ·)) 0 = some (number digits) := by
  induction digits using List.reverseRecOn with
  | nil => rfl
  | append_singleton digits c ih =>
    have before := ih fun d inside => ascii d (List.mem_append_left _ inside)
    have last := digit_isDigit (ascii c (List.mem_append_right _ (List.mem_singleton_self c)))
    rw [List.foldlM_append, before, Option.bind_eq_bind, Option.bind_some, List.foldlM_cons, last, number_snoc]
    rfl

theorem decimal_digits (some_ : digits ≠ []) (ascii : ∀ c ∈ digits, c.isDigit) :
    decimal digits = some (number digits) := by
  cases digits with
  | nil => exact absurd rfl some_
  | cons first rest => exact foldlM_digits ascii

theorem signed_digits (some_ : digits ≠ []) (ascii : ∀ c ∈ digits, c.isDigit) :
    signed digits = some (number digits : ℤ) := by
  have plain := decimal_digits some_ ascii
  unfold signed
  split
  case h_1 rest => exact absurd (ascii '-' List.mem_cons_self) (by decide)
  case h_2 rest => exact absurd (ascii '+' List.mem_cons_self) (by decide)
  case h_3 => rw [plain, Option.map_some]

/-- ASCII digits are rejected only beyond the range. -/
theorem parseLong_digits (some_ : digits ≠ []) (ascii : ∀ c ∈ digits, c.isDigit) :
    parseLong (String.ofList digits) = if number digits < 2 ^ 63 then some (number digits : ℤ) else none := by
  unfold parseLong
  rw [String.toList_ofList, signed_digits some_ ascii]
  by_cases fits : number digits < 2 ^ 63
  · rw [if_pos fits, Option.filter_some, if_pos]
    simp only [Bool.and_eq_true, decide_eq_true_eq]
    omega
  · rw [if_neg fits, Option.filter_some, if_neg]
    simp only [Bool.and_eq_true, decide_eq_true_eq]
    omega

end Decimals

end Java
