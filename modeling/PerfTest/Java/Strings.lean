import Mathlib.Data.List.Basic
import Mathlib.Data.List.TakeWhile
import Mathlib.Algebra.Ring.Int.Defs

namespace Java

inductive RuntimeException
  | illegalArgument (message : String)
  | numberFormat (input : String)
  | arrayIndexOutOfBounds (index : ℕ)
  | arithmetic (message : String)
  deriving DecidableEq, Repr

/-- `text.split(separator)`: without a match the text itself, otherwise the parts without the empty ones at the end. -/
def split (separator : Char) (text : String) : List String :=
  let parts := (text.toList.splitOn separator).map String.ofList
  if parts.length = 1 then [text] else (parts.reverse.dropWhile (· == "")).reverse

/-- The code points of the decimal digits zero that are one `char`. -/
def zeros : List ℕ :=
  [0x30, 0x660, 0x6F0, 0x7C0, 0x966, 0x9E6, 0xA66, 0xAE6, 0xB66, 0xBE6, 0xC66, 0xCE6, 0xD66, 0xDE6, 0xE50, 0xED0,
    0xF20, 0x1040, 0x1090, 0x17E0, 0x1810, 0x1946, 0x19D0, 0x1A80, 0x1A90, 0x1B50, 0x1BB0, 0x1C40, 0x1C50, 0xA620,
    0xA8D0, 0xA900, 0xA9D0, 0xA9F0, 0xAA50, 0xABF0, 0xFF10]

/-- `Character.digit(c, 10)` for a `char`, `none` for -1. A character beyond them is two surrogates, no digits. -/
def digit (c : Char) : Option ℕ :=
  (zeros.find? fun first => first ≤ c.toNat && c.toNat < first + 10).map (c.toNat - ·)

def decimal : List Char → Option ℕ
  | [] => none
  | digits => digits.foldlM (fun value c => (digit c).map (10 * value + ·)) 0

def signed : List Char → Option ℤ
  | '-' :: digits => (decimal digits).map fun magnitude : ℕ => -(magnitude : ℤ)
  | '+' :: digits => (decimal digits).map fun magnitude : ℕ => (magnitude : ℤ)
  | digits => (decimal digits).map fun magnitude : ℕ => (magnitude : ℤ)

/-- `Integer.valueOf`, with `none` for the NumberFormatException. -/
def parseInt (text : String) : Option ℤ :=
  let value : Option ℤ := match text.toList with
    | '-' :: digits => (decimal digits).map fun magnitude : ℕ => -(magnitude : ℤ)
    | '+' :: digits => (decimal digits).map fun magnitude : ℕ => (magnitude : ℤ)
    | digits => (decimal digits).map fun magnitude : ℕ => (magnitude : ℤ)
  value.filter fun value => -2 ^ 31 ≤ value && value < 2 ^ 31

section Split

variable {separator : Char}

theorem not_mem_splitOn (text : List Char) {part : List Char} (member : part ∈ text.splitOn separator) :
    separator ∉ part := by
  induction text generalizing part with
  | nil =>
    rw [List.splitOn_nil, List.mem_singleton] at member
    rw [member]
    exact List.not_mem_nil
  | cons c rest ih =>
    rw [List.splitOn_cons_eq_if_modifyHead] at member
    by_cases separates : (c == separator) = true
    · rw [if_pos separates, List.mem_cons] at member
      rcases member with rfl | later
      · exact List.not_mem_nil
      · exact ih later
    · rw [if_neg separates] at member
      cases parts : rest.splitOn separator with
      | nil => exact absurd parts (List.splitOn_ne_nil separator rest)
      | cons first others =>
        rw [parts, List.modifyHead_cons, List.mem_cons] at member
        rcases member with rfl | later
        · intro inside
          rcases List.mem_cons.mp inside with same | earlier
          · exact separates (by rw [same, beq_self_eq_true])
          · exact ih (parts ▸ List.mem_cons_self) earlier
        · exact ih (parts ▸ List.mem_cons_of_mem first later)

theorem splitOn_replicate (second : List Char) (absent : separator ∉ second) (extra : ℕ) :
    (second ++ List.replicate extra separator).splitOn separator = second :: List.replicate extra [] := by
  induction extra generalizing second with
  | zero => rw [List.replicate_zero, List.append_nil, List.splitOn_eq_singleton absent, List.replicate_zero]
  | succ extra ih =>
    rw [List.replicate_succ, List.splitOn_append_cons_self_of_not_mem absent, List.replicate_succ]
    exact congrArg (second :: ·) (ih [] List.not_mem_nil)

theorem splitOn_pair {first second : List Char} (absentFirst : separator ∉ first) (absentSecond : separator ∉ second)
    (extra : ℕ) :
    (first ++ separator :: (second ++ List.replicate extra separator)).splitOn separator =
      first :: second :: List.replicate extra [] := by
  rw [List.splitOn_append_cons_self_of_not_mem absentFirst, splitOn_replicate second absentSecond]

theorem splitOn_injective {text other : List Char} (same : text.splitOn separator = other.splitOn separator) :
    text = other := by
  calc text = [separator].intercalate (text.splitOn separator) := (List.intercalate_splitOn separator).symm
    _ = [separator].intercalate (other.splitOn separator) := congrArg [separator].intercalate same
    _ = other := List.intercalate_splitOn separator

theorem split_pair {text first second : String} :
    split separator text = [first, second] ↔
      second ≠ "" ∧ separator ∉ first.toList ∧ separator ∉ second.toList ∧
        ∃ extra, text.toList = first.toList ++ separator :: (second.toList ++ List.replicate extra separator) := by
  unfold split
  constructor
  · intro pair
    by_cases single : ((text.toList.splitOn separator).map String.ofList).length = 1
    · rw [if_pos single] at pair
      exact absurd (congrArg List.length pair) (by simp)
    rw [if_neg single] at pair
    have dropped := congrArg List.reverse pair
    rw [List.reverse_reverse] at dropped
    have reversed := List.takeWhile_append_dropWhile (p := (· == ""))
      (l := ((text.toList.splitOn separator).map String.ofList).reverse)
    rw [dropped] at reversed
    have nonempty : second ≠ "" := by
      have head := List.head?_dropWhile_not (· == "") ((text.toList.splitOn separator).map String.ofList).reverse
      rw [dropped] at head
      simpa using head
    obtain ⟨extra, empties⟩ : ∃ extra, ((text.toList.splitOn separator).map String.ofList).reverse.takeWhile (· == "") =
        List.replicate extra "" := by
      refine ⟨_, List.eq_replicate_iff.mpr ⟨rfl, fun part inside => ?_⟩⟩
      exact eq_of_beq (List.all_eq_true.mp List.all_takeWhile part inside)
    rw [empties] at reversed
    have parts : text.toList.splitOn separator = first.toList :: second.toList :: List.replicate extra [] := by
      have texts := congrArg (fun list => list.reverse.map String.toList) reversed
      simp only [List.reverse_append, List.reverse_replicate, List.reverse_reverse, List.map_append,
        List.map_map] at texts
      simpa [Function.comp_def] using texts.symm
    have absentFirst : separator ∉ first.toList :=
      not_mem_splitOn text.toList (parts ▸ List.mem_cons_self)
    have absentSecond : separator ∉ second.toList :=
      not_mem_splitOn text.toList (parts ▸ List.mem_cons_of_mem _ List.mem_cons_self)
    exact ⟨nonempty, absentFirst, absentSecond, extra,
      splitOn_injective (parts.trans (splitOn_pair absentFirst absentSecond extra).symm)⟩
  · rintro ⟨nonempty, absentFirst, absentSecond, extra, whole⟩
    have parts : (text.toList.splitOn separator).map String.ofList = first :: second :: List.replicate extra "" := by
      rw [whole, splitOn_pair absentFirst absentSecond]
      simp
    rw [parts, if_neg (by simp)]
    have reversed : (first :: second :: List.replicate extra "").reverse =
        List.replicate extra "" ++ [second, first] := by
      simp
    rw [reversed, List.dropWhile_append_of_pos (by simp), List.dropWhile_cons_of_neg (by simpa using nonempty)]
    rfl

theorem single_part {text : String} (single : ((text.toList.splitOn separator).map String.ofList).length = 1) :
    text.toList.splitOn separator = [text.toList] := by
  rw [List.length_map, List.length_eq_one_iff] at single
  obtain ⟨part, parts⟩ := single
  have whole : [separator].intercalate (text.toList.splitOn separator) = text.toList :=
    List.intercalate_splitOn separator
  rw [parts, List.intercalate_singleton] at whole
  rw [parts, whole]

theorem mem_split {text part : String} (given : part ≠ "") :
    part ∈ split separator text ↔ part.toList ∈ text.toList.splitOn separator := by
  have listed : part.toList ∈ text.toList.splitOn separator ↔
      part ∈ (text.toList.splitOn separator).map String.ofList := by
    rw [List.mem_map]
    constructor
    · exact fun inside => ⟨part.toList, inside, String.ofList_toList⟩
    · rintro ⟨chars, inside, rfl⟩
      rwa [String.toList_ofList]
  unfold split
  dsimp only
  by_cases single : ((text.toList.splitOn separator).map String.ofList).length = 1
  · rw [if_pos single, single_part single, List.mem_singleton, List.mem_singleton, String.toList_inj]
  rw [if_neg single, List.mem_reverse, listed]
  generalize (text.toList.splitOn separator).map String.ofList = parts
  constructor
  · exact fun kept => List.mem_reverse.mp ((List.dropWhile_sublist _).mem kept)
  · intro inside
    have both := List.mem_reverse.mpr inside
    rw [← List.takeWhile_append_dropWhile (p := (· == "")) (l := parts.reverse)] at both
    rcases List.mem_append.mp both with dropped | kept
    · have empty : (part == "") = true := List.all_eq_true.mp List.all_takeWhile part dropped
      exact absurd (eq_of_beq empty) given
    · exact kept

/-- A text of separators has no parts at all, and the empty text one. -/
theorem split_empty {text : String} : split separator text = [] ↔ text ≠ "" ∧ ∀ c ∈ text.toList, c = separator := by
  unfold split
  dsimp only
  by_cases single : ((text.toList.splitOn separator).map String.ofList).length = 1
  · rw [if_pos single]
    refine iff_of_false (List.cons_ne_nil _ _) ?_
    rintro ⟨given, separators⟩
    obtain ⟨first, rest, letters⟩ := List.exists_cons_of_ne_nil fun none => given (String.toList_inj.mp none)
    have apart : separator ∉ text.toList :=
      not_mem_splitOn text.toList (single_part single ▸ List.mem_singleton_self text.toList)
    exact apart (separators first (letters ▸ List.mem_cons_self) ▸ letters ▸ List.mem_cons_self)
  · rw [if_neg single, List.reverse_eq_nil_iff, List.dropWhile_eq_nil_iff]
    constructor
    · intro empties
      have parts : text.toList.splitOn separator =
          [] :: List.replicate ((text.toList.splitOn separator).length - 1) [] := by
        rw [← List.replicate_succ]
        refine List.eq_replicate_iff.mpr ⟨?_, fun part inside => ?_⟩
        · have some_ := List.length_pos_iff.mpr (List.splitOn_ne_nil separator text.toList)
          omega
        · have empty := empties (String.ofList part) (List.mem_reverse.mpr (List.mem_map_of_mem inside))
          exact String.ofList_eq_empty_iff.mp (eq_of_beq empty)
      have alone : separator ∉ [] := List.not_mem_nil
      have whole := splitOn_injective (parts.trans (splitOn_replicate [] alone _).symm)
      constructor
      · rintro rfl
        exact single rfl
      · intro c inside
        rw [whole] at inside
        exact List.eq_of_mem_replicate inside
    · rintro ⟨given, separators⟩ part inside
      have whole : text.toList = [] ++ List.replicate text.toList.length separator :=
        List.eq_replicate_iff.mpr ⟨rfl, separators⟩
      rw [whole, splitOn_replicate [] List.not_mem_nil] at inside
      obtain ⟨chars, listed, rfl⟩ := List.mem_map.mp (List.mem_reverse.mp inside)
      rcases List.mem_cons.mp listed with rfl | later
      · rfl
      · rw [List.eq_of_mem_replicate later]
        rfl

theorem split_intercalate {text : String} {parts : List String} (some_ : parts ≠ [])
    (absent : ∀ part ∈ parts, separator ∉ part.toList) (given : ∀ part ∈ parts, part ≠ "")
    (whole : text.toList = [separator].intercalate (parts.map String.toList)) : split separator text = parts := by
  have listed : (text.toList.splitOn separator).map String.ofList = parts := by
    rw [whole, List.splitOn_intercalate separator, List.map_map]
    · exact List.map_id'' (fun part => String.ofList_toList) parts
    · exact List.forall_mem_map.mpr absent
    · exact fun none => some_ (List.map_eq_nil_iff.mp none)
  unfold split
  dsimp only
  rw [listed]
  by_cases single : parts.length = 1
  · obtain ⟨part, rfl⟩ := List.length_eq_one_iff.mp single
    rw [List.map_singleton, List.intercalate_singleton] at whole
    rw [if_pos single, String.toList_inj.mp whole]
  · rw [if_neg single, List.reverse_eq_iff]
    cases backwards : parts.reverse with
    | nil => rfl
    | cons last others =>
      have inside : last ∈ parts := List.mem_reverse.mp (backwards ▸ List.mem_cons_self)
      exact List.dropWhile_cons_of_neg (by simpa using given last inside)

theorem split_intercalate_iff {text : String} {parts : List String} (some_ : parts ≠ [])
    (whole : text.toList = [separator].intercalate (parts.map String.toList)) :
    split separator text = parts ↔
      (∀ part ∈ parts, separator ∉ part.toList) ∧ (parts.getLast some_ ≠ "" ∨ parts = [""]) := by
  constructor
  · intro same
    unfold split at same
    dsimp only at same
    split at same
    next single =>
      subst same
      have absent : separator ∉ text.toList :=
        not_mem_splitOn text.toList (single_part single ▸ List.mem_singleton_self text.toList)
      refine ⟨fun part member => List.mem_singleton.mp member ▸ absent, ?_⟩
      by_cases empty : text = ""
      · exact .inr (by rw [empty])
      · exact .inl empty
    next =>
      generalize listed : (text.toList.splitOn separator).map String.ofList = pieces at same
      constructor
      · intro part member
        have kept : part ∈ pieces.reverse.dropWhile (· == "") := List.mem_reverse.mp (same ▸ member)
        have inside : part ∈ pieces := List.mem_reverse.mp ((List.dropWhile_sublist _).mem kept)
        rw [← listed] at inside
        obtain ⟨chars, piece, rfl⟩ := List.mem_map.mp inside
        rw [String.toList_ofList]
        exact not_mem_splitOn text.toList piece
      · left
        subst same
        have first := List.head?_dropWhile_not (· == "") pieces.reverse
        rw [List.reverse_ne_nil_iff] at some_
        rw [List.getLast_reverse]
        rw [List.head?_eq_some_head some_] at first
        simpa using first
  · rintro ⟨absent, last⟩
    have listed : (text.toList.splitOn separator).map String.ofList = parts := by
      rw [whole, List.splitOn_intercalate separator, List.map_map]
      · exact List.map_id'' (fun part => String.ofList_toList) parts
      · exact List.forall_mem_map.mpr absent
      · exact fun none => some_ (List.map_eq_nil_iff.mp none)
    unfold split
    dsimp only
    rw [listed]
    by_cases single : parts.length = 1
    · obtain ⟨part, rfl⟩ := List.length_eq_one_iff.mp single
      rw [List.map_singleton, List.intercalate_singleton] at whole
      rw [if_pos single, String.toList_inj.mp whole]
    · rw [if_neg single, List.reverse_eq_iff]
      have given : parts.getLast some_ ≠ "" := last.resolve_right (by rintro rfl; exact single rfl)
      rw [← List.head_reverse (List.reverse_ne_nil_iff.mpr some_)] at given
      cases backwards : parts.reverse with
      | nil => rfl
      | cons final others =>
        simp only [backwards, List.head_cons] at given
        exact List.dropWhile_cons_of_neg (by simpa using given)

theorem splitOn_head (separator : Char) (text : List Char) :
    ∃ rest, text.splitOn separator = text.takeWhile (· ≠ separator) :: rest := by
  induction text with
  | nil => exact ⟨[], List.splitOn_nil separator⟩
  | cons c text ih =>
    rw [List.splitOn_cons_eq_if_modifyHead]
    by_cases separates : c = separator
    · rw [if_pos (beq_iff_eq.mpr separates), List.takeWhile_cons_of_neg (by simpa using separates)]
      exact ⟨_, rfl⟩
    · obtain ⟨rest, parts⟩ := ih
      rw [if_neg (by simpa using separates), parts, List.takeWhile_cons_of_pos (by simpa using separates)]
      exact ⟨rest, rfl⟩

/-- What follows a second separator is a part of its own. -/
theorem split_key {text key : String} {value : List Char} (given : key ≠ "") (absent : separator ∉ key.toList)
    (whole : text.toList = key.toList ++ separator :: value) :
    (split separator text = [key] ∧ value.takeWhile (· ≠ separator) = []) ∨
      ∃ others, split separator text = key :: String.ofList (value.takeWhile (· ≠ separator)) :: others := by
  obtain ⟨rest, parts⟩ := splitOn_head separator value
  have listed : (text.toList.splitOn separator).map String.ofList =
      key :: (String.ofList (value.takeWhile (· ≠ separator)) :: rest.map String.ofList) := by
    rw [whole, List.splitOn_append_cons_self_of_not_mem absent, parts, List.map_cons, String.ofList_toList,
      List.map_cons]
  unfold split
  dsimp only
  rw [listed, if_neg (by simp), List.reverse_cons]
  generalize reversed : (String.ofList (value.takeWhile (· ≠ separator)) :: rest.map String.ofList).reverse = backwards
  rw [List.dropWhile_append]
  split
  case isTrue dropped =>
    left
    have empties := List.dropWhile_eq_nil_iff.mp (List.isEmpty_iff.mp dropped)
    have first := empties (String.ofList (value.takeWhile (· ≠ separator)))
      (reversed ▸ List.mem_reverse.mpr List.mem_cons_self)
    rw [List.dropWhile_cons_of_neg (by simpa using given)]
    exact ⟨rfl, String.ofList_eq_empty_iff.mp (eq_of_beq first)⟩
  case isFalse kept =>
    right
    have prefix_ : (backwards.dropWhile (· == "")).reverse <+:
        String.ofList (value.takeWhile (· ≠ separator)) :: rest.map String.ofList := by
      rw [← List.reverse_reverse (String.ofList _ :: _), reversed, List.reverse_prefix]
      exact List.dropWhile_suffix _
    rw [List.reverse_append, List.reverse_singleton, List.singleton_append]
    cases forwards : (backwards.dropWhile (· == "")).reverse with
    | nil => exact absurd (List.isEmpty_iff.mpr (List.reverse_eq_nil_iff.mp forwards)) kept
    | cons first others =>
      rw [forwards] at prefix_
      obtain ⟨rfl, -⟩ := List.cons_prefix_cons.mp prefix_
      exact ⟨others, rfl⟩

end Split

section Integers

variable {text : String} {value : ℤ}

theorem digits_of_foldlM {digits : List Char} {start result : ℕ}
    (read : digits.foldlM (fun value c => (digit c).map (10 * value + ·)) start = some result) :
    ∀ c ∈ digits, (digit c).isSome := by
  induction digits generalizing start with
  | nil => exact fun c inside => absurd inside List.not_mem_nil
  | cons first rest ih =>
    rw [List.foldlM_cons] at read
    obtain ⟨next, step, later⟩ := Option.bind_eq_some_iff.mp read
    obtain ⟨units, known, -⟩ := Option.map_eq_some_iff.mp step
    intro c inside
    rcases List.mem_cons.mp inside with rfl | behind
    · rw [known]
      rfl
    · exact ih later c behind

theorem digits_of_decimal {digits : List Char} {result : ℕ} (read : decimal digits = some result) :
    digits ≠ [] ∧ ∀ c ∈ digits, (digit c).isSome := by
  cases digits with
  | nil => cases read
  | cons first rest => exact ⟨List.cons_ne_nil first rest, digits_of_foldlM read⟩

theorem signed_chars {text : List Char} (read : signed text = some value) :
    ∀ c ∈ text, c = '-' ∨ c = '+' ∨ (digit c).isSome := by
  unfold signed at read
  split at read
  case h_1 digits =>
    obtain ⟨magnitude, decimals, -⟩ := Option.map_eq_some_iff.mp read
    intro c inside
    rcases List.mem_cons.mp inside with sign | behind
    · exact Or.inl sign
    · exact Or.inr (Or.inr ((digits_of_decimal decimals).2 c behind))
  case h_2 digits =>
    obtain ⟨magnitude, decimals, -⟩ := Option.map_eq_some_iff.mp read
    intro c inside
    rcases List.mem_cons.mp inside with sign | behind
    · exact Or.inr (Or.inl sign)
    · exact Or.inr (Or.inr ((digits_of_decimal decimals).2 c behind))
  case h_3 notMinus notPlus =>
    obtain ⟨magnitude, decimals, -⟩ := Option.map_eq_some_iff.mp read
    exact fun c inside => Or.inr (Or.inr ((digits_of_decimal decimals).2 c inside))

theorem parseInt_chars (read : parseInt text = some value) :
    text ≠ "" ∧ ∀ c ∈ text.toList, c = '-' ∨ c = '+' ∨ (digit c).isSome := by
  unfold parseInt at read
  obtain ⟨read, -⟩ := Option.filter_eq_some_iff.mp read
  constructor
  · rintro rfl
    cases read
  · have read : signed text.toList = some value := read
    exact signed_chars read

end Integers

end Java
