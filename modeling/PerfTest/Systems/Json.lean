import Mathlib.Computability.Language

open scoped Computability

namespace Systems.Json

def whitespace : Language Char := {text | ∀ c ∈ text, c = ' ' ∨ c = '\t' ∨ c = '\n' ∨ c = '\r'}

def token (c : Char) : Language Char := whitespace * {[c]} * whitespace

def unescaped : Language Char := {text | ∃ c, text = [c] ∧ 0x20 ≤ c.toNat ∧ c ≠ '\x22' ∧ c ≠ '\x5c'}

def hexadecimal : Language Char :=
  {text | ∃ c : Char, text = [c] ∧ (c.isDigit ∨ 'a' ≤ c ∧ c ≤ 'f' ∨ 'A' ≤ c ∧ c ≤ 'F')}

def control : Language Char := {text | ∃ c ∈ ['\x22', '\x5c', '/', 'b', 'f', 'n', 'r', 't'], text = [c]}

def escaped : Language Char := {['\x5c']} * (control + {['u']} * hexadecimal ^ 4)

def string : Language Char := {['\x22']} * (unescaped + escaped)∗ * {['\x22']}

variable (value : Language Char)

def member : Language Char := string * token ':' * value

def object : Language Char :=
  token '\x7b' * (1 + member value * (token ',' * member value)∗) * token '\x7d'

variable {value}

theorem mem_whitespace {text : List Char} (blanks : ∀ c ∈ text, c = ' ') : text ∈ whitespace :=
  fun c inside => Or.inl (blanks c inside)

theorem mem_token (c : Char) (before after : List Char) (blanksBefore : ∀ d ∈ before, d = ' ')
    (blanksAfter : ∀ d ∈ after, d = ' ') : before ++ [c] ++ after ∈ token c := by
  have single : [c] ∈ ({[c]} : Language Char) := rfl
  exact Language.append_mem_mul (Language.append_mem_mul (mem_whitespace blanksBefore) single)
    (mem_whitespace blanksAfter)

theorem flatten_letters (letters : List Char) : letters = (letters.map fun c => [c]).flatten := by
  induction letters with
  | nil => rfl
  | cons c letters ih => exact congrArg (c :: ·) ih

theorem intercalate_cons (c : Char) (first : List Char) (rest : List (List Char)) :
    [c].intercalate (first :: rest) = first ++ (rest.map fun text => [c] ++ text).flatten := by
  induction rest generalizing first with
  | nil => rw [List.intercalate_singleton, List.map_nil, List.flatten_nil, List.append_nil]
  | cons second rest ih =>
    rw [List.intercalate_cons_cons, ih, List.map_cons, List.flatten_cons, List.append_assoc, List.append_assoc]

theorem mem_intercalate {c separator : Char} {texts : List (List Char)} (inside : c ∈ [separator].intercalate texts) :
    c = separator ∨ ∃ text ∈ texts, c ∈ text := by
  cases texts with
  | nil => cases inside
  | cons first rest =>
    rw [intercalate_cons] at inside
    rcases List.mem_append.mp inside with inFirst | later
    · exact Or.inr ⟨first, List.mem_cons_self, inFirst⟩
    · obtain ⟨part, isPart, inPart⟩ := List.mem_flatten.mp later
      obtain ⟨text, inRest, rfl⟩ := List.mem_map.mp isPart
      rcases List.mem_append.mp inPart with separates | inText
      · exact Or.inl (List.mem_singleton.mp separates)
      · exact Or.inr ⟨text, List.mem_cons_of_mem first inRest, inText⟩

theorem mem_string {letters : List Char} (plain : ∀ c ∈ letters, 0x20 ≤ c.toNat ∧ c ≠ '\x22' ∧ c ≠ '\x5c') :
    ['\x22'] ++ letters ++ ['\x22'] ∈ string := by
  have quote : ['\x22'] ∈ ({['\x22']} : Language Char) := rfl
  have characters : letters ∈ (unescaped + escaped)∗ := by
    rw [Language.mem_kstar]
    refine ⟨letters.map fun c => [c], flatten_letters letters, List.forall_mem_map.mpr fun c inside => ?_⟩
    rw [Language.mem_add]
    exact Or.inl ⟨c, rfl, plain c inside⟩
  exact Language.append_mem_mul (Language.append_mem_mul quote characters) quote

theorem mem_member {name separator text : List Char} (isString : name ∈ string) (separates : separator ∈ token ':')
    (isValue : text ∈ value) : name ++ separator ++ text ∈ member value :=
  Language.append_mem_mul (Language.append_mem_mul isString separates) isValue

theorem mem_members {members : List (List Char)} (some_ : members ≠ [])
    (areMembers : ∀ text ∈ members, text ∈ member value) :
    [','].intercalate members ∈ member value * (token ',' * member value)∗ := by
  obtain ⟨first, rest, rfl⟩ := List.exists_cons_of_ne_nil some_
  obtain ⟨isFirst, areRest⟩ := List.forall_mem_cons.mp areMembers
  have separator : [','] ∈ token ',' :=
    mem_token ',' [] [] (fun c inside => absurd inside List.not_mem_nil)
      (fun c inside => absurd inside List.not_mem_nil)
  rw [intercalate_cons]
  refine Language.append_mem_mul isFirst (Language.join_mem_kstar (List.forall_mem_map.mpr fun text inside => ?_))
  exact Language.append_mem_mul separator (areRest text inside)

theorem mem_object {opening members closing : List Char} (opens : opening ∈ token '\x7b')
    (areMembers : members ∈ member value * (token ',' * member value)∗) (closes : closing ∈ token '\x7d') :
    opening ++ members ++ closing ∈ object value := by
  refine Language.append_mem_mul (Language.append_mem_mul opens ?_) closes
  exact (Language.mem_add _ _ _).mpr (Or.inr areMembers)

end Systems.Json
