import PerfTest.Java.Numbers
import PerfTest.Messages.Properties
import PerfTest.Systems.LinkedMap

open Java (RuntimeException)
open Systems (LinkedMap)

namespace PerfTestModel

def typedValue (value : String) : Argument :=
  if value = "true" then .flag true
  else if value = "false" then .flag false
  else
    match Java.parseLong value with
    | some number => .number number
    | none => .text value

/-- Without parts there is no element 1. -/
def keyAndValue (entry : String) : Except RuntimeException (String × Argument) :=
  match Java.split '=' entry with
  | [] => .error (.arrayIndexOutOfBounds 1)
  | [key] => .ok (key, .text "")
  | key :: value :: _ => .ok (key, typedValue value)

def parseBoolean (text : String) : Bool := text.toLower = "true"

def postProcess (keyValue : String × Argument) : String × Argument :=
  if keyValue.1 = "x-dead-letter-exchange" ∧ keyValue.2 = .text "amq.default" then
    ("x-dead-letter-exchange", .text "")
  else if keyValue.1 = "x-single-active-consumer" then
    ("x-single-active-consumer", .flag (parseBoolean keyValue.2.toString))
  else keyValue

def convertKeyValuePairs : Option String → Except RuntimeException (Option (LinkedMap String Argument))
  | none => .ok none
  | some arg =>
    if Java.trim arg = "" then .ok none
    else do
      let keyValues ← (Java.split ',' arg).mapM keyAndValue
      .ok (some (LinkedMap.empty.putEntries (keyValues.map postProcess)))

/-- The one with a list, where null is as the empty list. -/
def convertListOfKeyValuePairs (args : List String) : Except RuntimeException (LinkedMap String Argument) :=
  args.foldlM
    (fun result arg => do
      match ← convertKeyValuePairs (some arg) with
      | none => .ok result
      | some intermediaryArgs => .ok (result.putAll intermediaryArgs))
    LinkedMap.empty

end PerfTestModel

namespace PerfTestProof

open PerfTestModel

section Typing

def typedAs (key value : String) : Argument :=
  if key = "x-single-active-consumer" then .flag (value.toLower = "true")
  else if key = "x-dead-letter-exchange" ∧ value = "amq.default" then .text ""
  else if value = "true" then .flag true
  else if value = "false" then .flag false
  else
    match Java.parseLong value with
    | some number => .number number
    | none => .text value

variable {key value : String}

theorem toLower_t {c : Char} (lowered : c.toLower = 't') : c = 't' ∨ c = 'T' := by
  rcases Java.toLower_cases c with same | ⟨-, -, shifted⟩
  · exact Or.inl (same.symm.trans lowered)
  · rw [lowered] at shifted
    exact Or.inr (Char.toNat_inj.mp (by have capital : ('t' : Char).toNat = 84 + 32 := rfl; show c.toNat = 84; omega))

/-- A text of signs and digits is not "true". -/
theorem not_true_of_chars {text : String} (chars : ∀ c ∈ text.toList, c = '-' ∨ c = '+' ∨ (Java.digit c).isSome) :
    text.toLower ≠ "true" := by
  intro lowered
  have letters := congrArg String.toList lowered
  rw [Java.toList_toLower] at letters
  have first : 't' ∈ text.toList.map Char.toLower := letters ▸ List.mem_cons_self
  obtain ⟨c, inside, same⟩ := List.mem_map.mp first
  rcases toLower_t same with rfl | rfl
  · exact absurd (chars _ inside) (by decide)
  · exact absurd (chars _ inside) (by decide)

theorem parseLong_chars {number : ℤ} (read : Java.parseLong value = some number) :
    ∀ c ∈ value.toList, c = '-' ∨ c = '+' ∨ (Java.digit c).isSome := by
  obtain ⟨signed, -⟩ := Option.filter_eq_some_iff.mp read
  exact Java.signed_chars signed

theorem toString_chars (number : ℤ) : ∀ c ∈ (toString number).toList, c = '-' ∨ c = '+' ∨ (Java.digit c).isSome := by
  intro c inside
  rcases Java.mem_toString inside with sign | ascii
  · exact Or.inl sign
  · rw [Java.digit_isDigit ascii]
    exact Or.inr (Or.inr rfl)

theorem typedValue_text {text : String} (typed : typedValue value = .text text) : text = value := by
  unfold typedValue at typed
  split at typed
  · cases typed
  split at typed
  · cases typed
  split at typed
  · cases typed
  · exact (Argument.text.inj typed).symm

theorem parseBoolean_typedValue (value : String) :
    parseBoolean (typedValue value).toString = decide (value.toLower = "true") := by
  unfold typedValue
  by_cases true_ : value = "true"
  · subst true_
    decide +kernel
  rw [if_neg true_]
  by_cases false_ : value = "false"
  · subst false_
    decide +kernel
  rw [if_neg false_]
  cases read : Java.parseLong value with
  | none => rfl
  | some number =>
    have shown : (toString number).toLower ≠ "true" := not_true_of_chars (toString_chars number)
    have given : value.toLower ≠ "true" := not_true_of_chars (parseLong_chars read)
    exact (decide_eq_false shown).trans (decide_eq_false given).symm

theorem postProcess_typedValue (key value : String) :
    postProcess (key, typedValue value) = (key, typedAs key value) := by
  unfold postProcess typedAs
  dsimp only
  by_cases consumer : key = "x-single-active-consumer"
  · subst consumer
    rw [if_neg fun exchange => absurd exchange.1 (by decide), if_pos rfl, if_pos rfl, parseBoolean_typedValue]
  rw [if_neg consumer, if_neg consumer]
  by_cases default_ : key = "x-dead-letter-exchange" ∧ value = "amq.default"
  · obtain ⟨rfl, rfl⟩ := default_
    rw [if_pos ⟨rfl, by decide⟩, if_pos ⟨rfl, rfl⟩]
  · rw [if_neg fun both => default_ ⟨both.1, (typedValue_text both.2).symm⟩, if_neg default_]
    rfl

end Typing

section Before

def beforeEquals (value : String) : String := String.ofList (value.toList.takeWhile (· ≠ '='))

theorem before_eq_self {value : String} (absent : '=' ∉ value.toList) : beforeEquals value = value := by
  unfold beforeEquals
  rw [List.takeWhile_eq_self_iff.mpr, String.ofList_toList]
  exact fun c inside => decide_eq_true fun same => absent (same ▸ inside)

theorem not_mem_before (value : String) : '=' ∉ (beforeEquals value).toList := by
  intro inside
  rw [beforeEquals, String.toList_ofList] at inside
  have different := List.mem_takeWhile_imp inside
  exact absurd rfl (of_decide_eq_true different)

theorem typedAs_text {key value text : String} (notConsumer : key ≠ "x-single-active-consumer")
    (typed : typedAs key value = .text text) : text = value ∨ text = "" := by
  unfold typedAs at typed
  rw [if_neg notConsumer] at typed
  split at typed
  · exact Or.inr (Argument.text.inj typed).symm
  split at typed
  · cases typed
  split at typed
  · cases typed
  split at typed
  · cases typed
  · exact Or.inl (Argument.text.inj typed).symm

theorem typedAs_of_equals {key value : String} (notConsumer : key ≠ "x-single-active-consumer")
    (inside : '=' ∈ value.toList) : typedAs key value = .text value := by
  have unlike : ∀ text : String, '=' ∉ text.toList → value ≠ text := fun text none same => none (same ▸ inside)
  have unread : Java.parseLong value = none := by
    cases read : Java.parseLong value with
    | none => rfl
    | some number => exact absurd (parseLong_chars read '=' inside) (by decide)
  unfold typedAs
  rw [if_neg notConsumer, if_neg fun both => unlike "amq.default" (by decide) both.2,
    if_neg (unlike "true" (by decide)),
    if_neg (unlike "false" (by decide)), unread]

/-- An equals sign in a value is noticed, unless both are no "true" to a flag. -/
theorem typedAs_before (key value : String) : typedAs key (beforeEquals value) = typedAs key value ↔
    '=' ∉ value.toList ∨ key = "x-single-active-consumer" ∧ (beforeEquals value).toLower ≠ "true" := by
  by_cases absent : '=' ∉ value.toList
  · exact iff_of_true (congrArg (typedAs key) (before_eq_self absent)) (Or.inl absent)
  have inside : '=' ∈ value.toList := not_not.mp absent
  by_cases consumer : key = "x-single-active-consumer"
  · have notTrue : value.toLower ≠ "true" := by
      intro lowered
      have letters := congrArg String.toList lowered
      rw [Java.toList_toLower] at letters
      have equals : '=' ∈ "true".toList := letters ▸ List.mem_map_of_mem (f := Char.toLower) inside
      exact absurd equals (by decide)
    unfold typedAs
    rw [if_pos consumer, if_pos consumer, Argument.flag.injEq, decide_eq_decide]
    constructor
    · exact fun same => Or.inr ⟨consumer, fun beforeTrue => notTrue (same.mp beforeTrue)⟩
    · rintro (none | ⟨-, beforeNotTrue⟩)
      · exact absurd none absent
      · exact iff_of_false beforeNotTrue notTrue
  · rw [typedAs_of_equals consumer inside]
    refine iff_of_false (fun same => ?_) ?_
    · rcases typedAs_text consumer same with whole | empty
      · exact not_mem_before value (whole ▸ inside)
      · rw [empty] at inside
        exact absurd inside (by decide)
    · rintro (none | ⟨same, -⟩)
      · exact absent none
      · exact consumer same

end Before

section Texts

theorem mapM_ok {α β ε : Type} {f : α → Except ε β} {g : α → β} {list : List α} (each : ∀ x ∈ list, f x = .ok (g x)) :
    list.mapM f = .ok (list.map g) := by
  induction list with
  | nil => rfl
  | cons first rest ih =>
    obtain ⟨here, later⟩ := List.forall_mem_cons.mp each
    rw [List.mapM_cons, here, ih later]
    rfl

theorem mapM_isOk {α β ε : Type} (f : α → Except ε β) (list : List α) :
    (∃ results, list.mapM f = .ok results) ↔ ∀ x ∈ list, ∃ result, f x = .ok result := by
  induction list with
  | nil => exact iff_of_true ⟨[], rfl⟩ fun entry inside => absurd inside List.not_mem_nil
  | cons first rest ih =>
    rw [List.forall_mem_cons, List.mapM_cons, ← ih]
    cases here : f first with
    | error exception =>
      refine iff_of_false ?_ ?_
      · rintro ⟨results, returned⟩
        cases returned
      · rintro ⟨⟨result, returned⟩, -⟩
        cases returned
    | ok result =>
      cases later : rest.mapM f with
      | error exception =>
        refine iff_of_false ?_ ?_
        · rintro ⟨results, returned⟩
          cases returned
        · rintro ⟨-, results, returned⟩
          cases returned
      | ok results => exact iff_of_true ⟨result :: results, rfl⟩ ⟨⟨result, rfl⟩, results, rfl⟩

theorem keyAndValue_isOk (entry : String) : (∃ keyValue, keyAndValue entry = .ok keyValue) ↔
    entry = "" ∨ ∃ c ∈ entry.toList, c ≠ '=' := by
  have empty : Java.split '=' entry = [] ↔ entry ≠ "" ∧ ∀ c ∈ entry.toList, c = '=' := Java.split_empty
  have other : entry = "" ∨ (∃ c ∈ entry.toList, c ≠ '=') ↔ Java.split '=' entry ≠ [] := by
    rw [Ne, empty]
    push Not
    exact or_iff_not_imp_left
  rw [other]
  unfold keyAndValue
  split
  case h_1 none =>
    refine iff_of_false ?_ (not_not.mpr none)
    rintro ⟨keyValue, returned⟩
    cases returned
  case h_2 key single => exact iff_of_true ⟨_, rfl⟩ (single ▸ List.cons_ne_nil _ _)
  case h_3 key value others several => exact iff_of_true ⟨_, rfl⟩ (several ▸ List.cons_ne_nil _ _)

/-- An entry of equals signs, between two commas or at an end, has no element 1. -/
theorem convert_isOk (text : String) : (∃ map, convertKeyValuePairs (some text) = .ok map) ↔
    (∀ c ∈ text.toList, c ≤ ' ') ∨ ∀ entry ∈ text.toList.splitOn ',', entry = [] ∨ ∃ c ∈ entry, c ≠ '=' := by
  unfold convertKeyValuePairs
  dsimp only
  by_cases blank : Java.trim text = ""
  · rw [if_pos blank]
    exact iff_of_true ⟨none, rfl⟩ (Or.inl (Java.trim_empty.mp blank))
  have notBlank : ¬ ∀ c ∈ text.toList, c ≤ ' ' := fun all => blank (Java.trim_empty.mpr all)
  have entries : (∀ entry ∈ Java.split ',' text, entry = "" ∨ ∃ c ∈ entry.toList, c ≠ '=') ↔
      ∀ entry ∈ text.toList.splitOn ',', entry = [] ∨ ∃ c ∈ entry, c ≠ '=' := by
    constructor
    · intro all entry inside
      refine or_iff_not_imp_left.mpr fun given => ?_
      have some_ : String.ofList entry ≠ "" := fun empty => given (String.ofList_eq_empty_iff.mp empty)
      have listed : String.ofList entry ∈ Java.split ',' text :=
        (Java.mem_split some_).mpr (by rwa [String.toList_ofList])
      have other := (all _ listed).resolve_left some_
      rwa [String.toList_ofList] at other
    · intro all entry inside
      refine or_iff_not_imp_left.mpr fun given => ?_
      refine (all entry.toList ((Java.mem_split given).mp inside)).resolve_left fun empty => given ?_
      exact String.toList_eq_nil_iff.mp empty
  rw [if_neg blank, or_iff_right notBlank, ← entries, ← forall₂_congr fun entry _ => keyAndValue_isOk entry,
    ← mapM_isOk]
  cases read : (Java.split ',' text).mapM keyAndValue with
  | error exception =>
    refine iff_of_false ?_ ?_
    · rintro ⟨map, returned⟩
      cases returned
    · rintro ⟨keyValues, returned⟩
      cases returned
  | ok keyValues => exact iff_of_true ⟨_, rfl⟩ ⟨keyValues, rfl⟩

end Texts

section Pairs

structure IsPair (pair : String × String) : Prop where
  given : ¬ ∀ c ∈ pair.1.toList, c ≤ ' '
  noComma : ',' ∉ pair.1.toList
  noEquals : '=' ∉ pair.1.toList
  value : ',' ∉ pair.2.toList

def entryOf (pair : String × String) : String := pair.1 ++ "=" ++ pair.2

def argumentOf (pairs : List (String × String)) : String := ",".intercalate (pairs.map entryOf)

variable {pair : String × String} {pairs : List (String × String)}

theorem key_ne_empty (isPair : IsPair pair) : pair.1 ≠ "" := by
  intro empty
  refine isPair.given fun c inside => ?_
  rw [empty] at inside
  cases inside

theorem entryOf_toList (pair : String × String) : (entryOf pair).toList = pair.1.toList ++ '=' :: pair.2.toList := by
  unfold entryOf
  rw [String.toList_append, String.toList_append, List.append_assoc]
  rfl

theorem keyAndValue_entryOf (isPair : IsPair pair) :
    keyAndValue (entryOf pair) = .ok (pair.1, typedValue (beforeEquals pair.2)) := by
  have parts := Java.split_key (key_ne_empty isPair) isPair.noEquals (entryOf_toList pair)
  unfold keyAndValue beforeEquals
  rcases parts with ⟨single, empty⟩ | ⟨others, several⟩
  · rw [single, empty]
    rfl
  · rw [several]

theorem split_argumentOf (some_ : pairs ≠ []) (arePairs : ∀ pair ∈ pairs, IsPair pair) :
    Java.split ',' (argumentOf pairs) = pairs.map entryOf := by
  refine Java.split_intercalate ?_ ?_ ?_ ?_
  · exact fun none => some_ (List.map_eq_nil_iff.mp none)
  · refine List.forall_mem_map.mpr fun pair inside comma => ?_
    rw [entryOf_toList] at comma
    rcases List.mem_append.mp comma with inKey | later
    · exact (arePairs pair inside).noComma inKey
    · rcases List.mem_cons.mp later with equals | inValue
      · cases equals
      · exact (arePairs pair inside).value inValue
  · refine List.forall_mem_map.mpr fun pair inside empty => ?_
    have letters := congrArg String.toList empty
    rw [entryOf_toList] at letters
    exact List.append_ne_nil_of_right_ne_nil _ (List.cons_ne_nil _ _) letters
  · exact String.toList_intercalate

def readPair (pair : String × String) : String × Argument := (pair.1, typedAs pair.1 (beforeEquals pair.2))

theorem key_inside {first : String × String} {rest : List (String × String)} {c : Char} (inside : c ∈ first.1.toList) :
    c ∈ (argumentOf (first :: rest)).toList := by
  have ofEntry : c ∈ (entryOf first).toList := by
    rw [entryOf_toList]
    exact List.mem_append_left _ inside
  unfold argumentOf
  rw [List.map_cons]
  cases rest.map entryOf with
  | nil => rwa [String.intercalate_singleton]
  | cons second others =>
    rw [String.intercalate_cons_cons, String.toList_append, String.toList_append, List.append_assoc]
    exact List.mem_append_left _ ofEntry

theorem convert_argumentOf (some_ : pairs ≠ []) (arePairs : ∀ pair ∈ pairs, IsPair pair) :
    convertKeyValuePairs (some (argumentOf pairs)) = .ok (some (LinkedMap.empty.putEntries (pairs.map readPair))) := by
  have notBlank : Java.trim (argumentOf pairs) ≠ "" := by
    intro blank
    obtain ⟨first, rest, rfl⟩ := List.exists_cons_of_ne_nil some_
    exact (arePairs first List.mem_cons_self).given fun c inside => Java.trim_empty.mp blank c (key_inside inside)
  have entries : (pairs.map entryOf).mapM keyAndValue =
      .ok (pairs.map fun pair => (pair.1, typedValue (beforeEquals pair.2))) := by
    rw [List.mapM_map]
    exact mapM_ok fun pair inside => keyAndValue_entryOf (arePairs pair inside)
  have processed : (pairs.map fun pair => (pair.1, typedValue (beforeEquals pair.2))).map postProcess =
      pairs.map readPair := by
    rw [List.map_map]
    exact List.map_congr_left fun pair _ => postProcess_typedValue pair.1 (beforeEquals pair.2)
  unfold convertKeyValuePairs
  dsimp only
  rw [if_neg notBlank, split_argumentOf some_ arePairs, entries, ← processed]
  rfl

def RoundTrips (pairs : List (String × String)) : Prop :=
  ∃ map, convertKeyValuePairs (some (argumentOf pairs)) = .ok (some map) ∧
    map.keys = (pairs.map Prod.fst).eraseDups ∧
    ∀ key, map.get? key = (LinkedMap.lastValue pairs key).map (typedAs key)

theorem roundTrips_iff (some_ : pairs ≠ []) (arePairs : ∀ pair ∈ pairs, IsPair pair) : RoundTrips pairs ↔
    ∀ key value, LinkedMap.lastValue pairs key = some value →
      '=' ∉ value.toList ∨ key = "x-single-active-consumer" ∧ (beforeEquals value).toLower ≠ "true" := by
  have converted := convert_argumentOf some_ arePairs
  have values : ∀ key, (LinkedMap.empty.putEntries (pairs.map readPair)).get? key =
      (LinkedMap.lastValue pairs key).map fun value => typedAs key (beforeEquals value) := by
    intro key
    rw [LinkedMap.get?_putEntries]
    exact Option.or_none.trans (LinkedMap.lastValue_map (fun key value => typedAs key (beforeEquals value)) pairs key)
  constructor
  · rintro ⟨map, returned, -, typed⟩ key value last
    obtain rfl := Option.some.inj (Except.ok.inj (converted.symm.trans returned))
    have both := (values key).symm.trans (typed key)
    rw [last] at both
    exact (typedAs_before key value).mp (Option.some.inj both)
  · intro plain
    refine ⟨_, converted, ?_, fun key => ?_⟩
    · rw [LinkedMap.keys_putEntries, List.map_map]
      rfl
    · rw [values]
      cases last : LinkedMap.lastValue pairs key with
      | none => rfl
      | some value => exact congrArg some ((typedAs_before key value).mpr (plain key value last))

end Pairs

section Lists

variable {lists : List (List (String × String))}

theorem argumentOf_flatten (some_ : ∀ pairs ∈ lists, pairs ≠ []) :
    ",".intercalate (lists.map argumentOf) = argumentOf lists.flatten := by
  induction lists with
  | nil => rfl
  | cons pairs lists ih =>
    obtain ⟨given, others⟩ := List.forall_mem_cons.mp some_
    rw [List.map_cons, List.flatten_cons]
    cases lists with
    | nil => rw [List.map_nil, String.intercalate_singleton, List.flatten_nil, List.append_nil]
    | cons second lists =>
      have later : ((second :: lists).flatten).map entryOf ≠ [] := by
        rw [List.flatten_cons, List.map_append]
        exact List.append_ne_nil_of_left_ne_nil
          (fun none => others second List.mem_cons_self (List.map_eq_nil_iff.mp none)) _
      have here : pairs.map entryOf ≠ [] := fun none => given (List.map_eq_nil_iff.mp none)
      have texts : (second :: lists).map argumentOf ≠ [] := List.cons_ne_nil _ _
      rw [String.intercalate_cons_of_ne_nil texts, ih others]
      unfold argumentOf
      rw [List.map_append, String.intercalate_append_of_ne_nil here later]

theorem convert_lists (some_ : ∀ pairs ∈ lists, pairs ≠ []) (arePairs : ∀ pairs ∈ lists, ∀ pair ∈ pairs, IsPair pair) :
    convertListOfKeyValuePairs (lists.map argumentOf) =
      .ok (LinkedMap.empty.putEntries (lists.flatten.map readPair)) := by
  unfold convertListOfKeyValuePairs
  generalize (LinkedMap.empty : LinkedMap String Argument) = result
  induction lists generalizing result with
  | nil => rfl
  | cons pairs lists ih =>
    obtain ⟨given, others⟩ := List.forall_mem_cons.mp some_
    obtain ⟨here, later⟩ := List.forall_mem_cons.mp arePairs
    rw [List.map_cons, List.foldlM_cons, convert_argumentOf given here]
    show (lists.map argumentOf).foldlM _ (result.putAll (LinkedMap.empty.putEntries (pairs.map readPair))) = _
    rw [LinkedMap.putAll_putEntries, ih others later, List.flatten_cons, List.map_append, LinkedMap.putEntries_append]

/-- A list of texts is converted as their concatenation is, with an empty map for null. -/
theorem convert_concatenated (some_ : ∀ pairs ∈ lists, pairs ≠ [])
    (arePairs : ∀ pairs ∈ lists, ∀ pair ∈ pairs, IsPair pair) :
    convertListOfKeyValuePairs (lists.map argumentOf) =
      (convertKeyValuePairs (some (",".intercalate (lists.map argumentOf)))).map (·.getD LinkedMap.empty) := by
  rw [convert_lists some_ arePairs, argumentOf_flatten some_]
  by_cases none : lists.flatten = []
  · rw [none]
    rfl
  · have all : ∀ pair ∈ lists.flatten, IsPair pair := by
      intro pair inside
      obtain ⟨pairs, listed, isIn⟩ := List.mem_flatten.mp inside
      exact arePairs pairs listed pair isIn
    rw [convert_argumentOf none all]
    rfl

end Lists

/-- An entry of equals signs is no pair, and a value ends at its first equals sign. -/
theorem key_value_pairs_iff (text : String) (pairs : List (String × String)) (some_ : pairs ≠ [])
    (arePairs : ∀ pair ∈ pairs, IsPair pair) (lists : List (List (String × String)))
    (someLists : ∀ pairs ∈ lists, pairs ≠ []) (areLists : ∀ pairs ∈ lists, ∀ pair ∈ pairs, IsPair pair) :
    ((∃ map, convertKeyValuePairs (some text) = .ok map) ↔
      (∀ c ∈ text.toList, c ≤ ' ') ∨ ∀ entry ∈ text.toList.splitOn ',', entry = [] ∨ ∃ c ∈ entry, c ≠ '=') ∧
    (RoundTrips pairs ↔ ∀ key value, LinkedMap.lastValue pairs key = some value →
      '=' ∉ value.toList ∨ key = "x-single-active-consumer" ∧ (beforeEquals value).toLower ≠ "true") ∧
    convertListOfKeyValuePairs (lists.map argumentOf) =
      (convertKeyValuePairs (some (",".intercalate (lists.map argumentOf)))).map (·.getD LinkedMap.empty) :=
  ⟨convert_isOk text, roundTrips_iff some_ arePairs, convert_concatenated someLists areLists⟩

def queueArguments : List (String × String) := [("max-length-bytes", "5"), ("x-queue-type", "quorum")]

theorem queueArguments_arePairs : ∀ pair ∈ queueArguments, IsPair pair := by
  intro pair inside
  simp only [queueArguments, List.mem_cons, List.not_mem_nil, or_false] at inside
  rcases inside with rfl | rfl
  · exact ⟨fun blank => absurd (blank 'm' (by decide)) (by decide), by decide, by decide, by decide⟩
  · exact ⟨fun blank => absurd (blank 'x' (by decide)) (by decide), by decide, by decide, by decide⟩

theorem queueArguments_round_trip :
    (∃ map, convertKeyValuePairs (some "max-length-bytes=5,x-queue-type") = .ok map) ∧ RoundTrips queueArguments ∧
      convertListOfKeyValuePairs ([queueArguments, queueArguments].map argumentOf) =
        (convertKeyValuePairs (some (",".intercalate ([queueArguments, queueArguments].map argumentOf)))).map
          (·.getD LinkedMap.empty) := by
  have both : ∀ pairs ∈ [queueArguments, queueArguments], pairs = queueArguments := by
    intro pairs inside
    simpa using inside
  obtain ⟨returned, roundTrip, concatenated⟩ := key_value_pairs_iff "max-length-bytes=5,x-queue-type" queueArguments
    (by decide) queueArguments_arePairs [queueArguments, queueArguments]
    (fun pairs inside => both pairs inside ▸ by decide)
    (fun pairs inside => both pairs inside ▸ queueArguments_arePairs)
  have entries : ∀ entry ∈ "max-length-bytes=5,x-queue-type".toList.splitOn ',',
      entry = [] ∨ entry.any (· ≠ '=') = true := by decide
  have given : ∀ entry ∈ "max-length-bytes=5,x-queue-type".toList.splitOn ',', entry = [] ∨ ∃ c ∈ entry, c ≠ '=' :=
    fun entry inside => (entries entry inside).imp id fun some_ => by simpa using some_
  refine ⟨returned.mpr (Or.inr given), roundTrip.mpr fun key value last => Or.inl ?_, concatenated⟩
  have listed : ∀ pair ∈ queueArguments.reverse, '=' ∉ pair.2.toList := by decide
  obtain ⟨pair, found, rfl⟩ := Option.map_eq_some_iff.mp last
  exact listed pair (List.mem_of_find?_eq_some found)

theorem equals_sign_alone :
    convertKeyValuePairs (some "=") = .error (.arrayIndexOutOfBounds 1) ∧
      (convertKeyValuePairs (some "a=b=c")).toOption.map (fun map => map.map LinkedMap.entries) =
        some (some [("a", .text "b")]) ∧
      ¬ ∀ text, ∃ map, convertKeyValuePairs (some text) = .ok map := by
  have thrown : convertKeyValuePairs (some "=") = .error (.arrayIndexOutOfBounds 1) := by decide +kernel
  refine ⟨thrown, by decide +kernel, fun returns => ?_⟩
  obtain ⟨map, returned⟩ := returns "="
  cases thrown.symm.trans returned

end PerfTestProof
