import Mathlib.Data.List.GetD
import PerfTest.Messages.TimeSequence
import PerfTest.Systems.Json

open Systems

namespace PerfTestModel

abbrev RandomChoices := ℕ → ℕ

namespace RandomChoices

def nextInt (bound : ℕ) (choices : RandomChoices) : ℕ × RandomChoices :=
  (choices 0 % bound, fun call => choices (call + 1))

def swap {Element : Type} (list : List Element) (i j : ℕ) : List Element :=
  match list[i]?, list[j]? with
  | some first, some second => (list.set i second).set j first
  | _, _ => list

def shuffleBelow {Element : Type} : ℕ → List Element → RandomChoices → List Element × RandomChoices
  | i + 2, list, choices =>
    let other := choices.nextInt (i + 2)
    shuffleBelow (i + 1) (swap list (i + 1) other.1) other.2
  | _, list, choices => (list, choices)

def shuffle {Element : Type} (list : List Element) (choices : RandomChoices) : List Element × RandomChoices :=
  shuffleBelow list.length list choices

end RandomChoices

inductive BodySourceException
  | negativeArraySize (size : ℤ)
  | illegalArgument (message : String)
  | noSuchElement
  deriving DecidableEq, Repr

structure RandomJsonMessageBodySource where
  bodies : List ByteArray

namespace RandomJsonMessageBodySource

def UPPER : String := "ABCDEFGHIJKLMNOPQRSTUVWXYZ"

def LOWER : String := "abcdefghijklmnopqrstuvwxyz"

def DIGITS : String := "0123456789"

def ALPHANUM : String := UPPER ++ LOWER ++ DIGITS

def CONTENT_TYPE : String := "application/json"

def maxSize : ℕ := 200

def buffer (symbols : List Char) : ℕ → RandomChoices → List Char × RandomChoices
  | 0, choices => ([], choices)
  | size + 1, choices =>
    let index := choices.nextInt symbols.length
    let rest := buffer symbols size index.2
    (symbols.getD index.1 ' ' :: rest.1, rest.2)

def random (maxSize : ℕ) (symbols : List Char) (choices : RandomChoices) : List Char × RandomChoices :=
  let size := choices.nextInt (maxSize - 4)
  buffer symbols (size.1 + 5) size.2

def fieldsAndValues : ℕ → RandomChoices → (List (List Char) × List (List Char)) × RandomChoices
  | 0, choices => (([], []), choices)
  | fieldValueCount + 1, choices =>
    let field := random 30 LOWER.toList choices
    let value := random maxSize ALPHANUM.toList field.2
    let others := fieldsAndValues fieldValueCount value.2
    ((field.1 :: others.1.1, value.1 :: others.1.2), others.2)

def member (field value : List Char) : List Char :=
  "\"".toList ++ field ++ "\" : ".toList ++ "\"".toList ++ value ++ "\"".toList

def restarted (shuffledFields fieldsIterator : List (List Char)) : List (List Char) :=
  if fieldsIterator = [] then shuffledFields else fieldsIterator

def appendMembers (bodySize : ℤ) (shuffledFields values fieldsIterator : List (List Char)) (builder : List Char)
    (choices : RandomChoices) : Except BodySourceException (List Char × RandomChoices) :=
  match restarted shuffledFields fieldsIterator with
  | [] => .error .noSuchElement
  | field :: fieldsIterator =>
    if values = [] then .error (.illegalArgument "bound must be positive")
    else
      let pick := choices.nextInt values.length
      let appended := builder ++ member field (values.getD pick.1 [])
      if appended.length < bodySize then
        appendMembers bodySize shuffledFields values fieldsIterator (appended ++ [',']) pick.2
      else .ok (appended, pick.2)
  termination_by (bodySize - builder.length).toNat
  decreasing_by
    rename_i shorter
    simp only [appended, List.length_append] at shorter ⊢
    simp
    omega

def generate (bodySize : ℤ) (values : List (List Char)) :
    ℕ → List (List Char) → RandomChoices → Except BodySourceException (List ByteArray)
  | 0, _, _ => .ok []
  | bodyCount + 1, fields, choices => do
    let shuffledFields := choices.shuffle fields
    let builder ← appendMembers bodySize shuffledFields.1 values shuffledFields.1 "\x7b ".toList shuffledFields.2
    let bodies ← generate bodySize values bodyCount shuffledFields.1 builder.2
    .ok ((String.ofList (builder.1 ++ " \x7d".toList)).toUTF8 :: bodies)

def new (bodySize fieldValueCount bodyCount : ℤ) (choices : RandomChoices) :
    Except BodySourceException RandomJsonMessageBodySource :=
  if bodyCount < 0 then .error (.negativeArraySize bodyCount)
  else if fieldValueCount < 0 then .error (.illegalArgument ("Illegal Capacity: " ++ toString fieldValueCount))
  else do
    let generated := fieldsAndValues fieldValueCount.toNat choices
    let bodies ← generate bodySize generated.1.2 bodyCount.toNat generated.1.1 generated.2
    .ok ⟨bodies⟩

/-- The sequence number is not used. -/
def create (_sequenceNumber : ℤ) (choices : RandomChoices) (source : RandomJsonMessageBodySource) :
    Except BodySourceException MessageEnvelope :=
  if source.bodies = [] then .error (.illegalArgument "bound must be positive")
  else .ok ⟨.message (choices.nextInt source.bodies.length).1, some CONTENT_TYPE, 0⟩

end RandomJsonMessageBodySource

end PerfTestModel

namespace PerfTestProof

open PerfTestModel PerfTestModel.RandomJsonMessageBodySource

section Choices

theorem nextInt_lt {bound : ℕ} (positive : 0 < bound) (choices : RandomChoices) :
    (choices.nextInt bound).1 < bound := Nat.mod_lt _ positive

theorem mem_swap {Element : Type} {list : List Element} {i j : ℕ} {element : Element}
    (inside : element ∈ RandomChoices.swap list i j) : element ∈ list := by
  unfold RandomChoices.swap at inside
  split at inside
  case h_1 first second hasFirst hasSecond =>
    rcases List.mem_or_eq_of_mem_set inside with inside | rfl
    · rcases List.mem_or_eq_of_mem_set inside with inside | rfl
      · exact inside
      · exact List.mem_of_getElem? hasSecond
    · exact List.mem_of_getElem? hasFirst
  case h_2 => exact inside

theorem length_swap {Element : Type} (list : List Element) (i j : ℕ) :
    (RandomChoices.swap list i j).length = list.length := by
  unfold RandomChoices.swap
  split
  · rw [List.length_set, List.length_set]
  · rfl

theorem shuffleBelow_spec {Element : Type} (i : ℕ) (list : List Element) (choices : RandomChoices) :
    (RandomChoices.shuffleBelow i list choices).1.length = list.length ∧
      ∀ element ∈ (RandomChoices.shuffleBelow i list choices).1, element ∈ list := by
  fun_induction RandomChoices.shuffleBelow i list choices with
  | case1 i list choices other ih =>
    obtain ⟨length, members⟩ := ih
    exact ⟨length.trans (length_swap _ _ _), fun element inside => mem_swap (members element inside)⟩
  | case2 i list choices => exact ⟨rfl, fun element inside => inside⟩

end Choices

section Texts

structure IsText (limit : ℕ) (text : List Char) : Prop where
  length : text.length ≤ limit
  alphanumeric : ∀ c ∈ text, c ∈ ALPHANUM.toList

theorem buffer_spec {symbols : List Char} (some_ : symbols ≠ []) (size : ℕ) (choices : RandomChoices) :
    (buffer symbols size choices).1.length = size ∧ ∀ c ∈ (buffer symbols size choices).1, c ∈ symbols := by
  induction size generalizing choices with
  | zero => exact ⟨rfl, fun c inside => absurd inside List.not_mem_nil⟩
  | succ size ih =>
    obtain ⟨length, members⟩ := ih (choices.nextInt symbols.length).2
    unfold buffer
    refine ⟨congrArg (· + 1) length, List.forall_mem_cons.mpr ⟨?_, members⟩⟩
    have inBounds := nextInt_lt (List.length_pos_iff.mpr some_) choices
    rw [List.getD_eq_getElem _ _ inBounds]
    exact List.getElem_mem inBounds

theorem random_spec {maxSize : ℕ} (enough : 4 < maxSize) {symbols : List Char} (some_ : symbols ≠ [])
    (alphanumeric : ∀ c ∈ symbols, c ∈ ALPHANUM.toList) (choices : RandomChoices) :
    IsText maxSize (random maxSize symbols choices).1 := by
  have size := nextInt_lt (Nat.sub_pos_of_lt enough) choices
  obtain ⟨length, members⟩ :=
    buffer_spec some_ ((choices.nextInt (maxSize - 4)).1 + 5) (choices.nextInt (maxSize - 4)).2
  constructor
  · show (buffer symbols ((choices.nextInt (maxSize - 4)).1 + 5) (choices.nextInt (maxSize - 4)).2).1.length ≤ maxSize
    omega
  · exact fun c inside => alphanumeric c (members c inside)

theorem lower_alphanumeric : ∀ c ∈ LOWER.toList, c ∈ ALPHANUM.toList := by
  have each : LOWER.toList.all (ALPHANUM.toList.contains ·) = true := by decide +kernel
  exact fun c inside => List.contains_iff_mem.mp (List.all_eq_true.mp each c inside)

structure AreTexts (count : ℕ) (fields values : List (List Char)) : Prop where
  fieldCount : fields.length = count
  valueCount : values.length = count
  fields : ∀ field ∈ fields, IsText 30 field
  values : ∀ value ∈ values, IsText 200 value

theorem fieldsAndValues_spec (count : ℕ) (choices : RandomChoices) :
    AreTexts count (fieldsAndValues count choices).1.1 (fieldsAndValues count choices).1.2 := by
  induction count generalizing choices with
  | zero =>
    exact ⟨rfl, rfl, fun _ inside => absurd inside List.not_mem_nil, fun _ inside => absurd inside List.not_mem_nil⟩
  | succ count ih =>
    have field := random_spec (by decide : 4 < 30) (by decide : LOWER.toList ≠ []) lower_alphanumeric choices
    have value := random_spec (by decide : 4 < maxSize) (by decide : ALPHANUM.toList ≠ []) (fun c inside => inside)
      (random 30 LOWER.toList choices).2
    obtain ⟨fieldCount, valueCount, fields, values⟩ :=
      ih (random maxSize ALPHANUM.toList (random 30 LOWER.toList choices).2).2
    exact ⟨congrArg (· + 1) fieldCount, congrArg (· + 1) valueCount, List.forall_mem_cons.mpr ⟨field, fields⟩,
      List.forall_mem_cons.mpr ⟨value, values⟩⟩

end Texts

section Members

structure IsMember (text : List Char) : Prop where
  grammar : text ∈ Json.member Json.string
  length : text.length ≤ 237
  ascii : ∀ c ∈ text, c.toNat < 128

theorem alphanumeric_plain {c : Char} (inside : c ∈ ALPHANUM.toList) :
    (0x20 ≤ c.toNat ∧ c ≠ '\x22' ∧ c ≠ '\x5c') ∧ c.toNat < 128 := by
  have each : ALPHANUM.toList.all
        (fun c => decide ((0x20 ≤ c.toNat ∧ c ≠ '\x22' ∧ c ≠ '\x5c') ∧ c.toNat < 128)) = true := by
    decide +kernel
  exact of_decide_eq_true (List.all_eq_true.mp each c inside)

theorem member_spec {field value : List Char} (isField : IsText 30 field) (isValue : IsText 200 value) :
    IsMember (RandomJsonMessageBodySource.member field value) := by
  have whole : RandomJsonMessageBodySource.member field value =
      (['\x22'] ++ field ++ ['\x22']) ++ ([' '] ++ [':'] ++ [' ']) ++ (['\x22'] ++ value ++ ['\x22']) := by
    simp [RandomJsonMessageBodySource.member]
  have blank : ∀ c ∈ [' '], c = ' ' := fun c inside => List.mem_singleton.mp inside
  have fieldLength := isField.length
  have valueLength := isValue.length
  rw [whole]
  constructor
  · exact Json.mem_member (Json.mem_string fun c inside => (alphanumeric_plain (isField.alphanumeric c inside)).1)
      (Json.mem_token ':' [' '] [' '] blank blank)
      (Json.mem_string fun c inside => (alphanumeric_plain (isValue.alphanumeric c inside)).1)
  · simp only [List.length_append, List.length_singleton]
    omega
  · have quote : ('\x22' : Char).toNat < 128 := by decide
    have colon : (':' : Char).toNat < 128 := by decide
    have space : (' ' : Char).toNat < 128 := by decide
    intro c inside
    simp only [List.mem_append, List.mem_singleton] at inside
    rcases inside with (((rfl | inField) | rfl) | (rfl | rfl) | rfl) | (rfl | inValue) | rfl
    · exact quote
    · exact (alphanumeric_plain (isField.alphanumeric c inField)).2
    · exact quote
    · exact space
    · exact colon
    · exact space
    · exact quote
    · exact (alphanumeric_plain (isValue.alphanumeric c inValue)).2
    · exact quote

theorem next_field {shuffledFields fieldsIterator : List (List Char)}
    (left : ∀ field ∈ fieldsIterator, field ∈ shuffledFields) :
    ∀ field ∈ restarted shuffledFields fieldsIterator, field ∈ shuffledFields := by
  unfold restarted
  split
  · exact fun field inside => inside
  · exact left

theorem picked_member {field : List Char} {values : List (List Char)} (isField : IsText 30 field)
    (someValue : values ≠ [])
    (areValues : ∀ value ∈ values, IsText 200 value) (choices : RandomChoices) :
    IsMember (RandomJsonMessageBodySource.member field (values.getD (choices.nextInt values.length).1 [])) := by
  have picked := nextInt_lt (List.length_pos_iff.mpr someValue) choices
  rw [List.getD_eq_getElem values [] picked]
  exact member_spec isField (areValues _ (List.getElem_mem picked))

/-- The members that the loop adds. Before each of them, the builder has not been too long. -/
theorem appendMembers_spec (bodySize : ℤ) {shuffledFields values fieldsIterator : List (List Char)}
    (builder : List Char)
    (choices : RandomChoices) (someField : shuffledFields ≠ []) (fields : ∀ field ∈ shuffledFields, IsText 30 field)
    (someValue : values ≠ []) (areValues : ∀ value ∈ values, IsText 200 value)
    (left : ∀ field ∈ fieldsIterator, field ∈ shuffledFields) (short : (builder.length : ℤ) ≤ max 2 bodySize) :
    ∃ members rest, appendMembers bodySize shuffledFields values fieldsIterator builder choices =
        .ok (builder ++ [','].intercalate members, rest) ∧
      members ≠ [] ∧ (∀ text ∈ members, IsMember text) ∧
      bodySize ≤ (builder ++ [','].intercalate members).length ∧
      ((builder ++ [','].intercalate members).length : ℤ) ≤ max 2 bodySize + 237 := by
  fun_induction appendMembers bodySize shuffledFields values fieldsIterator builder choices with
  | case1 fieldsIterator builder choices none =>
    unfold restarted at none
    split at none
    case isTrue => exact absurd none someField
    case isFalse some_ => exact absurd none some_
  | case2 fieldsIterator builder choices field rest next none => exact absurd none someValue
  | case3 fieldsIterator builder choices field rest next some_ pick appended shorter ih =>
    have known := next_field left
    rw [next] at known
    obtain ⟨isKnown, others⟩ := List.forall_mem_cons.mp known
    have own := picked_member (fields field isKnown) someValue areValues choices
    obtain ⟨members, left, returned, someMember, areMembers, lower, upper⟩ := ih others (by
      rw [List.length_append, List.length_singleton]
      omega)
    have joined : builder ++
        [','].intercalate (RandomJsonMessageBodySource.member field (values.getD pick.1 []) :: members) =
        appended ++ [','] ++ [','].intercalate members := by
      rw [List.intercalate_cons_of_ne_nil someMember, ← List.append_assoc, ← List.append_assoc]
    refine ⟨_ :: members, left, ?_, List.cons_ne_nil _ _, List.forall_mem_cons.mpr ⟨own, areMembers⟩, ?_, ?_⟩
    · rw [joined, returned]
    · rw [joined]
      exact lower
    · rw [joined]
      exact upper
  | case4 fieldsIterator builder choices field rest next some_ pick appended enough =>
    have known := next_field left
    rw [next] at known
    obtain ⟨isKnown, -⟩ := List.forall_mem_cons.mp known
    have own := picked_member (fields field isKnown) someValue areValues choices
    refine ⟨[_], pick.2, ?_, List.cons_ne_nil _ _, List.forall_mem_singleton.mpr own, ?_, ?_⟩
    · rw [List.intercalate_singleton]
    · rw [List.intercalate_singleton]
      exact not_lt.mp enough
    · rw [List.intercalate_singleton, List.length_append]
      have length := own.length
      omega

end Members

section Bodies

theorem size_ascii {text : List Char} (ascii : ∀ c ∈ text, c.toNat < 128) :
    (String.ofList text).toUTF8.size = text.length := by
  show (String.ofList text).utf8ByteSize = text.length
  induction text using List.reverseRecOn with
  | nil => rfl
  | append_singleton text c ih =>
    have own : c.toNat < 128 := ascii c (List.mem_append_right _ (List.mem_singleton_self c))
    have single : c.utf8Size = 1 := if_pos (show c.toNat ≤ 0x7f by omega)
    rw [String.ofList_append, String.utf8ByteSize_append, ih fun d inside => ascii d (List.mem_append_left _ inside),
      ← String.singleton_eq_ofList, String.utf8ByteSize_singleton, single, List.length_append, List.length_singleton]

structure IsJsonBody (bodySize : ℤ) (body : ByteArray) : Prop where
  document : ∃ text : String, body = text.toUTF8 ∧ text.toList ∈ Json.object Json.string
  atLeast : bodySize + 2 ≤ body.size
  atMost : (body.size : ℤ) ≤ max bodySize 2 + 239

theorem body_spec {bodySize : ℤ} {members : List (List Char)} (some_ : members ≠ [])
    (areMembers : ∀ text ∈ members, IsMember text)
    (lower : bodySize ≤ ("\x7b ".toList ++ [','].intercalate members).length)
    (upper : (("\x7b ".toList ++ [','].intercalate members).length : ℤ) ≤ max 2 bodySize + 237) :
    IsJsonBody bodySize
      (String.ofList ("\x7b ".toList ++ [','].intercalate members ++ " \x7d".toList)).toUTF8 := by
  have grammar := Json.mem_members some_ fun text inside => (areMembers text inside).grammar
  have blank : ∀ c ∈ [' '], c = ' ' := fun c inside => List.mem_singleton.mp inside
  have nothing : ∀ c ∈ ([] : List Char), c = ' ' := fun c inside => absurd inside List.not_mem_nil
  have opening : "\x7b ".toList ∈ Json.token '\x7b' := Json.mem_token '\x7b' [] [' '] nothing blank
  have closing : " \x7d".toList ∈ Json.token '\x7d' := Json.mem_token '\x7d' [' '] [] blank nothing
  have ascii : ∀ c ∈ "\x7b ".toList ++ [','].intercalate members ++ " \x7d".toList, c.toNat < 128 := by
    have brackets : ("\x7b ".toList ++ " \x7d".toList).all (fun c => decide (c.toNat < 128)) = true := by decide
    have bracket : ∀ c ∈ "\x7b ".toList ++ " \x7d".toList, c.toNat < 128 :=
      fun c inside => of_decide_eq_true (List.all_eq_true.mp brackets c inside)
    intro c inside
    rcases List.mem_append.mp inside with inside | close
    · rcases List.mem_append.mp inside with open_ | joined
      · exact bracket c (List.mem_append_left _ open_)
      · rcases Json.mem_intercalate joined with rfl | ⟨text, isMember, inText⟩
        · decide
        · exact (areMembers text isMember).ascii c inText
    · exact bracket c (List.mem_append_right _ close)
  have size := size_ascii ascii
  have ends : " \x7d".toList.length = 2 := rfl
  rw [List.length_append, ends] at size
  constructor
  · refine ⟨_, rfl, ?_⟩
    rw [String.toList_ofList]
    exact Json.mem_object opening grammar closing
  · rw [size]
    omega
  · rw [size]
    omega

theorem generate_spec (bodySize : ℤ) {values : List (List Char)} (someValue : values ≠ [])
    (areValues : ∀ value ∈ values, IsText 200 value) (bodyCount : ℕ) {fields : List (List Char)}
    (someField : fields ≠ [])
    (areFields : ∀ field ∈ fields, IsText 30 field) (choices : RandomChoices) :
    ∃ bodies, generate bodySize values bodyCount fields choices = .ok bodies ∧ bodies.length = bodyCount ∧
      ∀ body ∈ bodies, IsJsonBody bodySize body := by
  induction bodyCount generalizing fields choices with
  | zero => exact ⟨[], rfl, rfl, fun body inside => absurd inside List.not_mem_nil⟩
  | succ bodyCount ih =>
    obtain ⟨length, shuffled⟩ := shuffleBelow_spec fields.length fields choices
    have someShuffled : (choices.shuffle fields).1 ≠ [] := by
      intro none
      have empty : (choices.shuffle fields).1.length = fields.length := length
      rw [none] at empty
      exact someField (List.length_eq_zero_iff.mp empty.symm)
    have areShuffled : ∀ field ∈ (choices.shuffle fields).1, IsText 30 field :=
      fun field inside => areFields field (shuffled field inside)
    obtain ⟨members, rest, built, someMember, areMembers, lower, upper⟩ := appendMembers_spec bodySize "\x7b ".toList
      (choices.shuffle fields).2 someShuffled areShuffled someValue areValues (fun field inside => inside)
      (le_max_left _ _)
    obtain ⟨bodies, generated, count, areBodies⟩ := ih someShuffled areShuffled rest
    refine ⟨_ :: bodies, ?_, congrArg (· + 1) count, List.forall_mem_cons.mpr
      ⟨body_spec someMember areMembers lower upper, areBodies⟩⟩
    unfold generate
    dsimp only
    rw [built]
    dsimp only [bind, Except.bind]
    rw [generated]

theorem new_spec (bodySize : ℤ) {fieldValueCount bodyCount : ℤ} (someField : 0 < fieldValueCount)
    (notNegative : 0 ≤ bodyCount) (choices : RandomChoices) :
    ∃ bodies, new bodySize fieldValueCount bodyCount choices = .ok ⟨bodies⟩ ∧
      bodies.length = bodyCount ∧ ∀ body ∈ bodies, IsJsonBody bodySize body := by
  have texts := fieldsAndValues_spec fieldValueCount.toNat choices
  have positive : 0 < fieldValueCount.toNat := by omega
  have fields := List.length_pos_iff.mp (texts.fieldCount.symm ▸ positive)
  have values := List.length_pos_iff.mp (texts.valueCount.symm ▸ positive)
  obtain ⟨bodies, generated, count, areBodies⟩ := generate_spec bodySize values texts.values bodyCount.toNat
    fields texts.fields (fieldsAndValues fieldValueCount.toNat choices).2
  refine ⟨bodies, ?_, by omega, areBodies⟩
  unfold new
  rw [if_neg (by omega), if_neg (by omega)]
  dsimp only
  rw [generated]
  rfl

end Bodies

/-- Whatever the choices, all bodies are documents of about the size asked for. -/
theorem json_bodies (bodySize : ℤ) {fieldValueCount bodyCount : ℤ} (someField : 1 ≤ fieldValueCount)
    (someBody : 1 ≤ bodyCount) (choices : RandomChoices) :
    ∃ source, new bodySize fieldValueCount bodyCount choices = .ok source ∧
      source.bodies.length = bodyCount ∧ ∀ body ∈ source.bodies, IsJsonBody bodySize body := by
  obtain ⟨bodies, generated, count, areBodies⟩ := new_spec bodySize someField (by omega : 0 ≤ bodyCount) choices
  exact ⟨⟨bodies⟩, generated, count, areBodies⟩

theorem two_bodies_of_1200 : ∃ source, new 1200 3 2 (fun call => call) = .ok source ∧
    source.bodies.length = 2 ∧ ∀ body ∈ source.bodies, IsJsonBody 1200 body := by
  obtain ⟨source, generated, count, areBodies⟩ :=
    json_bodies 1200 (by decide : (1 : ℤ) ≤ 3) (by decide : (1 : ℤ) ≤ 2) (fun call => call)
  exact ⟨source, generated, by exact_mod_cast count, areBodies⟩

end PerfTestProof
