import PerfTest.Java.Formatter
import PerfTest.Metrics.ScenarioRates
import PerfTest.Systems.Writes
import PerfTest.Values.KeyValuePairs

namespace PerfTestModel

open Systems (LinkedMap)

inductive SpecValue where
  | null
  | number (value : ℚ)
  | boolean (value : Bool)
  | string (text : String)
  | list (values : List SpecValue)
  | map (entries : List (String × SpecValue))

inductive ParamValue where
  | int (value : ℤ)
  | float (value : ℚ)
  | boolean (value : Bool)
  | string (text : String)
  | list (values : List SpecValue)
  | map (entries : List (String × SpecValue))
  | keyValuePairs (map : Option (LinkedMap String Argument))

inductive TargetType where
  | int
  | long
  | float
  | boolean
  | string
  | list
  | map
  | other
  deriving DecidableEq, Repr

abbrev ParamFields := String → Option ParamValue

/-- What the conversions use of `Object.toString`, for what is no text and no truth value, and `Float.valueOf`. -/
structure SpecTexts where
  toString : SpecValue → String
  floatValueOf : String → Option ℚ

namespace PerfUtil

/-- The setters that `getDeclaredMethods` finds in MulticastParams. No two have the same name. -/
def setters : List (String × TargetType) :=
  [("setExchangeType", .string), ("setExchangeName", .string), ("setQueueNames", .list), ("setRoutingKey", .string),
    ("setRandomRoutingKey", .boolean), ("setSkipBindingQueues", .boolean), ("setProducerRateLimit", .float),
    ("setProducerCount", .int), ("setProducerChannelCount", .int), ("setConsumerRateLimit", .float),
    ("setConsumerCount", .int), ("setConsumerChannelCount", .int), ("setConsumerSlowStart", .boolean),
    ("setProducerTxSize", .int), ("setConsumerTxSize", .int), ("setConfirm", .long), ("setConfirmTimeout", .int),
    ("setAutoAck", .boolean), ("setMultiAckEvery", .int), ("setChannelPrefetch", .int), ("setConsumerPrefetch", .int),
    ("setMinMsgSize", .int), ("setTimeLimit", .int), ("setUseMillis", .boolean), ("setProducerMsgCount", .int),
    ("setConsumerMsgCount", .int), ("setMsgCount", .int), ("setAutoDelete", .boolean), ("setPredeclared", .boolean),
    ("setQueueArguments", .map), ("setMessageProperties", .map), ("setConsumersThreadPools", .int),
    ("setShutdownTimeout", .int), ("setServersStartUpTimeout", .int), ("setServersUpLimit", .int),
    ("setPublishingRates", .list), ("setConsumerArguments", .map), ("setExitWhen", .other), ("setCluster", .boolean),
    ("setConsumerStartDelay", .other), ("setOut", .other), ("setBodyFiles", .list), ("setBodyContentType", .string),
    ("setQueuePattern", .string), ("setQueueSequenceFrom", .int), ("setQueueSequenceTo", .int),
    ("setHeartbeatSenderThreads", .int), ("setMessageSizes", .list), ("setConsumerLatencyInMicroseconds", .long),
    ("setConsumerLatencies", .list), ("setRoutingKeyCacheSize", .int), ("setPolling", .boolean),
    ("setPollingInterval", .int), ("setNack", .boolean), ("setRequeue", .boolean), ("setJsonBody", .boolean),
    ("setBodyFieldCount", .int), ("setBodyCount", .int), ("setQueuesInSequence", .boolean),
    ("setStartListener", .other), ("setRateLimiterFactory", .other), ("setFlagMandatory", .boolean),
    ("setFlags", .list), ("setFlagPersistent", .boolean), ("setFunctionalLogger", .other), ("setExclusive", .boolean),
    ("setPublishingInterval", .other), ("setProducerRandomStartDelayInSeconds", .int),
    ("setProducerSchedulerThreadCount", .int), ("setNetty", .boolean), ("setConsumerConfiguredQueueListener", .other)]

variable (texts : SpecTexts)

def toText : SpecValue → String
  | .string text => text
  | .boolean value => if value then "true" else "false"
  | value => texts.toString value

/-- Without a result for null, and where `invoke` then has an argument of another type. -/
def convert : TargetType → SpecValue → Option ParamValue
  | _, .null => none
  | .int, .number value => some (.int (Java.intOf value))
  | .int, value => (Java.parseInt (toText texts value)).map .int
  | .long, .number value => some (.int (Java.longOfDouble value))
  | .long, value => (Java.parseLong (toText texts value)).map .int
  | .float, .number value => some (.float (Java.float value))
  | .float, value => (texts.floatValueOf (toText texts value)).map .float
  | .boolean, value => some (.boolean (parseBoolean (toText texts value)))
  | .string, .string text => some (.string text)
  | .string, _ => none
  | .list, .list values => some (.list values)
  | .list, value => some (.list ((Java.split ',' (toText texts value)).map .string))
  | .map, .map entries => some (.map entries)
  | .map, value => match convertKeyValuePairs (some (toText texts value)) with
    | .ok map => some (.keyValuePairs map)
    | .error _ => none
  | .other, _ => none

/-- The text with its first character changed. An empty one is left as it is. The characters are ASCII. -/
def first (change : Char → Char) (text : String) : String :=
  match text.toList with
  | [] => text
  | c :: rest => String.ofList (change c :: rest)

def isString (text : String) : SpecValue → Bool
  | .string value => value = text
  | _ => false

def assignments (setter : String) (value : ParamValue) : List (String × ParamValue) :=
  if setter = "setMsgCount" then [("producerMsgCount", value), ("consumerMsgCount", value)]
  else if setter = "setFlags" then
    match value with
    | .list (flag :: flags) =>
      [("flagMandatory", .boolean ((flag :: flags).any (isString "mandatory"))),
        ("flagPersistent", .boolean ((flag :: flags).any (isString "persistent")))]
    | _ => []
  else [(first Char.toLower (String.ofList (setter.toList.drop 3)), value)]

/-- `none` for any exception: no name, no such property, or a value that is not of its type. -/
def setValue (params : ParamFields) (name : String) (value : SpecValue) : Option ParamFields :=
  if name = "" then none
  else do
    let setter := "set" ++ first Char.toUpper name
    let targetType ← setters.lookup setter
    let converted ← convert texts targetType value
    return Systems.writeAll params (assignments setter converted)

end PerfUtil

namespace ScenarioFactory

/-- `part.substring(0, 1)` changed, with the rest, where `none` is for the exception of an empty part. -/
def firstOf (change : Char → Char) (part : String) : Option String :=
  if part = "" then none else some (PerfUtil.first change part)

def hyphensToCamel (name : String) : Option String := do
  let parts ← (Java.split '-' name).mapM (firstOf Char.toUpper)
  firstOf Char.toLower (String.join parts)

def jsonFieldsToPropertyNames : List (String × String) :=
  [("body", "bodyFiles"), ("rate", "producerRateLimit"), ("consumer-rate", "consumerRateLimit")]

def mapJsonFieldToPropertyName (jsonField : String) : Option String :=
  match jsonFieldsToPropertyNames.lookup jsonField with
  | some propertyName => some propertyName
  | none => hyphensToCamel jsonField

def setField (texts : SpecTexts) (params : ParamFields) (entry : String × SpecValue) : Option ParamFields := do
  let propertyName ← mapJsonFieldToPropertyName entry.1
  PerfUtil.setValue texts params propertyName entry.2

def paramsFromJSON (texts : SpecTexts) (json : List (String × SpecValue)) : Option ParamFields :=
  json.foldlM (setField texts) (Systems.write (fun _ => none) ("autoDelete", .boolean true))

end ScenarioFactory

end PerfTestModel

open PerfTestModel PerfUtil ScenarioFactory

namespace PerfTestProof

def FieldWord (word : String) : Prop :=
  word.toList.head?.any Char.isLower ∧ word.toList.tail.all fun c => !c.isUpper && c != '-'

instance : DecidablePred FieldWord := fun _ => inferInstanceAs (Decidable (_ ∧ _))

structure FieldName where
  words : List String
  nonempty : words ≠ []
  fieldWords : ∀ word ∈ words, FieldWord word

def FieldName.text (name : FieldName) : String := String.ofList (['-'].intercalate (name.words.map String.toList))

def capitalized (words : List String) : List Char := words.flatMap fun word => (first Char.toUpper word).toList

def camel : List String → String
  | [] => ""
  | word :: words => String.ofList (word.toList ++ capitalized words)

def aliased (words : List String) : List String :=
  if words = ["body"] then ["body", "files"]
  else if words = ["rate"] then ["producer", "rate", "limit"]
  else if words = ["consumer", "rate"] then ["consumer", "rate", "limit"]
  else words

theorem small_letters {c : Char} (lower : c.isLower) : c ∈ "abcdefghijklmnopqrstuvwxyz".toList := by
  have range : 97 ≤ c.toNat ∧ c.toNat ≤ 122 := by
    obtain ⟨above, below⟩ := Bool.and_eq_true_iff.mp lower
    exact ⟨of_decide_eq_true above, of_decide_eq_true below⟩
  have letters : ∀ code ∈ List.range' 97 26, Char.ofNat code ∈ "abcdefghijklmnopqrstuvwxyz".toList := by decide +kernel
  rw [← Char.ofNat_toNat c]
  exact letters _ (List.mem_range'_1.mpr (by omega))

theorem small_letter_changes {c : Char} (lower : c.isLower) :
    ¬c.isUpper ∧ c.toUpper.isUpper ∧ c.toUpper.toLower = c ∧ c ≠ '-' := by
  have letters : ("abcdefghijklmnopqrstuvwxyz".toList.all fun c =>
      !c.isUpper && c.toUpper.isUpper && c.toUpper.toLower == c && c != '-') = true := by decide +kernel
  simpa [and_assoc] using List.all_eq_true.mp letters c (small_letters lower)

theorem FieldWord.chars {word : String} (isWord : FieldWord word) :
    ∃ letter rest, word.toList = letter :: rest ∧ letter.isLower ∧ ∀ c ∈ rest, ¬c.isUpper ∧ c ≠ '-' := by
  obtain ⟨head, tail⟩ := isWord
  cases chars : word.toList with
  | nil =>
    rw [chars] at head
    cases head
  | cons letter rest =>
    rw [chars] at head tail
    exact ⟨letter, rest, rfl, head, by simpa using tail⟩

theorem FieldWord.no_capitals {word : String} (isWord : FieldWord word) : ∀ c ∈ word.toList, ¬c.isUpper := by
  obtain ⟨letter, rest, chars, lower, small⟩ := isWord.chars
  rw [chars, List.forall_mem_cons]
  exact ⟨(small_letter_changes lower).1, fun c inside => (small c inside).1⟩

theorem toList_first {change : Char → Char} {word : String} {letter : Char} {rest : List Char}
    (chars : word.toList = letter :: rest) : (first change word).toList = change letter :: rest := by
  rw [first, chars, String.toList_ofList]

theorem FieldWord.ne_empty {word : String} (isWord : FieldWord word) : word ≠ "" := by
  rintro rfl
  obtain ⟨letter, rest, chars, -⟩ := isWord.chars
  cases chars

theorem FieldWord.no_hyphen {word : String} (isWord : FieldWord word) : '-' ∉ word.toList := by
  obtain ⟨letter, rest, chars, lower, others⟩ := isWord.chars
  rw [chars, List.mem_cons, not_or]
  exact ⟨(small_letter_changes lower).2.2.2.symm, fun inside => (others _ inside).2 rfl⟩

theorem FieldName.split_text (name : FieldName) : Java.split '-' name.text = name.words :=
  Java.split_intercalate name.nonempty (fun word listed => (name.fieldWords word listed).no_hyphen)
    (fun word listed => (name.fieldWords word listed).ne_empty) String.toList_ofList

theorem mapM_firstOf {change : Char → Char} {words : List String} (fieldWords : ∀ word ∈ words, FieldWord word) :
    words.mapM (firstOf change) = some (words.map (first change)) := by
  induction words with
  | nil => rfl
  | cons word words ih =>
    have some_ : firstOf change word = some (first change word) :=
      if_neg (fieldWords word List.mem_cons_self).ne_empty
    rw [List.mapM_cons, some_, ih fun other listed => fieldWords other (List.mem_cons_of_mem _ listed)]
    rfl

theorem FieldName.hyphensToCamel (name : FieldName) : hyphensToCamel name.text = some (camel name.words) := by
  have fieldWords := name.fieldWords
  have parts := name.split_text
  have nonempty := name.nonempty
  obtain ⟨word, words, words_eq⟩ := List.exists_cons_of_ne_nil nonempty
  rw [words_eq] at parts fieldWords ⊢
  obtain ⟨letter, rest, chars, lower, -⟩ := (fieldWords word List.mem_cons_self).chars
  have joined : (String.join ((word :: words).map (first Char.toUpper))).toList =
      letter.toUpper :: (rest ++ capitalized words) := by
    rw [String.toList_join, List.map_cons, List.flatMap_cons, toList_first chars, List.flatMap_map]
    rfl
  have some_ : String.join ((word :: words).map (first Char.toUpper)) ≠ "" := by
    intro none
    rw [none] at joined
    cases joined
  rw [ScenarioFactory.hyphensToCamel, parts, mapM_firstOf fieldWords]
  change firstOf Char.toLower (String.join ((word :: words).map (first Char.toUpper))) = _
  rw [firstOf, if_neg some_, first, joined, camel, chars]
  change some (String.ofList (letter.toUpper.toLower :: _)) = _
  rw [(small_letter_changes lower).2.2.1]
  rfl

theorem capitalized_cons {word : String} {words : List String} {letter : Char} {rest : List Char}
    (chars : word.toList = letter :: rest) :
    capitalized (word :: words) = letter.toUpper :: (rest ++ capitalized words) := by
  rw [capitalized, List.flatMap_cons, toList_first chars]
  rfl

theorem takeWhile_capitalized {words : List String} (fieldWords : ∀ word ∈ words, FieldWord word) :
    (capitalized words).takeWhile (fun c => !c.isUpper) = [] := by
  cases words with
  | nil => rfl
  | cons word words =>
    obtain ⟨letter, rest, chars, lower, -⟩ := (fieldWords word List.mem_cons_self).chars
    rw [capitalized_cons chars, List.takeWhile_cons_of_neg (by simp [(small_letter_changes lower).2.1])]

theorem append_capitalized {start others : List Char} {words otherWords : List String}
    (small : ∀ c ∈ start, ¬c.isUpper) (othersSmall : ∀ c ∈ others, ¬c.isUpper)
    (fieldWords : ∀ word ∈ words, FieldWord word) (otherFieldWords : ∀ word ∈ otherWords, FieldWord word)
    (same : start ++ capitalized words = others ++ capitalized otherWords) :
    start = others ∧ capitalized words = capitalized otherWords := by
  have starts : start = others := by
    have taken := congrArg (List.takeWhile fun c => !c.isUpper) same
    rw [List.takeWhile_append_of_pos (by simpa using small), takeWhile_capitalized fieldWords,
      List.takeWhile_append_of_pos (by simpa using othersSmall), takeWhile_capitalized otherFieldWords] at taken
    simpa using taken
  subst starts
  exact ⟨rfl, List.append_cancel_left same⟩

theorem FieldWord.eq {word other : String} {letter otherLetter : Char} {rest : List Char}
    (chars : word.toList = letter :: rest) (otherChars : other.toList = otherLetter :: rest)
    (same : letter = otherLetter) : word = other :=
  String.toList_inj.mp (by rw [chars, otherChars, same])

theorem capitalized_injective {words others : List String} (fieldWords : ∀ word ∈ words, FieldWord word)
    (otherWords : ∀ word ∈ others, FieldWord word) (same : capitalized words = capitalized others) :
    words = others := by
  induction words generalizing others with
  | nil =>
    cases others with
    | nil => rfl
    | cons other others =>
      obtain ⟨letter, rest, chars, -⟩ := (otherWords other List.mem_cons_self).chars
      rw [capitalized_cons chars] at same
      cases same
  | cons word words ih =>
    obtain ⟨letter, rest, chars, lower, small⟩ := (fieldWords word List.mem_cons_self).chars
    cases others with
    | nil =>
      rw [capitalized_cons chars] at same
      cases same
    | cons other others =>
      obtain ⟨otherLetter, otherRest, otherChars, otherLower, otherSmall⟩ := (otherWords other List.mem_cons_self).chars
      rw [capitalized_cons chars, capitalized_cons otherChars, List.cons.injEq] at same
      have later := fun word listed => fieldWords word (List.mem_cons_of_mem _ listed)
      have otherLater := fun word listed => otherWords word (List.mem_cons_of_mem _ listed)
      obtain ⟨rfl, capitals⟩ := append_capitalized (fun c inside => (small c inside).1)
        (fun c inside => (otherSmall c inside).1) later otherLater same.2
      have letters : letter = otherLetter := by
        rw [← (small_letter_changes lower).2.2.1, same.1, (small_letter_changes otherLower).2.2.1]
      rw [FieldWord.eq chars otherChars letters, ih later otherLater capitals]

theorem camel_injective {words others : List String} (some_ : words ≠ []) (otherSome : others ≠ [])
    (fieldWords : ∀ word ∈ words, FieldWord word) (otherWords : ∀ word ∈ others, FieldWord word)
    (same : camel words = camel others) : words = others := by
  obtain ⟨word, words, rfl⟩ := List.exists_cons_of_ne_nil some_
  obtain ⟨other, others, rfl⟩ := List.exists_cons_of_ne_nil otherSome
  have later := fun word listed => fieldWords word (List.mem_cons_of_mem _ listed)
  have otherLater := fun word listed => otherWords word (List.mem_cons_of_mem _ listed)
  obtain ⟨starts, capitals⟩ := append_capitalized (fieldWords word List.mem_cons_self).no_capitals
    (otherWords other List.mem_cons_self).no_capitals later otherLater (String.ofList_injective same)
  rw [String.toList_inj.mp starts, capitalized_injective later otherLater capitals]

theorem FieldName.text_eq_iff (name : FieldName) (words : List String) (text : String)
    (split : Java.split '-' text = words)
    (joined : String.ofList (['-'].intercalate (words.map String.toList)) = text) :
    name.text = text ↔ name.words = words := by
  constructor
  · intro same
    rw [← name.split_text, same, split]
  · intro same
    rw [FieldName.text, same, joined]

theorem FieldName.aliased_words (name : FieldName) :
    aliased name.words ≠ [] ∧ ∀ word ∈ aliased name.words, FieldWord word := by
  unfold aliased
  split
  · decide
  · split
    · decide
    · split
      · decide
      · exact ⟨name.nonempty, name.fieldWords⟩

/-- The property of a field is the one of its words, or of those that they are an alias of. -/
theorem FieldName.propertyName (name : FieldName) :
    mapJsonFieldToPropertyName name.text = some (camel (aliased name.words)) := by
  have body := name.text_eq_iff ["body"] "body" (by decide) (by decide)
  have rate := name.text_eq_iff ["rate"] "rate" (by decide) (by decide)
  have consumerRate := name.text_eq_iff ["consumer", "rate"] "consumer-rate" (by decide) (by decide)
  unfold aliased
  split
  case isTrue isBody =>
    rw [body.mpr isBody]
    decide
  case isFalse notBody =>
    split
    case isTrue isRate =>
      rw [rate.mpr isRate]
      decide
    case isFalse notRate =>
      split
      case isTrue isConsumerRate =>
        rw [consumerRate.mpr isConsumerRate]
        decide
      case isFalse notConsumerRate =>
        have unlisted : jsonFieldsToPropertyNames.lookup name.text = none := by
          simp [jsonFieldsToPropertyNames, List.lookup_cons, beq_false_of_ne (mt body.mp notBody),
            beq_false_of_ne (mt rate.mp notRate), beq_false_of_ne (mt consumerRate.mp notConsumerRate)]
        rw [mapJsonFieldToPropertyName, unlisted]
        exact name.hyphensToCamel

/-- Two fields of a specification stand for one property where they have the same words, up to three aliases. -/
theorem property_names_agree_iff (name other : FieldName) :
    mapJsonFieldToPropertyName name.text = mapJsonFieldToPropertyName other.text ↔
      aliased name.words = aliased other.words := by
  rw [name.propertyName, other.propertyName, Option.some.injEq]
  constructor
  · exact camel_injective name.aliased_words.1 other.aliased_words.1 name.aliased_words.2 other.aliased_words.2
  · exact congrArg camel

def targets (words : List String) : List (List String) :=
  if aliased words = ["msg", "count"] then [["producer", "msg", "count"], ["consumer", "msg", "count"]]
  else if aliased words = ["flags"] then [["flag", "mandatory"], ["flag", "persistent"]]
  else [aliased words]

theorem FieldName.targets_words (name : FieldName) :
    ∀ target ∈ targets name.words, target ≠ [] ∧ ∀ word ∈ target, FieldWord word := by
  unfold targets
  split
  · decide
  · split
    · decide
    · rw [List.forall_mem_singleton]
      exact name.aliased_words

def assigned (texts : SpecTexts) (entry : FieldName × SpecValue) : Option (List (String × ParamValue)) := do
  let setter := String.ofList ("set".toList ++ capitalized (aliased entry.1.words))
  let targetType ← setters.lookup setter
  let converted ← convert texts targetType entry.2
  return assignments setter converted

variable {texts : SpecTexts}

theorem first_toUpper_camel {words : List String} (some_ : words ≠ []) (fieldWords : ∀ word ∈ words, FieldWord word) :
    (first Char.toUpper (camel words)).toList = capitalized words ∧ camel words ≠ "" ∧
      first Char.toLower (String.ofList (capitalized words)) = camel words := by
  obtain ⟨word, words, rfl⟩ := List.exists_cons_of_ne_nil some_
  obtain ⟨letter, rest, chars, lower, -⟩ := (fieldWords word List.mem_cons_self).chars
  have name : (camel (word :: words)).toList = letter :: (rest ++ capitalized words) := by
    rw [camel, String.toList_ofList, chars]
    rfl
  refine ⟨?_, ?_, ?_⟩
  · rw [toList_first name, capitalized_cons chars]
  · intro none
    rw [none] at name
    cases name
  · have upper : (String.ofList (capitalized (word :: words))).toList =
        letter.toUpper :: (rest ++ capitalized words) := by
      rw [String.toList_ofList, capitalized_cons chars]
    apply String.toList_inj.mp
    rw [toList_first upper, name, (small_letter_changes lower).2.2.1]

theorem setField_eq (params : ParamFields) (entry : FieldName × SpecValue) :
    setField texts params (entry.1.text, entry.2) = Systems.performWrites (assigned texts) params entry := by
  obtain ⟨upper, some_, -⟩ := first_toUpper_camel entry.1.aliased_words.1 entry.1.aliased_words.2
  have setter : "set" ++ first Char.toUpper (camel (aliased entry.1.words)) =
      String.ofList ("set".toList ++ capitalized (aliased entry.1.words)) := by
    apply String.toList_inj.mp
    rw [String.toList_append, upper, String.toList_ofList, String.toList_ofList]
  rw [setField, entry.1.propertyName]
  change setValue texts params (camel (aliased entry.1.words)) entry.2 = _
  rw [setValue, if_neg some_, Systems.performWrites, assigned, setter]
  simp only [Option.bind_eq_bind, Option.map_bind]
  refine congrArg _ (funext fun targetType => ?_)
  cases converted : convert texts targetType entry.2 <;> simp [converted]

theorem setter_eq_iff {words : List String} (others : List String) (fieldWords : ∀ word ∈ words, FieldWord word)
    (otherWords : ∀ word ∈ others, FieldWord word) :
    String.ofList ("set".toList ++ capitalized words) = String.ofList ("set".toList ++ capitalized others) ↔
      words = others := by
  constructor
  · intro same
    exact capitalized_injective fieldWords otherWords (List.append_cancel_left (String.ofList_injective same))
  · rintro rfl
    rfl

theorem assigned_fields {entry : FieldName × SpecValue} {writes : List (String × ParamValue)}
    (said : writes ∈ assigned texts entry) {written : String × ParamValue} (listed : written ∈ writes) :
    ∃ target ∈ targets entry.1.words, camel target = written.1 := by
  obtain ⟨some_, fieldWords⟩ := entry.1.aliased_words
  have counts := setter_eq_iff ["msg", "count"] fieldWords (by decide)
  have flags := setter_eq_iff ["flags"] fieldWords (by decide)
  have countsSetter : String.ofList ("set".toList ++ capitalized ["msg", "count"]) = "setMsgCount" := by decide
  have flagsSetter : String.ofList ("set".toList ++ capitalized ["flags"]) = "setFlags" := by decide
  rw [countsSetter] at counts
  rw [flagsSetter] at flags
  simp only [assigned, Option.bind_eq_bind, Option.mem_def, Option.bind_eq_some_iff] at said
  obtain ⟨targetType, -, converted, -, said⟩ := said
  cases said
  unfold assignments at listed
  rw [targets]
  by_cases isCounts : aliased entry.1.words = ["msg", "count"]
  · rw [if_pos (counts.mpr isCounts)] at listed
    rw [if_pos isCounts]
    rcases List.mem_pair.mp listed with rfl | rfl
    · have named : camel ["producer", "msg", "count"] = "producerMsgCount" := by decide
      exact ⟨_, by decide, named⟩
    · have named : camel ["consumer", "msg", "count"] = "consumerMsgCount" := by decide
      exact ⟨_, by decide, named⟩
  · rw [if_neg (mt counts.mp isCounts)] at listed
    rw [if_neg isCounts]
    by_cases isFlags : aliased entry.1.words = ["flags"]
    · rw [if_pos (flags.mpr isFlags)] at listed
      rw [if_pos isFlags]
      split at listed
      · rcases List.mem_pair.mp listed with rfl | rfl
        · have named : camel ["flag", "mandatory"] = "flagMandatory" := by decide
          exact ⟨_, by decide, named⟩
        · have named : camel ["flag", "persistent"] = "flagPersistent" := by decide
          exact ⟨_, by decide, named⟩
      · cases listed
    · rw [if_neg (mt flags.mp isFlags)] at listed
      rw [if_neg isFlags]
      rw [List.mem_singleton.mp listed, String.toList_ofList]
      exact ⟨_, List.mem_singleton_self _, (first_toUpper_camel some_ fieldWords).2.2.symm⟩

theorem assigned_apart {entry other : FieldName × SpecValue}
    (apart : (targets entry.1.words).Disjoint (targets other.1.words)) :
    Systems.Apart (assigned texts) entry other := by
  intro writes said laterWrites laterSaid written listed later laterListed same
  obtain ⟨target, isTarget, named⟩ := assigned_fields said listed
  obtain ⟨laterTarget, isLaterTarget, laterNamed⟩ := assigned_fields laterSaid laterListed
  obtain ⟨some_, fieldWords⟩ := entry.1.targets_words target isTarget
  obtain ⟨laterSome, laterWords⟩ := other.1.targets_words laterTarget isLaterTarget
  have equal := camel_injective some_ laterSome fieldWords laterWords (by rw [named, laterNamed, same])
  exact apart isTarget (equal ▸ isLaterTarget)

theorem paramsFromJSON_eq (texts : SpecTexts) (entries : List (FieldName × SpecValue)) :
    paramsFromJSON texts (entries.map fun entry => (entry.1.text, entry.2)) =
      entries.foldlM (Systems.performWrites (assigned texts))
        (Systems.write (fun _ => none) ("autoDelete", .boolean true)) := by
  rw [paramsFromJSON, List.foldlM_map]
  refine congrArg (fun step => List.foldlM step _ entries) ?_
  funext params entry
  exact setField_eq params entry

/-- Fields of a specification that set different things may come in any order. Each sets what it sets alone, and all
    that no field sets is as at the start. -/
theorem spec_fields_independent (texts : SpecTexts) (entries : List (FieldName × SpecValue))
    (apart : entries.Pairwise fun entry other => (targets entry.1.words).Disjoint (targets other.1.words)) :
    (∀ others, entries.Perm others →
      paramsFromJSON texts (others.map fun entry => (entry.1.text, entry.2)) =
        paramsFromJSON texts (entries.map fun entry => (entry.1.text, entry.2))) ∧
    ∀ params, paramsFromJSON texts (entries.map fun entry => (entry.1.text, entry.2)) = some params →
      (∀ entry ∈ entries, ∃ alone, paramsFromJSON texts [(entry.1.text, entry.2)] = some alone ∧
        ∀ target ∈ targets entry.1.words, params (camel target) = alone (camel target)) ∧
      ∀ field, (∀ entry ∈ entries, ∀ target ∈ targets entry.1.words, camel target ≠ field) →
        params field = if field = "autoDelete" then some (.boolean true) else none := by
  have symmetric : Std.Symm fun entry other : FieldName × SpecValue =>
      (targets entry.1.words).Disjoint (targets other.1.words) := ⟨fun _ _ => List.Disjoint.symm⟩
  refine ⟨fun others same => ?_, fun params read => ⟨fun entry listed => ?_, fun field untouched => ?_⟩⟩
  · rw [paramsFromJSON_eq, paramsFromJSON_eq]
    refine (Systems.performWrites_perm same (fun first inFirst second inSecond => ?_) _).symm
    by_cases equal : first = second
    · exact .inl equal
    · exact .inr (assigned_apart (apart.forall inFirst inSecond equal))
  · rw [paramsFromJSON_eq] at read
    obtain ⟨before, later, rfl⟩ := List.append_of_mem listed
    obtain ⟨alone, performed, same⟩ := Systems.performWrites_alone read
    refine ⟨alone, ?_, fun target isTarget => same (camel target) fun other inOthers writes said written inside => ?_⟩
    · rw [show [(entry.1.text, entry.2)] = [entry].map fun entry => (entry.1.text, entry.2) from rfl, paramsFromJSON_eq,
        List.foldlM_cons, performed]
      rfl
    · have disjoint : (targets other.1.words).Disjoint (targets entry.1.words) := by
        have pairs := (List.pairwise_middle List.Disjoint.symm).mp apart
        exact ((List.pairwise_cons.mp pairs).1 other inOthers).symm
      obtain ⟨otherTarget, isOther, named⟩ := assigned_fields said inside
      obtain ⟨some_, fieldWords⟩ := entry.1.targets_words target isTarget
      obtain ⟨otherSome, otherWords⟩ := other.1.targets_words otherTarget isOther
      intro equal
      have sameTarget := camel_injective otherSome some_ otherWords fieldWords (named.trans equal)
      exact disjoint isOther (sameTarget ▸ isTarget)
  · rw [paramsFromJSON_eq] at read
    have unwritten : ∀ entry ∈ entries, ∀ writes ∈ assigned texts entry, ∀ written ∈ writes, written.1 ≠ field := by
      intro entry listed writes said written inside
      obtain ⟨target, isTarget, named⟩ := assigned_fields said inside
      exact named ▸ untouched entry listed target isTarget
    rw [Systems.performWrites_unwritten unwritten read, Systems.write, Function.update_apply]

def rateField : FieldName := ⟨["rate"], by decide, by decide⟩

def countField : FieldName := ⟨["msg", "count"], by decide, by decide⟩

def flagsField : FieldName := ⟨["flags"], by decide, by decide⟩

/-- The rate is set as it is alone, a name that is not used stays unset, and queues are deleted by default. -/
theorem spec_fields_independent_rate :
    paramsFromJSON ⟨fun _ => "", fun _ => none⟩
        [("flags", .list [.string "persistent"]), ("rate", .number 100), ("msg-count", .number 10)] =
      paramsFromJSON ⟨fun _ => "", fun _ => none⟩
        [("rate", .number 100), ("msg-count", .number 10), ("flags", .list [.string "persistent"])] ∧
    ∃ params, paramsFromJSON ⟨fun _ => "", fun _ => none⟩
        [("rate", .number 100), ("msg-count", .number 10), ("flags", .list [.string "persistent"])] = some params ∧
      (∃ alone, paramsFromJSON ⟨fun _ => "", fun _ => none⟩ [("rate", .number 100)] = some alone ∧
        params "producerRateLimit" = alone "producerRateLimit") ∧
      params "queuePattern" = none ∧ params "autoDelete" = some (.boolean true) := by
  obtain ⟨anyOrder, read_⟩ := spec_fields_independent ⟨fun _ => "", fun _ => none⟩
    [(rateField, .number 100), (countField, .number 10), (flagsField, .list [.string "persistent"])]
    (by simp [rateField, countField, flagsField, targets, aliased])
  have accepted : (paramsFromJSON ⟨fun _ => "", fun _ => none⟩
      [("rate", .number 100), ("msg-count", .number 10), ("flags", .list [.string "persistent"])]).isSome = true := by
    decide +kernel
  obtain ⟨params, read⟩ := Option.isSome_iff_exists.mp accepted
  obtain ⟨each, others⟩ := read_ params read
  obtain ⟨alone, readAlone, same⟩ := each (rateField, .number 100) List.mem_cons_self
  refine ⟨anyOrder _ (@List.perm_append_comm _ [_, _] [_]), params, read, ⟨alone, readAlone, ?_⟩, ?_, ?_⟩
  · exact same ["producer", "rate", "limit"] (List.mem_singleton_self _)
  · exact others "queuePattern" (by decide +kernel)
  · exact others "autoDelete" (by decide +kernel)

end PerfTestProof
