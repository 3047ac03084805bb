import PerfTest.Java.Primitives
import PerfTest.Topology.Recording

namespace PerfTestModel

inductive FieldClass
  | integer
  | short
  | byte
  | double
  | float
  | bigDecimal
  | date
  | byteArray
  | list
  | map
  deriving DecidableEq, Repr

inductive FieldValue
  | null
  | text (value : String)
  | flag (value : Bool)
  | long (value : ℤ)
  | other (class_ : FieldClass)
  deriving DecidableEq, Repr

def FieldValue.ofArgument : Argument → FieldValue
  | .text value => .text value
  | .number value => .long value
  | .flag value => .flag value

structure BasicProperties where
  contentType : Option String
  contentEncoding : Option String
  headers : Option (NameMap FieldValue)
  deliveryMode : Option ℤ
  priority : Option ℤ
  correlationId : Option String
  replyTo : Option String
  expiration : Option String
  messageId : Option String
  timestamp : Option ℤ
  type : Option String
  userId : Option String
  appId : Option String
  clusterId : Option String
  deriving DecidableEq

namespace BasicProperties

def empty : BasicProperties :=
  ⟨none, none, none, none, none, none, none, none, none, none, none, none, none, none⟩

end BasicProperties

structure Property (Value : Type) where
  get : BasicProperties → Option Value
  set : Option Value → BasicProperties → BasicProperties
  set_get : ∀ properties, set (get properties) properties = properties

namespace Property

def contentType : Property String :=
  ⟨(·.contentType), fun value builder => { builder with contentType := value }, fun _ => rfl⟩

def contentEncoding : Property String :=
  ⟨(·.contentEncoding), fun value builder => { builder with contentEncoding := value }, fun _ => rfl⟩

def deliveryMode : Property ℤ :=
  ⟨(·.deliveryMode), fun value builder => { builder with deliveryMode := value }, fun _ => rfl⟩

def priority : Property ℤ :=
  ⟨(·.priority), fun value builder => { builder with priority := value }, fun _ => rfl⟩

def correlationId : Property String :=
  ⟨(·.correlationId), fun value builder => { builder with correlationId := value }, fun _ => rfl⟩

def replyTo : Property String :=
  ⟨(·.replyTo), fun value builder => { builder with replyTo := value }, fun _ => rfl⟩

def expiration : Property String :=
  ⟨(·.expiration), fun value builder => { builder with expiration := value }, fun _ => rfl⟩

def messageId : Property String :=
  ⟨(·.messageId), fun value builder => { builder with messageId := value }, fun _ => rfl⟩

def timestamp : Property ℤ :=
  ⟨(·.timestamp), fun value builder => { builder with timestamp := value }, fun _ => rfl⟩

def type : Property String :=
  ⟨(·.type), fun value builder => { builder with type := value }, fun _ => rfl⟩

def userId : Property String :=
  ⟨(·.userId), fun value builder => { builder with userId := value }, fun _ => rfl⟩

def appId : Property String :=
  ⟨(·.appId), fun value builder => { builder with appId := value }, fun _ => rfl⟩

def clusterId : Property String :=
  ⟨(·.clusterId), fun value builder => { builder with clusterId := value }, fun _ => rfl⟩

end Property

namespace Argument

def toString : Argument → String
  | .text value => value
  | .number value => ToString.toString value
  | .flag value => ToString.toString value

/-- `((Number) value).intValue()`, with `none` for the ClassCastException. -/
def intValue : Argument → Option ℤ
  | .number value => some (Java.int value)
  | .text _ | .flag _ => none

end Argument

abbrev BuilderProcessor := BasicProperties → BasicProperties

namespace MessageProperties

def timestampHeader : String := "timestamp"

def messagePropertiesKeys : List String :=
  ["contentType", "contentEncoding", "headers", "deliveryMode", "priority", "correlationId", "replyTo", "expiration",
    "messageId", timestampHeader, "type", "userId", "appId", "clusterId"]

def isPropertyKey (key : String) : Bool := messagePropertiesKeys.contains key

def andThen (builderProcessor next : BuilderProcessor) : BuilderProcessor := fun builder =>
  next (builderProcessor builder)

/-- The step for one key. The value is converted when the producer is created; `none` is an exception. -/
def withProperty {Value : Type} (key : String) (convert : Argument → Option Value) (property : Property Value)
    (messageProperties : NameMap Argument) (builderProcessor : BuilderProcessor) : Option BuilderProcessor :=
  match messageProperties.lookup key with
  | some argument => (convert argument).map fun value => andThen builderProcessor (property.set (some value))
  | none => some builderProcessor

def withText (key : String) (property : Property String) :
    NameMap Argument → BuilderProcessor → Option BuilderProcessor :=
  withProperty key (fun argument => some argument.toString) property

def headersOf (messageProperties : NameMap Argument) : NameMap FieldValue :=
  ((messageProperties.entries.filter fun entry => !isPropertyKey entry.1).map fun entry =>
    (⟨entry.1, FieldValue.ofArgument entry.2⟩ : Sigma fun _ : String => FieldValue)).toAList

/-- The headers are merged if there are already some. -/
def withHeaders (headers : NameMap FieldValue) : BuilderProcessor := fun builder =>
  match builder.headers with
  | some existingHeaders =>
    if existingHeaders.entries.isEmpty then { builder with headers := some headers }
    else { builder with headers := some (headers ∪ existingHeaders) }
  | none => { builder with headers := some headers }

/-- `toDate` is `Date.from(OffsetDateTime.parse(value).toInstant())`, with `none` for its exceptions. -/
def builderProcessorWithMessageProperties (toDate : String → Option ℤ) (messageProperties : NameMap Argument)
    (builderProcessor : BuilderProcessor) : Option BuilderProcessor := do
  let builderProcessor ← withText "contentType" .contentType messageProperties builderProcessor
  let builderProcessor ← withText "contentEncoding" .contentEncoding messageProperties builderProcessor
  let builderProcessor ← withProperty "deliveryMode" Argument.intValue .deliveryMode messageProperties builderProcessor
  let builderProcessor ← withProperty "priority" Argument.intValue .priority messageProperties builderProcessor
  let builderProcessor ← withText "correlationId" .correlationId messageProperties builderProcessor
  let builderProcessor ← withText "replyTo" .replyTo messageProperties builderProcessor
  let builderProcessor ← withText "expiration" .expiration messageProperties builderProcessor
  let builderProcessor ← withText "messageId" .messageId messageProperties builderProcessor
  let builderProcessor ← withProperty "timestamp" (fun argument => toDate argument.toString) .timestamp
    messageProperties builderProcessor
  let builderProcessor ← withText "type" .type messageProperties builderProcessor
  let builderProcessor ← withText "userId" .userId messageProperties builderProcessor
  let builderProcessor ← withText "appId" .appId messageProperties builderProcessor
  let builderProcessor ← withText "clusterId" .clusterId messageProperties builderProcessor
  let headers := headersOf messageProperties
  if headers.entries.isEmpty then some builderProcessor else some (andThen builderProcessor (withHeaders headers))

def propertiesBuilderProcessor (toDate : String → Option ℤ) (messageProperties : Option (NameMap Argument))
    (isTimestampInHeader : Bool) (currentTime : ℤ) : Option BuilderProcessor :=
  let builderProcessor : BuilderProcessor := fun builder =>
    if isTimestampInHeader then
      { builder with headers := some (AList.singleton timestampHeader (.long currentTime)) }
    else builder
  match messageProperties with
  | some messageProperties =>
    if messageProperties.entries.isEmpty then some builderProcessor
    else builderProcessorWithMessageProperties toDate messageProperties builderProcessor
  | none => some builderProcessor

def publish (persistent : Bool) (contentType : Option String) (builderProcessor : BuilderProcessor) :
    BasicProperties :=
  let builder := BasicProperties.empty
  let builder := if persistent then { builder with deliveryMode := some 2 } else builder
  let builder := match contentType with
    | some contentType => { builder with contentType := some contentType }
    | none => builder
  builderProcessor builder

end MessageProperties

end PerfTestModel

namespace PerfTestProof

open PerfTestModel PerfTestModel.MessageProperties

def documentedKeys : List String :=
  ["contentType", "contentEncoding", "deliveryMode", "priority", "correlationId", "replyTo", "expiration", "messageId",
    "timestamp", "type", "userId", "appId", "clusterId"]

section

variable (toDate : String → Option ℤ) (messageProperties : NameMap Argument)

def textOf (key : String) : Option String := (messageProperties.lookup key).map Argument.toString

def numberOf (key : String) : Option ℤ :=
  (messageProperties.lookup key).bind fun argument =>
    match argument with
    | .number value => some value
    | .text _ | .flag _ => none

def dateOf (key : String) : Option ℤ := (messageProperties.lookup key).bind fun argument => toDate argument.toString

def documentedProperties (persistent : Bool) (contentType : Option String) : BasicProperties where
  contentType := (textOf messageProperties "contentType").or contentType
  contentEncoding := textOf messageProperties "contentEncoding"
  headers := none
  deliveryMode := (numberOf messageProperties "deliveryMode").or (if persistent then some 2 else none)
  priority := numberOf messageProperties "priority"
  correlationId := textOf messageProperties "correlationId"
  replyTo := textOf messageProperties "replyTo"
  expiration := textOf messageProperties "expiration"
  messageId := textOf messageProperties "messageId"
  timestamp := dateOf toDate messageProperties "timestamp"
  type := textOf messageProperties "type"
  userId := textOf messageProperties "userId"
  appId := textOf messageProperties "appId"
  clusterId := textOf messageProperties "clusterId"

def documentedHeader (isTimestampInHeader : Bool) (currentTime : ℤ) (key : String) : Option FieldValue :=
  if isTimestampInHeader && key == "timestamp" then some (.long currentTime)
  else if key ∈ documentedKeys then none
  else (messageProperties.lookup key).map FieldValue.ofArgument

structure MapsProperties (persistent : Bool) (contentType : Option String) (isTimestampInHeader : Bool)
    (currentTime : ℤ) (published : BasicProperties) : Prop where
  properties : { published with headers := none } =
    documentedProperties toDate messageProperties persistent contentType
  headers : ∀ key, (published.headers.getD ∅).lookup key =
    documentedHeader messageProperties isTimestampInHeader currentTime key

structure Convertible : Prop where
  numbers : ∀ key ∈ ["deliveryMode", "priority"], ∀ argument ∈ messageProperties.lookup key,
    ∃ value, argument = .number value
  date : ∀ argument ∈ messageProperties.lookup "timestamp", (toDate argument.toString).isSome

end

section Steps

variable {Value : Type} {key : String} {convert : Argument → Option Value} {property : Property Value}
  {toDate : String → Option ℤ} {messageProperties : NameMap Argument} {builderProcessor : BuilderProcessor}

def overwrite (property : Property Value) (value : Option Value) : BuilderProcessor := fun builder =>
  property.set (value.or (property.get builder)) builder

theorem withProperty_eq (converts : ∀ argument ∈ messageProperties.lookup key, (convert argument).isSome) :
    withProperty key convert property messageProperties builderProcessor =
      some (andThen builderProcessor (overwrite property ((messageProperties.lookup key).bind convert))) := by
  unfold withProperty
  cases found : messageProperties.lookup key with
  | none =>
    refine congrArg some (funext fun builder => ?_)
    exact (property.set_get _).symm
  | some argument =>
    obtain ⟨value, converted⟩ := Option.isSome_iff_exists.mp (converts argument found)
    dsimp only
    rw [converted, Option.map_some, Option.bind_some, converted]
    rfl

theorem withText_eq {property : Property String} :
    withText key property messageProperties builderProcessor =
      some (andThen builderProcessor (overwrite property (textOf messageProperties key))) := by
  unfold withText textOf
  rw [withProperty_eq (fun _ _ => rfl)]
  cases messageProperties.lookup key <;> rfl

theorem withNumber_eq {property : Property ℤ}
    (number : ∀ argument ∈ messageProperties.lookup key, ∃ value, argument = .number value) :
    withProperty key Argument.intValue property messageProperties builderProcessor =
      some (andThen builderProcessor (overwrite property ((numberOf messageProperties key).map Java.int))) := by
  rw [withProperty_eq]
  · unfold numberOf
    cases found : messageProperties.lookup key with
    | none => rfl
    | some argument =>
      obtain ⟨value, rfl⟩ := number argument found
      rfl
  · intro argument found
    obtain ⟨value, rfl⟩ := number argument found
    rfl

def converted (toDate : String → Option ℤ) (messageProperties : NameMap Argument) : BuilderProcessor := fun builder =>
  { contentType := (textOf messageProperties "contentType").or builder.contentType
    contentEncoding := (textOf messageProperties "contentEncoding").or builder.contentEncoding
    headers := builder.headers
    deliveryMode := ((numberOf messageProperties "deliveryMode").map Java.int).or builder.deliveryMode
    priority := ((numberOf messageProperties "priority").map Java.int).or builder.priority
    correlationId := (textOf messageProperties "correlationId").or builder.correlationId
    replyTo := (textOf messageProperties "replyTo").or builder.replyTo
    expiration := (textOf messageProperties "expiration").or builder.expiration
    messageId := (textOf messageProperties "messageId").or builder.messageId
    timestamp := (dateOf toDate messageProperties "timestamp").or builder.timestamp
    type := (textOf messageProperties "type").or builder.type
    userId := (textOf messageProperties "userId").or builder.userId
    appId := (textOf messageProperties "appId").or builder.appId
    clusterId := (textOf messageProperties "clusterId").or builder.clusterId }

def withHeadersIfAny (headers : NameMap FieldValue) : BuilderProcessor := fun builder =>
  if headers.entries.isEmpty then builder else withHeaders headers builder

theorem builderProcessor_eq (convertible : Convertible toDate messageProperties) :
    builderProcessorWithMessageProperties toDate messageProperties builderProcessor =
      some fun builder => withHeadersIfAny (headersOf messageProperties)
        (converted toDate messageProperties (builderProcessor builder)) := by
  have deliveryMode := convertible.numbers "deliveryMode" List.mem_cons_self
  have priority := convertible.numbers "priority" (List.mem_cons_of_mem _ List.mem_cons_self)
  unfold builderProcessorWithMessageProperties
  simp only [withText_eq, withNumber_eq deliveryMode, withNumber_eq priority, withProperty_eq convertible.date,
    Option.bind_eq_bind, Option.bind_some]
  split
  · rename_i none
    refine congrArg some (funext fun builder => ?_)
    rw [withHeadersIfAny, if_pos none]
    rfl
  · rename_i some_
    refine congrArg some (funext fun builder => ?_)
    rw [withHeadersIfAny, if_neg some_]
    rfl

/-- A missing map, or an empty one, changes nothing. -/
theorem propertiesBuilderProcessor_eq {given : Option (NameMap Argument)}
    (convertible : Convertible toDate (given.getD ∅)) (isTimestampInHeader : Bool) (currentTime : ℤ) :
    propertiesBuilderProcessor toDate given isTimestampInHeader currentTime =
      some fun builder => withHeadersIfAny (headersOf (given.getD ∅)) (converted toDate (given.getD ∅)
        (if isTimestampInHeader then
          { builder with headers := some (AList.singleton timestampHeader (.long currentTime)) }
        else builder)) := by
  unfold propertiesBuilderProcessor
  cases given with
  | none => rfl
  | some messageProperties =>
    dsimp only [Option.getD_some] at convertible ⊢
    split
    · rename_i empty
      have none : messageProperties = ∅ := AList.ext (List.isEmpty_iff.mp empty)
      rw [none]
      rfl
    · exact builderProcessor_eq convertible

end Steps

section Headers

variable {headers : NameMap FieldValue} {messageProperties : NameMap Argument} {key : String}

theorem dlookup_filter_map (entries : List (Sigma fun _ : String => Argument)) (accepts : String → Bool) :
    ((entries.filter fun entry => accepts entry.1).map fun entry =>
        (⟨entry.1, FieldValue.ofArgument entry.2⟩ : Sigma fun _ : String => FieldValue)).dlookup key =
      if accepts key then (entries.dlookup key).map FieldValue.ofArgument else none := by
  induction entries with
  | nil => split <;> rfl
  | cons entry entries ih =>
    obtain ⟨own, argument⟩ := entry
    by_cases same : key = own
    · subst same
      by_cases accepted : accepts key = true
      · rw [List.filter_cons_of_pos (by exact accepted), List.map_cons, List.dlookup_cons_eq, List.dlookup_cons_eq,
          if_pos accepted]
        rfl
      · rw [List.filter_cons_of_neg (by exact accepted), ih, if_neg accepted, if_neg accepted]
    · rw [List.dlookup_cons_ne _ _ same, ← ih]
      by_cases accepted : accepts own = true
      · rw [List.filter_cons_of_pos (by exact accepted), List.map_cons]
        exact List.dlookup_cons_ne _ ⟨own, _⟩ same
      · rw [List.filter_cons_of_neg (by exact accepted)]

theorem lookup_headersOf :
    (headersOf messageProperties).lookup key =
      if isPropertyKey key then none else (messageProperties.lookup key).map FieldValue.ofArgument := by
  unfold headersOf
  rw [AList.lookup_to_alist, dlookup_filter_map messageProperties.entries fun key => !isPropertyKey key]
  cases isPropertyKey key <;> rfl

theorem lookup_withHeadersIfAny (builder : BasicProperties) :
    ((withHeadersIfAny headers builder).headers.getD ∅).lookup key =
      (headers.lookup key).or ((builder.headers.getD ∅).lookup key) := by
  unfold withHeadersIfAny
  split
  · rename_i none
    have empty : headers = ∅ := AList.ext (List.isEmpty_iff.mp none)
    rw [empty, AList.lookup_empty, Option.none_or]
  · unfold withHeaders
    cases builder.headers with
    | none => exact Option.or_none.symm
    | some existing =>
      dsimp only [Option.getD_some]
      split
      · rename_i none
        have empty : existing = ∅ := AList.ext (List.isEmpty_iff.mp none)
        rw [empty, AList.lookup_empty, Option.or_none]
        rfl
      · dsimp only [Option.getD_some]
        by_cases inside : key ∈ headers
        · obtain ⟨value, found⟩ := Option.isSome_iff_exists.mp (AList.lookup_isSome.mpr inside)
          rw [AList.lookup_union_left inside, found, Option.some_or]
        · rw [AList.lookup_union_right inside, AList.lookup_eq_none.mpr inside, Option.none_or]

/-- The list of the producer has one key more. -/
theorem isPropertyKey_iff : isPropertyKey key = true ↔ key ∈ documentedKeys ∨ key = "headers" := by
  have perm : messagePropertiesKeys.Perm (documentedKeys ++ ["headers"]) := by decide +kernel
  unfold isPropertyKey
  rw [List.contains_iff_mem, perm.mem_iff, List.mem_append, List.mem_singleton]

end Headers

section Published

variable (toDate : String → Option ℤ) (messageProperties : NameMap Argument) (persistent : Bool)
  (contentType : Option String) (isTimestampInHeader : Bool) (currentTime : ℤ)

def published : BasicProperties :=
  publish persistent contentType fun builder => withHeadersIfAny (headersOf messageProperties)
    (converted toDate messageProperties (if isTimestampInHeader then
      { builder with headers := some (AList.singleton timestampHeader (.long currentTime)) } else builder))

theorem published_properties :
    { published toDate messageProperties persistent contentType isTimestampInHeader currentTime with headers := none } =
      { documentedProperties toDate messageProperties persistent contentType with
        deliveryMode := ((numberOf messageProperties "deliveryMode").map Java.int).or
          (if persistent then some 2 else none)
        priority := (numberOf messageProperties "priority").map Java.int } := by
  have headersOnly : ∀ headers builder, { withHeadersIfAny headers builder with headers := none } =
      { builder with headers := none } := by
    intro headers builder
    unfold withHeadersIfAny withHeaders
    split
    · rfl
    · split
      · split <;> rfl
      · rfl
  unfold published publish
  dsimp only
  rw [headersOnly]
  unfold converted documentedProperties
  cases persistent <;> cases contentType <;> cases isTimestampInHeader <;>
    simp only [BasicProperties.empty, Option.or_none, Bool.false_eq_true, if_false, if_true]

theorem published_headers (key : String) :
    ((published toDate messageProperties persistent contentType isTimestampInHeader currentTime).headers.getD ∅).lookup
        key =
      ((headersOf messageProperties).lookup key).or
        (if isTimestampInHeader && key == "timestamp" then some (.long currentTime) else none) := by
  unfold published publish
  dsimp only
  rw [lookup_withHeadersIfAny]
  refine congrArg (Option.or _) ?_
  cases isTimestampInHeader with
  | false => cases persistent <;> cases contentType <;> rfl
  | true =>
    by_cases same : key = "timestamp"
    · subst same
      rfl
    · rw [Bool.true_and, beq_false_of_ne same, if_neg Bool.false_ne_true]
      exact AList.lookup_eq_none.mpr fun inside => same (List.mem_singleton.mp inside)

/-- The headers are the documented ones unless the map has the one key that the producer adds to the list. -/
theorem headers_documented_iff :
    (∀ key, ((published toDate messageProperties persistent contentType isTimestampInHeader
        currentTime).headers.getD ∅).lookup key =
      documentedHeader messageProperties isTimestampInHeader currentTime key) ↔ "headers" ∉ messageProperties := by
  have undocumented : "headers" ∉ documentedKeys := by decide
  have timestamp : isPropertyKey "timestamp" = true := by decide
  constructor
  · intro documented
    have own := documented "headers"
    rw [published_headers, lookup_headersOf, if_pos (isPropertyKey_iff.mpr (Or.inr rfl)), Option.none_or] at own
    unfold documentedHeader at own
    rw [show ("headers" == "timestamp") = false from rfl, Bool.and_false, if_neg Bool.false_ne_true,
      if_neg Bool.false_ne_true, if_neg undocumented] at own
    exact AList.lookup_eq_none.mp (Option.map_eq_none_iff.mp own.symm)
  · intro absent key
    rw [published_headers, lookup_headersOf]
    unfold documentedHeader
    by_cases sent : (isTimestampInHeader && key == "timestamp") = true
    · obtain rfl := eq_of_beq (Bool.and_eq_true_iff.mp sent).2
      rw [if_pos sent, if_pos sent, if_pos timestamp, Option.none_or]
    · rw [if_neg sent, if_neg sent, Option.or_none]
      by_cases headers : key = "headers"
      · rw [headers, if_neg undocumented, AList.lookup_eq_none.mpr absent]
        split <;> rfl
      · by_cases documented : key ∈ documentedKeys
        · rw [if_pos documented, if_pos (isPropertyKey_iff.mpr (Or.inl documented))]
        · rw [if_neg documented, if_neg]
          intro property
          exact (isPropertyKey_iff.mp property).elim documented headers

end Published

def FitsInt (messageProperties : NameMap Argument) (key : String) : Prop :=
  ∀ value ∈ numberOf messageProperties key, -2 ^ 31 ≤ value ∧ value < 2 ^ 31

theorem map_int_iff {messageProperties : NameMap Argument} {key : String} :
    (numberOf messageProperties key).map Java.int = numberOf messageProperties key ↔ FitsInt messageProperties key := by
  unfold FitsInt
  cases numberOf messageProperties key with
  | none => exact iff_of_true rfl (by rintro value ⟨⟩)
  | some value =>
    rw [Option.map_some, Option.some_inj, Java.int_eq_self]
    constructor
    · rintro fits _ ⟨⟩
      exact fits
    · exact fun fits => fits value rfl

theorem map_or_inj {number default : Option ℤ} :
    (number.map Java.int).or default = number.or default ↔ number.map Java.int = number := by
  cases number with
  | none => exact iff_of_true rfl rfl
  | some value => rw [Option.map_some, Option.some_or, Option.some_or]

/-- All entries of the map are in the messages exactly if none has the key "headers" and the numbers fit. -/
theorem properties_mapped_iff {toDate : String → Option ℤ} {messageProperties : Option (NameMap Argument)}
    (convertible : Convertible toDate (messageProperties.getD ∅)) (persistent : Bool) (contentType : Option String)
    (isTimestampInHeader : Bool) (currentTime : ℤ) :
    (∃ builderProcessor,
      propertiesBuilderProcessor toDate messageProperties isTimestampInHeader currentTime = some builderProcessor ∧
        MapsProperties toDate (messageProperties.getD ∅) persistent contentType isTimestampInHeader currentTime
          (publish persistent contentType builderProcessor)) ↔
      "headers" ∉ messageProperties.getD ∅ ∧ FitsInt (messageProperties.getD ∅) "deliveryMode" ∧
        FitsInt (messageProperties.getD ∅) "priority" := by
  have processor := propertiesBuilderProcessor_eq convertible isTimestampInHeader currentTime
  generalize messageProperties.getD ∅ = map at convertible processor ⊢
  have properties := published_properties toDate map persistent contentType isTimestampInHeader currentTime
  have headers := headers_documented_iff toDate map persistent contentType isTimestampInHeader currentTime
  constructor
  · rintro ⟨builderProcessor, made, maps⟩
    obtain rfl := Option.some.inj (processor.symm.trans made)
    have same := properties.symm.trans maps.properties
    have deliveryMode := congrArg BasicProperties.deliveryMode same
    have priority := congrArg BasicProperties.priority same
    exact ⟨headers.mp maps.headers, map_int_iff.mp (map_or_inj.mp deliveryMode), map_int_iff.mp priority⟩
  · rintro ⟨absent, deliveryMode, priority⟩
    refine ⟨_, processor, ?_, headers.mpr absent⟩
    rw [map_int_iff.mpr deliveryMode, map_int_iff.mpr priority] at properties
    exact properties

def documentedEntries : NameMap Argument :=
  (AList.singleton "priority" (.number 5)).insert "timestamp" (.text "2007-12-03T10:15:30+01:00") |>.insert
    "header1" (.text "value1")

def documentedDate (value : String) : Option ℤ :=
  if value = "2007-12-03T10:15:30+01:00" then some 1196673330000 else none

theorem documented_entries_mapped : ∃ builderProcessor,
    propertiesBuilderProcessor documentedDate (some documentedEntries) true 12 = some builderProcessor ∧
      MapsProperties documentedDate documentedEntries true (some "application/json") true 12
        (publish true (some "application/json") builderProcessor) := by
  have convertible : Convertible documentedDate ((some documentedEntries).getD ∅) := by
    refine ⟨List.forall_mem_cons.mpr ⟨?_, List.forall_mem_singleton.mpr ?_⟩, by decide +kernel⟩
    · rintro argument ⟨⟩
    · rintro argument ⟨⟩
      exact ⟨5, rfl⟩
  refine (properties_mapped_iff convertible true (some "application/json") true 12).mpr ⟨by decide +kernel, ?_, ?_⟩
  · rintro value ⟨⟩
  · rintro value ⟨⟩
    decide

/-- An entry with the key "headers" is neither a property nor a header. -/
theorem headers_entry_dropped : ∃ builderProcessor,
    propertiesBuilderProcessor documentedDate (some (AList.singleton "headers" (.text "gold"))) false 0 =
        some builderProcessor ∧
      publish false none builderProcessor = BasicProperties.empty ∧
      ¬ MapsProperties documentedDate (AList.singleton "headers" (.text "gold")) false none false 0
        (publish false none builderProcessor) := by
  refine ⟨_, rfl, rfl, ?_⟩
  intro maps
  have dropped := maps.headers "headers"
  revert dropped
  decide +kernel

end PerfTestProof
