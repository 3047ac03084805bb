import Mathlib.Data.List.Induction
import PerfTest.Java.DataStreams
import PerfTest.Messages.Properties
import PerfTest.Producer.Timestamps

namespace PerfTestModel

open Java

inductive SizeIndicator
  | fixedValue (value : ℕ)
  | variableValue (values : List ℕ)
  deriving DecidableEq, Repr

def SizeIndicator.values : SizeIndicator → List ℕ
  | .fixedValue value => [value]
  | .variableValue values => values

inductive MessageBody
  | message (index : ℕ)
  | header (bytes : List Byte)
  deriving DecidableEq, Repr

structure MessageEnvelope where
  body : MessageBody
  contentType : Option String
  time : BitVec 64
  deriving DecidableEq, Repr

structure TimeSequenceMessageBodySource where
  sizeIndicator : SizeIndicator
  messages : List (List Byte)
  deriving DecidableEq, Repr

namespace TimeSequenceMessageBodySource

def new (sizeIndicator : SizeIndicator) : TimeSequenceMessageBodySource :=
  ⟨sizeIndicator, sizeIndicator.values.map fun size => List.replicate size 0⟩

/-- The first array of the current size; without one the message is EMPTY. -/
def messageFor (size : ℕ) (source : TimeSequenceMessageBodySource) : Option ℕ :=
  match source.sizeIndicator with
  | .fixedValue _ => some 0
  | .variableValue _ => source.messages.findIdx? fun message => message.length == size

def doCreate (timestamp : BitVec 64) (sequenceNumber : BitVec 32) : List Byte :=
  writeInt sequenceNumber ++ writeLong timestamp

/-- `size` is the value of the indicator by then. -/
def create (size : ℕ) (time : BitVec 64) (sequenceNumber : BitVec 32) (source : TimeSequenceMessageBodySource) :
    MessageEnvelope × TimeSequenceMessageBodySource :=
  let m := doCreate time sequenceNumber
  match source.messageFor size with
  | some index =>
    let message := source.messages.getD index []
    if m.length ≤ message.length then
      (⟨.message index, none, time⟩,
        { source with messages := source.messages.set index (m ++ message.drop m.length) })
    else (⟨.header m, none, time⟩, source)
  | none => (⟨.header m, none, time⟩, source)

def read (source : TimeSequenceMessageBodySource) : MessageBody → List Byte
  | .message index => source.messages.getD index []
  | .header bytes => bytes

def created (sizeIndicator : SizeIndicator) (calls : List (ℕ × BitVec 64 × BitVec 32)) :
    TimeSequenceMessageBodySource :=
  calls.foldl (fun source call => (source.create call.1 call.2.1 call.2.2).2) (new sizeIndicator)

end TimeSequenceMessageBodySource

inductive ExtractionException
  | nullPointer
  | classCast
  deriving DecidableEq, Repr

def timestampExtractor (isTimestampInHeader : Bool) (properties : BasicProperties) (body : List Byte) :
    Except ExtractionException ℤ :=
  if isTimestampInHeader then
    match properties.headers with
    | none => .error .nullPointer
    | some headers =>
      match headers.lookup MessageProperties.timestampHeader with
      | none | some .null => .ok TimestampProvider.incorrectValue
      | some (.long timestamp) => .ok timestamp
      | some (.text _) | some (.flag _) | some (.other _) => .error .classCast
  else
    match readInt body with
    | none => .ok TimestampProvider.incorrectValue
    | some (_, rest) =>
      match readLong rest with
      | none => .ok TimestampProvider.incorrectValue
      | some (timestamp, _) => .ok timestamp.toInt

namespace DefaultFunctionalLogger

def label (name : String) (value : Option String) : Option String := value.map fun value => name ++ " = " ++ value

def isStringContentType (properties : Option BasicProperties) : Bool :=
  match properties.bind BasicProperties.contentType with
  | none => false
  | some contentType =>
    ["text/", "application/javascript", "application/xhtml", "application/json", "application/ld+json",
      "application/xml"].any fun start => start.toList.isPrefixOf contentType.toLower.toList

section

-- the texts of dates, of the other values and of arrays are those of the class library
variable (dateText : ℤ → String) (otherText : FieldClass → String) (toUtf8String : List Byte → String)

def valueText : FieldValue → String
  | .null => "null"
  | .text value => value
  | .flag value => toString value
  | .long value => toString value
  | .other class_ => otherText class_

def headersLabel : Option (NameMap FieldValue) → Option String
  | none => none
  | some headers =>
    some ("headers = \x7b" ++ String.intercalate ", "
      (headers.entries.map fun entry => entry.1 ++ " = " ++ valueText otherText entry.2) ++ "\x7d")

def labels (properties : BasicProperties) : List (Option String) :=
  [label "content-type" properties.contentType,
    label "content-encoding" properties.contentEncoding,
    headersLabel otherText properties.headers,
    label "delivery-mode" (properties.deliveryMode.map toString),
    label "priority" (properties.priority.map toString),
    label "correlation-id" properties.correlationId,
    label "reply-to" properties.replyTo,
    label "expiration" properties.expiration,
    label "message-id" properties.messageId,
    label "timestamp" (properties.timestamp.map dateText),
    label "type" properties.type,
    label "user-id" properties.userId,
    label "app-id" properties.appId,
    label "cluster-id" properties.clusterId]

def propertiesString : Option BasicProperties → String
  | none => "properties = \x7b\x7d"
  | some properties =>
    "properties = \x7b" ++ String.intercalate ", " ((labels dateText otherText properties).filterMap id) ++ "\x7d"

def sequenceString (timestamp : ℤ) (body : List Byte) : Option String := do
  let (sequence, rest) ← readInt body
  let (bodyTimestamp, _) ← readLong rest
  if timestamp ≠ TimestampProvider.incorrectValue ∧ timestamp = bodyTimestamp.toInt then
    some ("body = [sequence = " ++ toString sequence.toInt ++ ", timestamp = " ++ toString timestamp ++ "]")
  else none

def bodyString (timestamp : ℤ) (properties : Option BasicProperties) : Option (List Byte) → String
  | none => "body = null"
  | some body =>
    if isStringContentType properties then "body = " ++ toUtf8String body
    else
      let decoded := if 12 ≤ body.length then sequenceString timestamp body else none
      decoded.getD ("body = " ++ toUtf8String body)

def details (timestamp : ℤ) (properties : Option BasicProperties) (body : Option (List Byte)) : String :=
  propertiesString dateText otherText properties ++ ", " ++ bodyString toUtf8String timestamp properties body

end

end DefaultFunctionalLogger

end PerfTestModel

namespace PerfTestProof

open PerfTestModel TimeSequenceMessageBodySource DefaultFunctionalLogger Java

section Reading

variable (time : BitVec 64) (sequenceNumber : BitVec 32)

theorem length_doCreate : (doCreate time sequenceNumber).length = 12 := by
  unfold doCreate
  rw [List.length_append, writeInt, writeLong, length_writeWord, length_writeWord]

variable {time sequenceNumber}

/-- Both readers see the header only, whatever bytes follow it. -/
theorem extractor_doCreate (properties : BasicProperties) (rest : List Byte) :
    timestampExtractor false properties (doCreate time sequenceNumber ++ rest) = .ok time.toInt := by
  unfold timestampExtractor doCreate
  rw [if_neg Bool.false_ne_true, List.append_assoc, readInt_writeInt]
  dsimp only
  rw [readLong_writeLong]

theorem sequenceString_doCreate (usable : time.toInt ≠ TimestampProvider.incorrectValue) (rest : List Byte) :
    sequenceString time.toInt (doCreate time sequenceNumber ++ rest) =
      some ("body = [sequence = " ++ toString sequenceNumber.toInt ++ ", timestamp = " ++ toString time.toInt ++
        "]") := by
  unfold sequenceString doCreate
  rw [List.append_assoc, readInt_writeInt]
  simp only [Option.bind_eq_bind, Option.bind_some]
  rw [readLong_writeLong]
  simp only [Option.bind_some]
  exact if_pos ⟨usable, trivial⟩

end Reading

structure SizesKept (sizeIndicator : SizeIndicator) (source : TimeSequenceMessageBodySource) : Prop where
  indicator : source.sizeIndicator = sizeIndicator
  lengths : source.messages.map List.length = sizeIndicator.values

namespace SizesKept

variable {sizeIndicator : SizeIndicator} {source : TimeSequenceMessageBodySource}

theorem new (sizeIndicator : SizeIndicator) : SizesKept sizeIndicator (.new sizeIndicator) := by
  refine ⟨rfl, ?_⟩
  unfold TimeSequenceMessageBodySource.new
  rw [List.map_map]
  exact List.map_id'' (fun size => List.length_replicate) _

theorem overwritten {m message : List Byte} (fits : m.length ≤ message.length) :
    (m ++ message.drop m.length).length = message.length := by
  rw [List.length_append, List.length_drop]
  omega

theorem create (kept : SizesKept sizeIndicator source) (size : ℕ) (time : BitVec 64) (sequenceNumber : BitVec 32) :
    SizesKept sizeIndicator (source.create size time sequenceNumber).2 := by
  unfold TimeSequenceMessageBodySource.create
  dsimp only
  split
  · rename_i index _
    split
    · rename_i fits
      refine ⟨kept.indicator, ?_⟩
      dsimp only
      rw [← kept.lengths, List.map_set, overwritten fits]
      refine List.ext_getElem? fun other => ?_
      by_cases same : index = other
      · subst same
        rw [List.getElem?_set_self', List.getElem?_map]
        cases found : source.messages[index]? with
        | none => rfl
        | some message => rw [List.getD_eq_getElem?_getD, found]; rfl
      · rw [List.getElem?_set_ne same]
    · exact kept
  · exact kept

theorem created (sizeIndicator : SizeIndicator) (calls : List (ℕ × BitVec 64 × BitVec 32)) :
    SizesKept sizeIndicator (.created sizeIndicator calls) := by
  unfold TimeSequenceMessageBodySource.created
  induction calls using List.reverseRecOn with
  | nil => exact .new sizeIndicator
  | append_singleton calls call ih =>
    rw [List.foldl_concat]
    exact ih.create _ _ _

theorem messageFor (kept : SizesKept sizeIndicator source) {size : ℕ} (current : size ∈ sizeIndicator.values) :
    ∃ index message, source.messageFor size = some index ∧ source.messages[index]? = some message ∧
      message.length = size := by
  have inside : size ∈ source.messages.map List.length := kept.lengths ▸ current
  obtain ⟨message, member, own⟩ := List.mem_map.mp inside
  have lengths := kept.lengths
  unfold TimeSequenceMessageBodySource.messageFor
  rw [kept.indicator]
  cases sizeIndicator with
  | fixedValue value =>
    obtain ⟨only, messages⟩ := List.length_eq_one_iff.mp ((List.length_map _).symm.trans (congrArg List.length lengths))
    rw [messages, List.mem_singleton] at member
    subst member
    exact ⟨0, message, rfl, by rw [messages]; rfl, own⟩
  | variableValue values =>
    have some_ : source.messages.any (fun message => message.length == size) = true :=
      List.any_eq_true.mpr ⟨message, member, by simp only [own, beq_self_eq_true]⟩
    obtain ⟨index, found⟩ := Option.isSome_iff_exists.mp (List.findIdx?_isSome.trans some_)
    obtain ⟨bound, accepted, -⟩ := List.findIdx?_eq_some_iff_getElem.mp found
    exact ⟨index, source.messages[index], found, List.getElem?_eq_getElem bound, beq_iff_eq.mp accepted⟩

end SizesKept

structure ReadsBack (size : ℕ) (time : BitVec 64) (sequenceNumber : BitVec 32) (body : List Byte) : Prop where
  length : body.length = max size 12
  extracted : ∀ properties, timestampExtractor false properties body = .ok time.toInt
  logged : ∀ dateText otherText toUtf8String properties, time.toInt ≠ TimestampProvider.incorrectValue →
    isStringContentType properties = false →
      details dateText otherText toUtf8String time.toInt properties (some body) =
        propertiesString dateText otherText properties ++ ", " ++ ("body = [sequence = " ++
          toString sequenceNumber.toInt ++ ", timestamp = " ++ toString time.toInt ++ "]")

theorem ReadsBack.doCreate {size : ℕ} {time : BitVec 64} {sequenceNumber : BitVec 32} (rest : List Byte)
    (length : 12 + rest.length = max size 12) :
    ReadsBack size time sequenceNumber (doCreate time sequenceNumber ++ rest) := by
  have whole : (TimeSequenceMessageBodySource.doCreate time sequenceNumber ++ rest).length = 12 + rest.length := by
    rw [List.length_append, length_doCreate]
  refine ⟨whole.trans length, fun properties => extractor_doCreate properties rest, ?_⟩
  intro dateText otherText toUtf8String properties usable binary
  unfold details bodyString
  dsimp only
  rw [binary, if_neg Bool.false_ne_true, if_pos (by omega), sequenceString_doCreate usable]
  rfl

theorem timestampExtractor_body (properties : BasicProperties) (body : List Byte) :
    timestampExtractor false properties body =
      .ok (if body.length < 12 then TimestampProvider.incorrectValue
        else (BitVec.ofNat 64 (ofBigEndian ((body.drop 4).take 8))).toInt) := by
  unfold timestampExtractor readInt readLong readWord
  rw [if_neg Bool.false_ne_true]
  by_cases int : 4 ≤ body.length
  · rw [if_pos int]
    dsimp only
    by_cases long : 8 ≤ (body.drop 4).length
    · rw [if_pos long, if_neg (by rw [List.length_drop] at long; omega)]
    · rw [if_neg long, if_pos (by rw [List.length_drop] at long; omega)]
  · rw [if_neg int, if_pos (by omega)]

def madeBody (sizeIndicator : SizeIndicator) (calls : List (ℕ × BitVec 64 × BitVec 32)) (size : ℕ) (time : BitVec 64)
    (sequenceNumber : BitVec 32) : List Byte :=
  let made := (created sizeIndicator calls).create size time sequenceNumber
  made.2.read made.1.body

/-- The body of each message is read back, whatever was made before, and any other one yields the long at offset 4. -/
theorem body_round_trip (sizeIndicator : SizeIndicator) (calls : List (ℕ × BitVec 64 × BitVec 32)) {size : ℕ}
    (current : size ∈ sizeIndicator.values) (time : BitVec 64) (sequenceNumber : BitVec 32) :
    ReadsBack size time sequenceNumber (madeBody sizeIndicator calls size time sequenceNumber) ∧
      ∀ properties body, timestampExtractor false properties body =
        .ok (if body.length < 12 then TimestampProvider.incorrectValue
          else (BitVec.ofNat 64 (ofBigEndian ((body.drop 4).take 8))).toInt) := by
  refine ⟨?_, timestampExtractor_body⟩
  have kept := SizesKept.created sizeIndicator calls
  unfold madeBody
  generalize created sizeIndicator calls = source at kept ⊢
  obtain ⟨index, message, chosen, found, rfl⟩ := kept.messageFor current
  have header := length_doCreate time sequenceNumber
  have bound : index < source.messages.length := (List.getElem?_eq_some_iff.mp found).1
  unfold TimeSequenceMessageBodySource.create
  dsimp only
  rw [chosen]
  dsimp only
  rw [List.getD_eq_getElem?_getD, found, Option.getD_some, header]
  split
  · rename_i fits
    unfold TimeSequenceMessageBodySource.read
    dsimp only
    rw [List.getD_eq_getElem?_getD, List.getElem?_set_self bound, Option.getD_some]
    refine .doCreate _ ?_
    rw [List.length_drop]
    omega
  · rename_i short
    have own : ReadsBack message.length time sequenceNumber (doCreate time sequenceNumber ++ []) :=
      .doCreate [] (by rw [List.length_nil]; omega)
    rw [List.append_nil] at own
    exact own

/-- A message of size 3 is only the header, although the array of 20 bytes was filled before. -/
theorem variable_sizes_read_back :
    ReadsBack 3 7 2 (madeBody (.variableValue [3, 20, 20]) [(20, 5, 0), (3, 6, 1)] 3 7 2) ∧
      ∀ properties body, timestampExtractor false properties body =
        .ok (if body.length < 12 then TimestampProvider.incorrectValue
          else (BitVec.ofNat 64 (ofBigEndian ((body.drop 4).take 8))).toInt) :=
  body_round_trip (.variableValue [3, 20, 20]) [(20, 5, 0), (3, 6, 1)] (by decide) 7 2

end PerfTestProof
