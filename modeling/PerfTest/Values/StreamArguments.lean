import PerfTest.Values.ByteCapacity
import PerfTest.Values.KeyValuePairs

open Java (RuntimeException)
open Systems (LinkedMap)

namespace PerfTestModel

structure QueueOptions where
  queueArgs : List String
  quorumQueue : Bool
  streamQueue : Bool
  maxLengthBytes : Option String
  streamMaxSegmentSize : Option String
  maxAge : Option String
  queueLeaderLocator : Option String

structure QueueLocals where
  queueArguments : LinkedMap String Argument
  maxLengthByteCapacity : Option ByteCapacity
  streamMaxSegmentByteCapacity : Option ByteCapacity
  exit : Bool

namespace QueueLocals

def validate (condition : Bool) (locals : QueueLocals) : QueueLocals :=
  { locals with exit := locals.exit || !condition }

def put (key : String) (value : Argument) (locals : QueueLocals) : QueueLocals :=
  { locals with queueArguments := locals.queueArguments.put key value }

/-- The capacity of 20 GB is one of a factory method without the text. -/
def putStreamDefaults (options : QueueOptions) (locals : QueueLocals) : QueueLocals :=
  let typed := if options.quorumQueue || options.streamQueue then
    locals.put "x-queue-type" (.text (if options.quorumQueue then "quorum" else "stream")) else locals
  if options.streamQueue then
    let maxLengthByteCapacity := ByteCapacity.B (Java.long (20 * ByteCapacity.GIGABYTES_MULTIPLIER))
    let segment := ByteCapacity.MB 500 "500mb"
    { (typed.put "x-max-length-bytes" (.number maxLengthByteCapacity.toBytes)).put
        "x-stream-max-segment-size-bytes" (.number segment.toBytes) with
      maxLengthByteCapacity := some maxLengthByteCapacity }
  else typed

/-- A capacity that is none to `ByteCapacity.from` requests the exit, and the code goes on with null. -/
def validateByteCapacity (value : String) : Option ByteCapacity := (ByteCapacity.from value).toOption

def putMaxLength (options : QueueOptions) (locals : QueueLocals) : QueueLocals :=
  match options.maxLengthBytes with
  | none => locals
  | some maxLengthBytes =>
    match validateByteCapacity maxLengthBytes with
    | none => locals.validate false
    | some byteCapacity =>
      if byteCapacity.toBytes = 0 then
        { locals with
          queueArguments := locals.queueArguments.remove "x-max-length-bytes"
          maxLengthByteCapacity := none }
      else
        { locals.put "x-max-length-bytes" (.number byteCapacity.toBytes) with
          maxLengthByteCapacity := some byteCapacity }

def putSegmentSize (options : QueueOptions) (locals : QueueLocals) : QueueLocals :=
  match options.streamMaxSegmentSize with
  | none => locals
  | some streamMaxSegmentSize =>
    match validateByteCapacity streamMaxSegmentSize with
    | none => locals.validate false
    | some byteCapacity =>
      let limit := ByteCapacity.B (Java.long (3 * ByteCapacity.GIGABYTES_MULTIPLIER))
      { (locals.validate (byteCapacity.compareTo limit ≤ 0)).put "x-stream-max-segment-size-bytes"
          (.number byteCapacity.toBytes) with
        streamMaxSegmentByteCapacity := some byteCapacity }

def putMaxAge (validateDuration : String → Option ℤ) (options : QueueOptions) (locals : QueueLocals) :
    QueueLocals :=
  match options.maxAge with
  | none => locals
  | some maxAge =>
    match validateDuration maxAge with
    | none => locals.validate false
    | some seconds => locals.put "x-max-age" (.text (toString seconds ++ "s"))

def putLeaderLocator (options : QueueOptions) (locals : QueueLocals) : QueueLocals :=
  match options.queueLeaderLocator with
  | none => locals
  | some queueLeaderLocator =>
    (locals.validate (queueLeaderLocator = "client-local" || queueLeaderLocator = "balanced")).put
      "x-queue-leader-locator" (.text queueLeaderLocator)

def checkSizes (locals : QueueLocals) : QueueLocals :=
  match locals.maxLengthByteCapacity, locals.streamMaxSegmentByteCapacity with
  | some maxLengthByteCapacity, some streamMaxSegmentByteCapacity =>
    locals.validate (0 < maxLengthByteCapacity.compareTo streamMaxSegmentByteCapacity)
  | _, _ => locals

end QueueLocals

def multicastParams (validateDuration : String → Option ℤ) (options : QueueOptions) :
    Except RuntimeException QueueLocals := do
  let queueArguments ← convertListOfKeyValuePairs options.queueArgs
  let locals : QueueLocals := ⟨queueArguments, none, none, false⟩
  .ok ((locals.validate !(options.quorumQueue && options.streamQueue)).putStreamDefaults options
    |>.putMaxLength options |>.putSegmentSize options |>.putMaxAge validateDuration options
    |>.putLeaderLocator options |>.checkSizes)

end PerfTestModel

namespace PerfTestProof

open PerfTestModel PerfTestModel.QueueLocals

variable {locals : QueueLocals} {options : QueueOptions} {default_ : Option Argument}

structure Shadowed (default_ : Option Argument) (locals : QueueLocals) : Prop where
  maxLength : locals.queueArguments.get? "x-max-length-bytes" =
    locals.maxLengthByteCapacity.map fun capacity => .number capacity.toBytes
  segment : locals.queueArguments.get? "x-stream-max-segment-size-bytes" =
    (locals.streamMaxSegmentByteCapacity.map fun capacity => .number capacity.toBytes).or default_

section Shadows

theorem validated (condition : Bool) (shadowed : Shadowed default_ locals) :
    Shadowed default_ (locals.validate condition) :=
  ⟨shadowed.maxLength, shadowed.segment⟩

theorem put_other {key : String} (value : Argument) (notLength : key ≠ "x-max-length-bytes")
    (notSegment : key ≠ "x-stream-max-segment-size-bytes") (shadowed : Shadowed default_ locals) :
    Shadowed default_ (locals.put key value) := by
  constructor
  · exact (LinkedMap.get?_put_of_ne notLength.symm).trans shadowed.maxLength
  · exact (LinkedMap.get?_put_of_ne notSegment.symm).trans shadowed.segment

variable (options)

theorem shadowed_maxLength (shadowed : Shadowed default_ locals) : Shadowed default_ (locals.putMaxLength options) := by
  unfold putMaxLength
  split
  · exact shadowed
  split
  · exact validated false shadowed
  split
  · constructor
    · exact LinkedMap.get?_remove_self _ _
    · exact (LinkedMap.get?_remove_of_ne (by decide)).trans shadowed.segment
  · constructor
    · exact LinkedMap.get?_put_self _ _ _
    · exact (LinkedMap.get?_put_of_ne (by decide)).trans shadowed.segment

theorem shadowed_segment (shadowed : Shadowed default_ locals) : Shadowed default_ (locals.putSegmentSize options) := by
  unfold putSegmentSize
  split
  · exact shadowed
  split
  · exact validated false shadowed
  · constructor
    · exact (LinkedMap.get?_put_of_ne (by decide)).trans shadowed.maxLength
    · exact LinkedMap.get?_put_self _ _ _

theorem shadowed_maxAge (validateDuration : String → Option ℤ) (shadowed : Shadowed default_ locals) :
    Shadowed default_ (locals.putMaxAge validateDuration options) := by
  unfold putMaxAge
  split
  · exact shadowed
  split
  · exact validated false shadowed
  · exact put_other _ (by decide) (by decide) shadowed

theorem shadowed_leader (shadowed : Shadowed default_ locals) :
    Shadowed default_ (locals.putLeaderLocator options) := by
  unfold putLeaderLocator
  split
  · exact shadowed
  · exact put_other _ (by decide) (by decide) (validated _ shadowed)

theorem shadowed_check (shadowed : Shadowed default_ locals) : Shadowed default_ locals.checkSizes := by
  unfold checkSizes
  split
  · exact validated _ shadowed
  · exact shadowed

def streamDefault : Option Argument :=
  if options.streamQueue then some (.number 500000000) else none

theorem shadowed_defaults (fresh : Shadowed none locals) (noSegment : locals.streamMaxSegmentByteCapacity = none) :
    Shadowed (streamDefault options) (locals.putStreamDefaults options) := by
  have typed : Shadowed none (if options.quorumQueue || options.streamQueue then
      locals.put "x-queue-type" (.text (if options.quorumQueue then "quorum" else "stream")) else locals) := by
    split
    · exact put_other _ (by decide) (by decide) fresh
    · exact fresh
  unfold putStreamDefaults streamDefault
  by_cases stream : options.streamQueue = true
  · rw [if_pos stream, if_pos stream]
    constructor
    · exact (LinkedMap.get?_put_of_ne (by decide)).trans (LinkedMap.get?_put_self _ _ _)
    · have unset : (if options.quorumQueue || options.streamQueue then
          locals.put "x-queue-type" (.text (if options.quorumQueue then "quorum" else "stream"))
          else locals).streamMaxSegmentByteCapacity = none := by
        split
        · exact noSegment
        · exact noSegment
      refine (LinkedMap.get?_put_self _ _ _).trans ?_
      show _ = (Option.map _ (QueueLocals.streamMaxSegmentByteCapacity (ite _ _ _))).or _
      rw [unset]
      rfl
  · rw [if_neg stream, if_neg stream]
    exact typed

end Shadows

section Accepted

def SameShadows (locals after : QueueLocals) : Prop :=
  after.maxLengthByteCapacity = locals.maxLengthByteCapacity ∧
    after.streamMaxSegmentByteCapacity = locals.streamMaxSegmentByteCapacity

theorem validate_accepted {condition : Bool} (accepted : (locals.validate condition).exit = false) :
    locals.exit = false ∧ condition = true := by
  obtain ⟨before, holds⟩ := Bool.or_eq_false_iff.mp accepted
  exact ⟨before, by simpa using holds⟩

theorem capacity_given {text : String} {capacity : ByteCapacity} (given : validateByteCapacity text = some capacity) :
    ByteCapacity.from text = .ok capacity := by
  unfold validateByteCapacity at given
  cases parsed : ByteCapacity.from text with
  | error exception =>
    rw [parsed] at given
    cases given
  | ok result =>
    rw [parsed] at given
    exact congrArg Except.ok (Option.some.inj given)

theorem maxLength_accepted (accepted : (locals.putMaxLength options).exit = false) :
    locals.exit = false ∧
      (locals.putMaxLength options).streamMaxSegmentByteCapacity = locals.streamMaxSegmentByteCapacity ∧
      (options.maxLengthBytes = none ∧
          (locals.putMaxLength options).maxLengthByteCapacity = locals.maxLengthByteCapacity ∨
        ∃ text capacity, options.maxLengthBytes = some text ∧ ByteCapacity.from text = .ok capacity ∧
          (locals.putMaxLength options).maxLengthByteCapacity =
            if capacity.toBytes = 0 then none else some capacity) := by
  revert accepted
  unfold putMaxLength
  cases options.maxLengthBytes with
  | none => exact fun accepted => ⟨accepted, rfl, Or.inl ⟨rfl, rfl⟩⟩
  | some text =>
    dsimp only
    cases given : validateByteCapacity text with
    | none =>
      intro accepted
      cases (validate_accepted accepted).2
    | some capacity =>
      dsimp only
      by_cases zero : capacity.toBytes = 0
      · rw [if_pos zero]
        exact fun accepted => ⟨accepted, rfl, Or.inr ⟨text, capacity, rfl, capacity_given given, (if_pos zero).symm⟩⟩
      · rw [if_neg zero]
        exact fun accepted => ⟨accepted, rfl, Or.inr ⟨text, capacity, rfl, capacity_given given, (if_neg zero).symm⟩⟩

theorem segment_accepted (accepted : (locals.putSegmentSize options).exit = false) :
    locals.exit = false ∧ (locals.putSegmentSize options).maxLengthByteCapacity = locals.maxLengthByteCapacity ∧
      (options.streamMaxSegmentSize = none ∧
          (locals.putSegmentSize options).streamMaxSegmentByteCapacity = locals.streamMaxSegmentByteCapacity ∨
        options.streamMaxSegmentSize ≠ none ∧
          ∃ capacity, (locals.putSegmentSize options).streamMaxSegmentByteCapacity = some capacity) := by
  revert accepted
  unfold putSegmentSize
  cases options.streamMaxSegmentSize with
  | none => exact fun accepted => ⟨accepted, rfl, Or.inl ⟨rfl, rfl⟩⟩
  | some text =>
    dsimp only
    cases given : validateByteCapacity text with
    | none =>
      intro accepted
      cases (validate_accepted accepted).2
    | some capacity =>
      exact fun accepted =>
        ⟨(validate_accepted accepted).1, rfl, Or.inr ⟨Option.some_ne_none text, capacity, rfl⟩⟩

theorem maxAge_accepted {validateDuration : String → Option ℤ}
    (accepted : (locals.putMaxAge validateDuration options).exit = false) :
    locals.exit = false ∧ SameShadows locals (locals.putMaxAge validateDuration options) := by
  revert accepted
  unfold putMaxAge
  cases options.maxAge with
  | none => exact fun accepted => ⟨accepted, rfl, rfl⟩
  | some text =>
    dsimp only
    cases validateDuration text with
    | none => exact fun accepted => ⟨(validate_accepted accepted).1, rfl, rfl⟩
    | some seconds => exact fun accepted => ⟨accepted, rfl, rfl⟩

theorem leader_accepted (accepted : (locals.putLeaderLocator options).exit = false) :
    locals.exit = false ∧ SameShadows locals (locals.putLeaderLocator options) := by
  revert accepted
  unfold putLeaderLocator
  cases options.queueLeaderLocator with
  | none => exact fun accepted => ⟨accepted, rfl, rfl⟩
  | some locator => exact fun accepted => ⟨(validate_accepted accepted).1, rfl, rfl⟩

theorem check_accepted (accepted : locals.checkSizes.exit = false) :
    locals.exit = false ∧ SameShadows locals locals.checkSizes ∧
      ∀ maxLength segment, locals.maxLengthByteCapacity = some maxLength →
        locals.streamMaxSegmentByteCapacity = some segment → segment.toBytes < maxLength.toBytes := by
  revert accepted
  unfold checkSizes
  cases locals.maxLengthByteCapacity with
  | none => exact fun accepted => ⟨accepted, ⟨rfl, rfl⟩, fun _ _ none => by cases none⟩
  | some maxLength =>
    cases locals.streamMaxSegmentByteCapacity with
    | none => exact fun accepted => ⟨accepted, ⟨rfl, rfl⟩, fun _ _ _ none => by cases none⟩
    | some segment =>
      intro accepted
      obtain ⟨before, greater⟩ := validate_accepted accepted
      refine ⟨before, ⟨rfl, rfl⟩, ?_⟩
      rintro _ _ ⟨⟩ ⟨⟩
      have positive : 0 < maxLength.compareTo segment := of_decide_eq_true greater
      unfold ByteCapacity.compareTo at positive
      unfold ByteCapacity.toBytes
      split_ifs at positive <;> omega

end Accepted

section Sizes

def Consistent (queueArguments : LinkedMap String Argument) : Prop :=
  ∀ maxLength segment, queueArguments.get? "x-max-length-bytes" = some maxLength →
    queueArguments.get? "x-stream-max-segment-size-bytes" = some segment →
      ∃ length size, maxLength = .number length ∧ segment = .number size ∧ size < length

def BelowDefaultSegment (options : QueueOptions) : Prop :=
  options.streamQueue = true ∧ options.streamMaxSegmentSize = none ∧
    ∃ text capacity, options.maxLengthBytes = some text ∧ ByteCapacity.from text = .ok capacity ∧
      capacity.toBytes ≠ 0 ∧ capacity.toBytes ≤ 500000000

theorem consistent_shadows (shadowed : Shadowed default_ locals) {segment : ByteCapacity}
    (given : locals.streamMaxSegmentByteCapacity = some segment)
    (checked : ∀ maxLength, locals.maxLengthByteCapacity = some maxLength → segment.toBytes < maxLength.toBytes) :
    Consistent locals.queueArguments := by
  intro maxLength size hasLength hasSegment
  rw [shadowed.maxLength] at hasLength
  rw [shadowed.segment, given] at hasSegment
  obtain ⟨capacity, shadow, rfl⟩ := Option.map_eq_some_iff.mp hasLength
  obtain rfl := Option.some.inj hasSegment
  exact ⟨_, _, rfl, rfl, checked capacity shadow⟩

theorem consistent_default (shadowed : Shadowed default_ locals) (absent : locals.streamMaxSegmentByteCapacity = none) :
    Consistent locals.queueArguments ↔ ∀ maxLength segment, locals.maxLengthByteCapacity = some maxLength →
      default_ = some segment → ∃ size, segment = .number size ∧ size < maxLength.toBytes := by
  have segmentEntry : locals.queueArguments.get? "x-stream-max-segment-size-bytes" = default_ := by
    rw [shadowed.segment, absent]
    exact Option.none_or
  unfold Consistent
  rw [segmentEntry, shadowed.maxLength]
  constructor
  · intro consistent maxLength segment given default_
    rw [given] at consistent
    obtain ⟨length, size, same, isSize, less⟩ := consistent _ segment rfl default_
    exact ⟨size, isSize, Argument.number.inj same ▸ less⟩
  · intro greater maxLength segment given default_
    obtain ⟨capacity, shadow, rfl⟩ := Option.map_eq_some_iff.mp given
    obtain ⟨size, isSize, less⟩ := greater capacity segment shadow default_
    exact ⟨_, size, rfl, isSize, less⟩

theorem defaults_shadows (options : QueueOptions) (locals : QueueLocals) :
    (locals.putStreamDefaults options).streamMaxSegmentByteCapacity = locals.streamMaxSegmentByteCapacity ∧
      (locals.putStreamDefaults options).maxLengthByteCapacity =
        if options.streamQueue then some (ByteCapacity.B 20000000000) else locals.maxLengthByteCapacity := by
  unfold putStreamDefaults
  cases options.quorumQueue <;> cases options.streamQueue <;> exact ⟨rfl, rfl⟩

/-- What is left of the values once the options have been accepted. -/
theorem consistent_without_segment (shadowed : Shadowed (streamDefault options) locals)
    (absent : options.streamMaxSegmentSize = none) (noSegment : locals.streamMaxSegmentByteCapacity = none)
    (length : options.maxLengthBytes = none ∧
        locals.maxLengthByteCapacity = (if options.streamQueue then some (ByteCapacity.B 20000000000) else none) ∨
      ∃ text capacity, options.maxLengthBytes = some text ∧ ByteCapacity.from text = .ok capacity ∧
        locals.maxLengthByteCapacity = if capacity.toBytes = 0 then none else some capacity) :
    Consistent locals.queueArguments ↔ ¬ BelowDefaultSegment options := by
  rw [consistent_default shadowed noSegment]
  unfold streamDefault
  by_cases stream : options.streamQueue = true
  · rw [if_pos stream]
    rcases length with ⟨notGiven, shadow⟩ | ⟨text, capacity, given, parsed, shadow⟩
    · rw [if_pos stream] at shadow
      refine iff_of_true ?_ ?_
      · intro maxLength segment hasLength isDefault
        obtain rfl := Option.some.inj (shadow.symm.trans hasLength)
        obtain rfl := Option.some.inj isDefault
        exact ⟨500000000, rfl, by decide⟩
      · rintro ⟨-, -, text, capacity, given, -⟩
        cases notGiven.symm.trans given
    · have below : BelowDefaultSegment options ↔ capacity.toBytes ≠ 0 ∧ capacity.toBytes ≤ 500000000 := by
        constructor
        · rintro ⟨-, -, text', capacity', given', parsed', sizes⟩
          obtain rfl := Option.some.inj (given.symm.trans given')
          obtain rfl := Except.ok.inj (parsed.symm.trans parsed')
          exact sizes
        · exact fun sizes => ⟨stream, absent, text, capacity, given, parsed, sizes⟩
      rw [below, shadow]
      by_cases zero : capacity.toBytes = 0
      · rw [if_pos zero]
        exact iff_of_true (fun maxLength segment none => by cases none) fun sizes => sizes.1 zero
      · rw [if_neg zero]
        constructor
        · rintro greater ⟨-, small⟩
          obtain ⟨size, same, less⟩ := greater capacity _ rfl rfl
          obtain rfl := Argument.number.inj same
          omega
        · intro large maxLength segment hasLength isDefault
          obtain rfl := Option.some.inj hasLength
          obtain rfl := Option.some.inj isDefault
          exact ⟨500000000, rfl, by omega⟩
  · rw [if_neg stream]
    exact iff_of_true (fun maxLength segment _ none => by cases none) fun below => stream below.1

/-- Of the sizes that a stream is given by default, only that of the length is one to the final check. -/
theorem consistent_sizes_iff {validateDuration : String → Option ℤ} (initial : LinkedMap String Argument)
    (converted : convertListOfKeyValuePairs options.queueArgs = .ok initial)
    (noLength : initial.get? "x-max-length-bytes" = none)
    (noSegment : initial.get? "x-stream-max-segment-size-bytes" = none)
    (returned : multicastParams validateDuration options = .ok locals) (accepted : locals.exit = false) :
    Consistent locals.queueArguments ↔ ¬ BelowDefaultSegment options := by
  unfold multicastParams at returned
  rw [converted] at returned
  obtain rfl := Except.ok.inj returned
  generalize start : (⟨initial, none, none, false⟩ : QueueLocals).validate
    (!(options.quorumQueue && options.streamQueue)) = first at accepted ⊢
  have fresh : Shadowed none first := start ▸ ⟨noLength, noSegment⟩
  have unset : first.maxLengthByteCapacity = none ∧ first.streamMaxSegmentByteCapacity = none := start ▸ ⟨rfl, rfl⟩
  obtain ⟨defaultSegment, defaultLength⟩ := defaults_shadows options first
  have shadowed := shadowed_check (shadowed_leader options (shadowed_maxAge options validateDuration
    (shadowed_segment options (shadowed_maxLength options (shadowed_defaults options fresh unset.2)))))
  obtain ⟨accepted, ⟨checkLength, checkSegment⟩, greater⟩ := check_accepted accepted
  obtain ⟨accepted, leaderLength, leaderSegment⟩ := leader_accepted accepted
  obtain ⟨accepted, ageLength, ageSegment⟩ := maxAge_accepted accepted
  rw [leaderLength, ageLength, leaderSegment, ageSegment] at greater
  rw [leaderLength, ageLength] at checkLength
  rw [leaderSegment, ageSegment] at checkSegment
  obtain ⟨accepted, segmentLength, segment⟩ := segment_accepted accepted
  obtain ⟨-, lengthSegment, length⟩ := maxLength_accepted accepted
  rcases segment with ⟨absent, noSize⟩ | ⟨given, capacity, size⟩
  · refine consistent_without_segment shadowed absent ?_ ?_
    · rw [checkSegment, noSize, lengthSegment, defaultSegment, unset.2]
    · rw [unset.1] at defaultLength
      rw [defaultLength] at length
      rw [checkLength, segmentLength]
      exact length
  · refine iff_of_true (consistent_shadows shadowed (checkSegment.trans size) fun maxLength hasLength => ?_) ?_
    · exact greater maxLength capacity (checkLength.symm.trans hasLength) size
    · exact fun below => given below.2.1

def streamOptions (maxLengthBytes streamMaxSegmentSize : Option String) : QueueOptions :=
  ⟨[], false, true, maxLengthBytes, streamMaxSegmentSize, none, none⟩

theorem segment_of_200mb : ∃ locals, multicastParams (fun _ => none) (streamOptions none (some "200mb")) = .ok locals ∧
    locals.exit = false ∧ Consistent locals.queueArguments := by
  have accepted : (multicastParams (fun _ => none) (streamOptions none (some "200mb"))).toOption.map exit =
      some false := by decide +kernel
  cases returned : multicastParams (fun _ => none) (streamOptions none (some "200mb")) with
  | error exception =>
    rw [returned] at accepted
    cases accepted
  | ok locals =>
    rw [returned] at accepted
    have noExit : locals.exit = false := Option.some.inj accepted
    refine ⟨locals, rfl, noExit, ?_⟩
    exact (consistent_sizes_iff LinkedMap.empty rfl rfl rfl returned noExit).mpr fun below => by cases below.2.1

/-- A stream of at most 100 MB in segments of 500 MB. -/
theorem stream_of_100mb :
    (multicastParams (fun _ => none) (streamOptions (some "100mb") none)).toOption.map (fun locals =>
      (locals.exit, locals.queueArguments.get? "x-max-length-bytes",
        locals.queueArguments.get? "x-stream-max-segment-size-bytes")) =
      some (false, some (.number 100000000), some (.number 500000000)) ∧
    ¬ ∀ options locals, convertListOfKeyValuePairs options.queueArgs = .ok LinkedMap.empty →
      multicastParams (fun _ => none) options = .ok locals → locals.exit = false →
        Consistent locals.queueArguments := by
  have sizes : (multicastParams (fun _ => none) (streamOptions (some "100mb") none)).toOption.map (fun locals =>
      (locals.exit, locals.queueArguments.get? "x-max-length-bytes",
        locals.queueArguments.get? "x-stream-max-segment-size-bytes")) =
      some (false, some (.number 100000000), some (.number 500000000)) := by decide +kernel
  refine ⟨sizes, fun consistent => ?_⟩
  cases returned : multicastParams (fun _ => none) (streamOptions (some "100mb") none) with
  | error exception =>
    rw [returned] at sizes
    cases sizes
  | ok locals =>
    rw [returned] at sizes
    obtain ⟨noExit, both⟩ := Prod.mk.inj (Option.some.inj sizes)
    obtain ⟨hasLength, hasSegment⟩ := Prod.mk.inj both
    obtain ⟨length, size, sameLength, sameSize, less⟩ :=
      consistent (streamOptions (some "100mb") none) locals rfl returned noExit _ _ hasLength hasSegment
    obtain rfl := Argument.number.inj sameLength
    obtain rfl := Argument.number.inj sameSize
    exact absurd less (by decide)

end Sizes

end PerfTestProof
