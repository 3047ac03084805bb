import PerfTest.Messages.RandomJson

namespace PerfTestModel

structure BodyOptions where
  size : ℤ
  jsonBody : Bool
  bodyFieldCount : ℤ
  bodyCount : ℤ
  deriving DecidableEq, Repr

namespace BodyOptions

/-- What `multicastParams` does not exit with. -/
def accepted (options : BodyOptions) : Prop := ¬ options.bodyFieldCount < 0 ∧ ¬ options.bodyCount < 0

end BodyOptions

inductive MessageBodySource
  | json (source : RandomJsonMessageBodySource)
  | timeSequence (size : ℕ) (source : TimeSequenceMessageBodySource)

structure CreateCall where
  sequenceNumber : BitVec 32
  time : BitVec 64
  choices : RandomChoices

namespace MessageBodySource

/-- A part of `createProducer`. The array of a time sequence has the given size. -/
def new (options : BodyOptions) (choices : RandomChoices) : Except BodySourceException MessageBodySource :=
  if options.jsonBody then
    (RandomJsonMessageBodySource.new options.size options.bodyFieldCount options.bodyCount choices).map .json
  else if options.size < 0 then .error (.negativeArraySize options.size)
  else .ok (.timeSequence options.size.toNat (.new (.fixedValue options.size.toNat)))

def create (call : CreateCall) : MessageBodySource → Except BodySourceException (MessageEnvelope × MessageBodySource)
  | .json source => do
    let envelope ← source.create call.sequenceNumber.toInt call.choices
    .ok (envelope, .json source)
  | .timeSequence size source =>
    let created := source.create size call.time call.sequenceNumber
    .ok (created.1, .timeSequence size created.2)

def creates (source : MessageBodySource) (calls : List CreateCall) : Except BodySourceException MessageBodySource :=
  calls.foldlM (fun source call => (source.create call).map Prod.snd) source

end MessageBodySource

end PerfTestModel

namespace PerfTestProof

open PerfTestModel

def AlwaysWorks (options : BodyOptions) : Prop :=
  ∀ choices, ∃ source, MessageBodySource.new options choices = .ok source ∧
    ∀ calls, ∃ last, source.creates calls = .ok last

variable {options : BodyOptions}

section TimeSequences

theorem timeSequence_creates (size : ℕ) (source : TimeSequenceMessageBodySource) (calls : List CreateCall) :
    ∃ last, (MessageBodySource.timeSequence size source).creates calls = .ok last := by
  unfold MessageBodySource.creates
  induction calls generalizing source with
  | nil => exact ⟨_, rfl⟩
  | cons call calls ih => exact ih (source.create size call.time call.sequenceNumber).2

theorem works_timeSequence (notJson : options.jsonBody = false) : AlwaysWorks options ↔ 0 ≤ options.size := by
  have constructed : ∀ choices, MessageBodySource.new options choices =
      if options.size < 0 then .error (.negativeArraySize options.size)
      else .ok (.timeSequence options.size.toNat (.new (.fixedValue options.size.toNat))) := by
    intro choices
    unfold MessageBodySource.new
    rw [notJson]
    rfl
  by_cases negative : options.size < 0
  · refine iff_of_false (fun works => ?_) (not_le.mpr negative)
    obtain ⟨source, returned, -⟩ := works fun _ => 0
    rw [constructed, if_pos negative] at returned
    cases returned
  · refine iff_of_true (fun choices => ⟨_, (constructed choices).trans (if_neg negative), ?_⟩) (not_lt.mp negative)
    exact timeSequence_creates _ _

end TimeSequences

section JsonBodies

variable {source : RandomJsonMessageBodySource}

theorem json_create (someBody : source.bodies ≠ []) (call : CreateCall) :
    ((MessageBodySource.json source).create call).map Prod.snd = .ok (.json source) := by
  have created : source.create call.sequenceNumber.toInt call.choices = .ok _ := if_neg someBody
  unfold MessageBodySource.create
  dsimp only
  rw [created]
  rfl

theorem json_creates (someBody : source.bodies ≠ []) (calls : List CreateCall) :
    (MessageBodySource.json source).creates calls = .ok (.json source) := by
  unfold MessageBodySource.creates
  induction calls with
  | nil => rfl
  | cons call calls ih =>
    rw [List.foldlM_cons, json_create someBody]
    exact ih

theorem no_body_created (call : CreateCall) :
    (MessageBodySource.json ⟨[]⟩).creates [call] = .error (.illegalArgument "bound must be positive") := rfl

theorem new_without_bodies (bodySize : ℤ) {fieldValueCount : ℤ} (notNegative : 0 ≤ fieldValueCount)
    (choices : RandomChoices) : RandomJsonMessageBodySource.new bodySize fieldValueCount 0 choices = .ok ⟨[]⟩ := by
  unfold RandomJsonMessageBodySource.new
  rw [if_neg (by decide), if_neg (not_lt.mpr notNegative)]
  rfl

theorem new_without_fields (bodySize : ℤ) {bodyCount : ℤ} (someBody : 0 < bodyCount) (choices : RandomChoices) :
    RandomJsonMessageBodySource.new bodySize 0 bodyCount choices = .error .noSuchElement := by
  obtain ⟨count, rfl⟩ : ∃ count : ℕ, bodyCount = (count + 1 : ℕ) := ⟨(bodyCount - 1).toNat, by omega⟩
  have stopped :
      RandomJsonMessageBodySource.appendMembers bodySize [] [] [] "\x7b ".toList choices = .error .noSuchElement := by
    unfold RandomJsonMessageBodySource.appendMembers
    rfl
  have generated : RandomJsonMessageBodySource.generate bodySize [] (count + 1) [] choices = .error .noSuchElement := by
    unfold RandomJsonMessageBodySource.generate
    show RandomJsonMessageBodySource.appendMembers bodySize [] [] [] "\x7b ".toList choices >>= _ = _
    rw [stopped]
    rfl
  unfold RandomJsonMessageBodySource.new
  rw [if_neg (by omega), if_neg (by decide)]
  show RandomJsonMessageBodySource.generate bodySize [] (count + 1) [] choices >>= _ = _
  rw [generated]
  rfl

theorem works_json (json : options.jsonBody = true) (accepted : options.accepted) :
    AlwaysWorks options ↔ 0 < options.bodyFieldCount ∧ 0 < options.bodyCount := by
  have constructed : ∀ choices, MessageBodySource.new options choices =
      (RandomJsonMessageBodySource.new options.size options.bodyFieldCount options.bodyCount choices).map .json := by
    intro choices
    unfold MessageBodySource.new
    rw [json]
    rfl
  obtain ⟨fields, bodies⟩ := accepted
  constructor
  · intro works
    obtain ⟨source, returned, creates⟩ := works fun _ => 0
    rw [constructed] at returned
    by_cases none : options.bodyCount = 0
    · rw [none, new_without_bodies _ (not_lt.mp fields)] at returned
      obtain rfl := Except.ok.inj returned
      obtain ⟨last, created⟩ := creates [⟨0, 0, fun _ => 0⟩]
      cases (no_body_created _).symm.trans created
    · by_cases noField : options.bodyFieldCount = 0
      · rw [noField, new_without_fields _ (by omega)] at returned
        cases returned
      · exact ⟨by omega, by omega⟩
  · rintro ⟨someField, someBody⟩ choices
    obtain ⟨bodies, generated, count, -⟩ := new_spec options.size someField someBody.le choices
    have some_ : bodies ≠ [] := by
      rintro rfl
      rw [List.length_nil] at count
      omega
    refine ⟨.json ⟨bodies⟩, ?_, fun calls => ⟨_, json_creates some_ calls⟩⟩
    rw [constructed, generated]
    rfl

end JsonBodies

/-- The validation lets through zero fields, zero bodies and a negative size. -/
theorem body_options_iff (accepted : options.accepted) : AlwaysWorks options ↔
    if options.jsonBody then 0 < options.bodyFieldCount ∧ 0 < options.bodyCount else 0 ≤ options.size := by
  cases json : options.jsonBody with
  | true =>
    rw [if_pos rfl]
    exact works_json json accepted
  | false =>
    rw [if_neg Bool.false_ne_true]
    exact works_timeSequence json

theorem default_json_options : AlwaysWorks ⟨0, true, 1000, 100⟩ ∧ AlwaysWorks ⟨0, false, 1000, 100⟩ := by
  constructor
  · exact (body_options_iff ⟨by decide, by decide⟩).mpr (by decide)
  · exact (body_options_iff ⟨by decide, by decide⟩).mpr (by decide)

/-- No fields, no bodies, or an array of a negative size. -/
theorem options_of_zero :
    (∀ choices, MessageBodySource.new ⟨0, true, 0, 1⟩ choices = .error .noSuchElement) ∧
      (∀ choices, MessageBodySource.new ⟨-1, false, 1000, 100⟩ choices = .error (.negativeArraySize (-1))) ∧
      ¬ ∀ options : BodyOptions, options.accepted → AlwaysWorks options := by
  have noField : ∀ choices, MessageBodySource.new ⟨0, true, 0, 1⟩ choices = .error .noSuchElement := by
    intro choices
    have stopped := new_without_fields 0 (by decide : (0 : ℤ) < 1) choices
    exact congrArg (Except.map MessageBodySource.json) stopped
  refine ⟨noField, fun choices => rfl, fun works => ?_⟩
  obtain ⟨source, constructed, -⟩ := works ⟨0, true, 0, 1⟩ ⟨by decide, by decide⟩ fun _ => 0
  cases (noField _).symm.trans constructed

end PerfTestProof
