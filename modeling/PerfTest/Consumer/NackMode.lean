import PerfTest.Consumer.DeliverySteps

namespace PerfTestProof

open Systems PerfTestModel Consumer

def nacksOnly (requeue : Bool) : ConsumerAction → Bool
  | .basicAck .. => false
  | .basicNack _ _ _ requested => requested == requeue
  | .delivered .. | .received .. | .txCommit _ | .countDown _ => true

section

variable (parameters : ConsumerParameters) (channel : ℕ) (queueNames : List String) (events : List DeliveryEvent)

def NacksOnly : Prop :=
  ∀ action ∈ (consumed parameters channel queueNames events).actions, nacksOnly parameters.requeue action = true

def NeverAcksAtExit : Prop :=
  EachExitCheck (fun earlier check =>
    acksAtExit parameters check (consumed parameters channel queueNames earlier) = false) events

end

section

variable {parameters : ConsumerParameters} {consumer after : Consumer} {delivery : Delivery} {check : ExitCheck}
  {channel deliveryTag count : ℕ} {queueNames : List String} {events : List DeliveryEvent}
  {reason : ConsumerStopReason}

theorem ackNack_nacks (nack : parameters.nack = true) (multiple : Bool) :
    nacksOnly parameters.requeue (ackNackOperation parameters channel deliveryTag multiple) = true := by
  rw [ackNackOperation, if_pos nack]
  exact beq_self_eq_true _

theorem frames_nack (nack : parameters.nack = true) :
    (frames parameters channel deliveryTag count).all (nacksOnly parameters.requeue) = true := by
  unfold frames
  cases ackDue parameters count with
  | none => rfl
  | some multiple => simp [ackNack_nacks nack]

theorem commits_nack (requeue : Bool) : (commits parameters channel count).all (nacksOnly requeue) = true := by
  unfold commits
  split <;> rfl

theorem report_nack (requeue : Bool) : (report reason consumer).all (nacksOnly requeue) = true := by
  unfold report
  split <;> rfl

theorem handled_nack (nack : parameters.nack = true) :
    (handled parameters channel delivery consumer).all (nacksOnly parameters.requeue) = true := by
  have reports : (if (consumer.counted delivery).limitReached parameters then
      report .reachedMessageLimit consumer else []).all (nacksOnly parameters.requeue) = true := by
    split
    · exact report_nack _
    · rfl
  unfold handled processing
  rw [List.all_append, reports, Bool.and_true]
  split
  · rw [List.all_cons]
    apply Bool.and_eq_true_iff.mpr
    constructor
    · rfl
    · split
      · rw [List.all_append, frames_nack nack, commits_nack, Bool.and_self]
      · rfl
  · rfl

theorem Delivered.nacks (nack : parameters.nack = true)
    (delivered : Delivered parameters delivery consumer after) :
    after.actions.all (nacksOnly parameters.requeue) = consumer.actions.all (nacksOnly parameters.requeue) := by
  have rest : (if consumer.channel ∈ consumer.closedChannels then []
      else handled parameters consumer.channel delivery consumer).all (nacksOnly parameters.requeue) = true := by
    split
    · rfl
    · exact handled_nack nack
  rw [delivered.actions, List.all_append, List.all_cons, rest]
  exact Bool.and_true _

theorem finalFrames_nack (requeue : Bool) : (finalFrames parameters consumer).all (nacksOnly requeue) = false := rfl

theorem Checked.nacks (requeue : Bool) (checked : Checked parameters check consumer after) :
    after.actions.all (nacksOnly requeue) =
      (consumer.actions.all (nacksOnly requeue) && !acksAtExit parameters check consumer) := by
  obtain ⟨reports, actions, only⟩ := checked.actions
  have reported : reports.all (nacksOnly requeue) = true := by
    apply List.all_eq_true.mpr
    intro action member
    obtain ⟨reason, rfl⟩ := only action member
    rfl
  rw [actions, List.all_append, List.all_append, reported, Bool.and_true]
  cases acksAtExit parameters check consumer with
  | true => rw [if_pos rfl, finalFrames_nack, Bool.not_true]
  | false => rw [if_neg Bool.false_ne_true, List.all_nil, Bool.not_false]

/-- The final ack of an exit check is an ack, whatever the mode. -/
theorem nacks_only_iff (parameters : ConsumerParameters) (channel : ℕ) (queueNames : List String)
    (events : List DeliveryEvent) (nack : parameters.nack = true) :
    NacksOnly parameters channel queueNames events ↔ NeverAcksAtExit parameters channel queueNames events := by
  unfold NacksOnly NeverAcksAtExit
  rw [← List.all_eq_true]
  induction events using List.reverseRecOn with
  | nil => exact iff_of_true rfl eachStep_nil
  | append_singleton events event ih =>
    rw [consumed_append]
    cases event with
    | delivery delivery =>
      rw [handle, (handleDelivery_delivered parameters delivery _).nacks nack, ih, eachExitCheck_delivery]
    | exitCheck check =>
      rw [handle, (maybeStop_checked parameters check _).nacks, Bool.and_eq_true, ih, eachExitCheck_exitCheck,
        Bool.not_eq_true']

end

def nackParameters : ConsumerParameters := ⟨0, false, 2, true, true, 0, .idle, false, true⟩

def twoMessages : List DeliveryEvent :=
  [.delivery ⟨1, 0, true⟩, .delivery ⟨2, 0, true⟩, .exitCheck ⟨2000000000, fun _ => none⟩]

theorem nacks_only_full_batch : NacksOnly nackParameters 1 ["queue"] twoMessages ∧
    NeverAcksAtExit nackParameters 1 ["queue"] twoMessages := by
  have nacks : NacksOnly nackParameters 1 ["queue"] twoMessages := by
    unfold NacksOnly
    decide
  exact ⟨nacks, (nacks_only_iff nackParameters 1 ["queue"] twoMessages rfl).mp nacks⟩

/-- One message is less than a batch of two, and the check acks it. -/
theorem nacked_consumer_acks :
    ¬ ∀ (parameters : ConsumerParameters) (channel : ℕ) (queueNames : List String)
      (events : List DeliveryEvent), parameters.autoAck = false → parameters.nack = true →
      NacksOnly parameters channel queueNames events := by
  intro always
  have nacks := always nackParameters 1 ["queue"] (.delivery ⟨1, 0, true⟩ :: [.exitCheck ⟨2000000000, fun _ => none⟩])
    rfl rfl
  unfold NacksOnly at nacks
  revert nacks
  decide

end PerfTestProof
