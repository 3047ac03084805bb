import PerfTest.Consumer.DeliverySteps

namespace PerfTestProof

open Systems Settlements PerfTestModel Consumer

def eventTag : DeliveryEvent → Option ℕ
  | .delivery delivery => some delivery.deliveryTag
  | .exitCheck _ => none

def Increasing (events : List DeliveryEvent) : Prop := (0 :: events.filterMap eventTag).Pairwise (· < ·)

instance (events : List DeliveryEvent) : Decidable (Increasing events) :=
  inferInstanceAs (Decidable (List.Pairwise _ _))

def lastTag (events : List DeliveryEvent) : ℕ := (0 :: events.filterMap eventTag).getLast (List.cons_ne_nil _ _)

def SettledUpToLast (consumer : Consumer) : Prop :=
  .settled consumer.lastDeliveryTag true ∈ movementsOn consumer.channel consumer.actions

section

variable (parameters : ConsumerParameters) (channel : ℕ) (queueNames : List String) (events : List DeliveryEvent)

def FinallyAcked : Prop :=
  ∃ earlier check between, events = earlier ++ .exitCheck check :: between ∧
    acksAtExit parameters check (consumed parameters channel queueNames earlier) = true ∧
    (consumed parameters channel queueNames events).lastDeliveryTag =
      (consumed parameters channel queueNames earlier).lastDeliveryTag

def FinalAcksApart : Prop :=
  EachExitCheck (fun earlier check =>
    acksAtExit parameters check (consumed parameters channel queueNames earlier) = true →
      ¬ FinallyAcked parameters channel queueNames earlier) events

end

structure Settling (last : ℕ) (consumer : Consumer) : Prop where
  unsettled : ∀ tag ∈ (accountOf consumer.channel consumer).unsettled, tag ≤ last
  settled : ∀ tag multiple,
    .settled tag multiple ∈ movementsOn consumer.channel consumer.actions → tag ≤ last
  processed : consumer.lastDeliveryTag ≤ last
  owed : consumer.lastAckedDeliveryTag < consumer.lastDeliveryTag → ¬ SettledUpToLast consumer →
    consumer.lastDeliveryTag ∈ (accountOf consumer.channel consumer).unsettled
  above : SettledUpToLast consumer →
    ∀ tag ∈ (accountOf consumer.channel consumer).unsettled, consumer.lastDeliveryTag < tag

section

variable {parameters : ConsumerParameters} {consumer : Consumer} {delivery : Delivery} {check : ExitCheck}
  {channel : ℕ} {queueNames : List String} {events : List DeliveryEvent} {last : ℕ}

theorem accountOf_of_movements {after : Consumer} {more : List (Movement ℕ)} (same : after.channel = consumer.channel)
    (movements : movementsOn consumer.channel after.actions =
      movementsOn consumer.channel consumer.actions ++ more) :
    accountOf after.channel after = more.foldl record (accountOf consumer.channel consumer) := by
  rw [accountOf, same, movements, ofMovements_append]
  rfl

theorem start_settling : Settling 0 (start channel queueNames) := by
  constructor
  · intro tag member
    cases member
  · intro tag multiple member
    cases member
  · exact Nat.le_refl 0
  · intro impossible
    cases impossible
  · intro member
    cases member

theorem Delivered.unsettled_of_none {after : Consumer} (delivered : Delivered parameters delivery consumer after)
    (frame : frameFor parameters delivery consumer = none) : (accountOf after.channel after).unsettled =
      (accountOf consumer.channel consumer).unsettled ++ [delivery.deliveryTag] := by
  rw [accountOf_of_movements delivered.channel delivered.movements, frame]
  rfl

theorem Delivered.frames_of_none {after : Consumer} (delivered : Delivered parameters delivery consumer after)
    (frame : frameFor parameters delivery consumer = none) {tag : ℕ} {multiple : Bool} :
    .settled tag multiple ∈ movementsOn after.channel after.actions ↔
      .settled tag multiple ∈ movementsOn consumer.channel consumer.actions := by
  rw [delivered.channel, delivered.movements, frame]
  simp

theorem Settling.unframed {after : Consumer} (settling : Settling last consumer)
    (fresh : last < delivery.deliveryTag) (delivered : Delivered parameters delivery consumer after)
    (frame : frameFor parameters delivery consumer = none) : Settling delivery.deliveryTag after := by
  have unsettled := delivered.unsettled_of_none frame
  have processedTag := delivered.lastDeliveryTag
  have sameAcked : after.lastAckedDeliveryTag = consumer.lastAckedDeliveryTag := by
    rw [delivered.lastAckedDeliveryTag, frame]
    rfl
  -- a frame up to the tag of a new message would be an earlier one
  have unmoved : SettledUpToLast after → accepts parameters delivery consumer = false := by
    intro acked
    unfold SettledUpToLast at acked
    have below := settling.settled _ _ ((delivered.frames_of_none frame).mp acked)
    cases accepted : accepts parameters delivery consumer with
    | true =>
      rw [processedTag, accepted, if_pos rfl] at below
      omega
    | false => rfl
  have same : accepts parameters delivery consumer = false →
      after.lastDeliveryTag = consumer.lastDeliveryTag ∧ (SettledUpToLast after ↔ SettledUpToLast consumer) := by
    intro skipped
    rw [skipped, if_neg Bool.false_ne_true] at processedTag
    apply And.intro processedTag
    unfold SettledUpToLast
    rw [processedTag, delivered.frames_of_none frame]
  constructor
  · intro tag member
    rw [unsettled] at member
    rcases List.mem_append.mp member with earlier | new
    · exact Nat.le_trans (settling.unsettled tag earlier) (Nat.le_of_lt fresh)
    · exact Nat.le_of_eq (List.mem_singleton.mp new)
  · intro tag multiple member
    exact Nat.le_trans (settling.settled tag multiple ((delivered.frames_of_none frame).mp member))
      (Nat.le_of_lt fresh)
  · rw [processedTag]
    split
    · exact Nat.le_refl _
    · exact Nat.le_trans settling.processed (Nat.le_of_lt fresh)
  · intro due unacked
    rw [unsettled]
    cases accepted : accepts parameters delivery consumer with
    | true =>
      rw [processedTag, accepted]
      exact List.mem_append_right _ (List.mem_singleton_self _)
    | false =>
      obtain ⟨sameTag, sameAck⟩ := same accepted
      rw [sameTag, sameAcked] at due
      rw [sameAck] at unacked
      rw [sameTag]
      exact List.mem_append_left _ (settling.owed due unacked)
  · intro acked tag member
    obtain ⟨sameTag, sameAck⟩ := same (unmoved acked)
    rw [unsettled] at member
    rw [sameTag]
    rcases List.mem_append.mp member with earlier | new
    · exact settling.above (sameAck.mp acked) tag earlier
    · rw [List.mem_singleton.mp new]
      exact Nat.lt_of_le_of_lt settling.processed fresh

/-- After a frame, what is left is not covered by it, and nothing is owed. -/
theorem Settling.framed {after : Consumer} {multiple : Bool} (settling : Settling last consumer)
    (fresh : last < delivery.deliveryTag) (delivered : Delivered parameters delivery consumer after)
    (frame : frameFor parameters delivery consumer = some multiple) : Settling delivery.deliveryTag after := by
  have account := accountOf_of_movements delivered.channel delivered.movements
  have movements := delivered.movements
  rw [frame] at account movements
  have processedTag : after.lastDeliveryTag = delivery.deliveryTag := by
    rw [delivered.lastDeliveryTag, accepts_of_frame frame]
    rfl
  have ackedTag : after.lastAckedDeliveryTag = delivery.deliveryTag := by
    rw [delivered.lastAckedDeliveryTag, frame]
    rfl
  have remaining : ∀ tag ∈ (accountOf after.channel after).unsettled,
      tag ≤ delivery.deliveryTag ∧ isCovered delivery.deliveryTag multiple tag = false := by
    intro tag member
    rw [account] at member
    obtain ⟨owed, apart⟩ := mem_record_settled.mp member
    rcases List.mem_append.mp owed with earlier | new
    · exact ⟨Nat.le_trans (settling.unsettled tag earlier) (Nat.le_of_lt fresh), apart⟩
    · exact ⟨Nat.le_of_eq (List.mem_singleton.mp new), apart⟩
  constructor
  · intro tag member
    exact (remaining tag member).1
  · intro tag covers member
    rw [delivered.channel, movements] at member
    rcases List.mem_append.mp member with earlier | new
    · exact Nat.le_trans (settling.settled tag covers earlier) (Nat.le_of_lt fresh)
    · simp only [Option.toList_some, List.map_cons, List.map_nil, List.mem_cons, reduceCtorEq,
        Movement.settled.injEq, List.not_mem_nil, or_false, false_or] at new
      exact Nat.le_of_eq new.1
  · exact Nat.le_of_eq processedTag
  · intro due
    rw [processedTag, ackedTag] at due
    exact absurd due (Nat.lt_irrefl _)
  · intro acked tag member
    obtain ⟨below, apart⟩ := remaining tag member
    cases multiple with
    | true =>
      rw [isCovered_multiple.mpr below] at apart
      cases apart
    | false =>
      -- the frame for all of them would be an earlier one
      unfold SettledUpToLast at acked
      rw [delivered.channel, movements, processedTag] at acked
      rcases List.mem_append.mp acked with earlier | new
      · have old := settling.settled _ _ earlier
        omega
      · simp at new

theorem Settling.delivered {after : Consumer} (settling : Settling last consumer)
    (fresh : last < delivery.deliveryTag) (delivered : Delivered parameters delivery consumer after) :
    Settling delivery.deliveryTag after := by
  cases frame : frameFor parameters delivery consumer with
  | none => exact settling.unframed fresh delivered frame
  | some multiple => exact settling.framed fresh delivered frame

theorem settledUpToLast_of_movements {after : Consumer} {more : List (Movement ℕ)}
    (same : after.channel = consumer.channel) (tag : after.lastDeliveryTag = consumer.lastDeliveryTag)
    (movements : movementsOn consumer.channel after.actions =
      movementsOn consumer.channel consumer.actions ++ more) :
    SettledUpToLast after ↔ SettledUpToLast consumer ∨ .settled consumer.lastDeliveryTag true ∈ more := by
  unfold SettledUpToLast
  rw [same, tag, movements, List.mem_append]

theorem Settling.checked {after : Consumer} (settling : Settling last consumer)
    (checked : Checked parameters check consumer after) : Settling last after := by
  have movements := checked.movements
  have account := accountOf_of_movements checked.channel movements
  have acked := settledUpToLast_of_movements checked.channel checked.lastDeliveryTag movements
  cases acks : acksAtExit parameters check consumer with
  | false =>
    simp only [acks, Bool.false_eq_true, if_false, List.append_nil, List.foldl_nil, List.not_mem_nil,
      or_false] at movements account acked
    constructor
    · rw [account]
      exact settling.unsettled
    · rw [checked.channel, movements]
      exact settling.settled
    · rw [checked.lastDeliveryTag]
      exact settling.processed
    · rw [checked.lastDeliveryTag, checked.lastAckedDeliveryTag, account, acked]
      exact settling.owed
    · rw [checked.lastDeliveryTag, account, acked]
      exact settling.above
  | true =>
    simp only [acks, if_true, List.foldl_cons, List.foldl_nil, List.mem_singleton, or_true,
      iff_true] at movements account acked
    constructor
    · intro tag member
      rw [account] at member
      exact settling.unsettled tag (mem_record_settled.mp member).1
    · intro tag multiple member
      rw [checked.channel, movements] at member
      rcases List.mem_append.mp member with earlier | new
      · exact settling.settled tag multiple earlier
      · cases List.mem_singleton.mp new
        exact settling.processed
    · rw [checked.lastDeliveryTag]
      exact settling.processed
    · intro due unacked
      exact absurd acked unacked
    · intro _ tag member
      rw [account] at member
      rw [checked.lastDeliveryTag]
      exact record_multiple_above member

theorem increasing_initial {more : List DeliveryEvent} (increasing : Increasing (events ++ more)) :
    Increasing events := by
  unfold Increasing at increasing
  rw [List.filterMap_append, ← List.cons_append] at increasing
  exact (List.pairwise_append.mp increasing).1

theorem lastTag_delivery : lastTag (events ++ [.delivery delivery]) = delivery.deliveryTag := by
  simp [lastTag, eventTag]

theorem lastTag_exitCheck : lastTag (events ++ [.exitCheck check]) = lastTag events := by
  have none : [DeliveryEvent.exitCheck check].filterMap eventTag = [] := rfl
  simp [lastTag, none]

theorem lastTag_lt (increasing : Increasing (events ++ [.delivery delivery])) :
    lastTag events < delivery.deliveryTag := by
  unfold Increasing at increasing
  rw [List.filterMap_append, ← List.cons_append] at increasing
  apply (List.pairwise_append.mp increasing).2.2 _ (List.getLast_mem _)
  exact List.mem_singleton_self _

theorem consumed_settling (parameters : ConsumerParameters) (channel : ℕ) (queueNames : List String)
    (increasing : Increasing events) :
    Settling (lastTag events) (consumed parameters channel queueNames events) := by
  induction events using List.reverseRecOn with
  | nil => exact start_settling
  | append_singleton events event ih =>
    have settling := ih (increasing_initial increasing)
    rw [consumed_append]
    cases event with
    | delivery delivery =>
      rw [lastTag_delivery]
      exact settling.delivered (lastTag_lt increasing) (handleDelivery_delivered parameters delivery _)
    | exitCheck check =>
      rw [lastTag_exitCheck]
      exact settling.checked (maybeStop_checked parameters check _)

theorem handle_movements (parameters : ConsumerParameters) (consumer : Consumer) (event : DeliveryEvent) : ∃ more,
    movementsOn consumer.channel (consumer.handle parameters event).actions =
      movementsOn consumer.channel consumer.actions ++ more := by
  cases event with
  | delivery delivery => exact ⟨_, (handleDelivery_delivered parameters delivery consumer).movements⟩
  | exitCheck check => exact ⟨_, (maybeStop_checked parameters check consumer).movements⟩

theorem foldl_movements (parameters : ConsumerParameters) (consumer : Consumer) (events : List DeliveryEvent) :
    movementsOn consumer.channel consumer.actions <+:
      movementsOn consumer.channel (events.foldl (handle parameters) consumer).actions := by
  induction events generalizing consumer with
  | nil => exact List.prefix_rfl
  | cons event events ih =>
    obtain ⟨more, movements⟩ := handle_movements parameters consumer event
    have later := ih (consumer.handle parameters event)
    rw [handle_channel, movements] at later
    exact (List.prefix_append _ more).trans later

theorem FinallyAcked.settled (acked : FinallyAcked parameters channel queueNames events) :
    SettledUpToLast (consumed parameters channel queueNames events) := by
  obtain ⟨earlier, check, between, rfl, acks, same⟩ := acked
  have sent := (maybeStop_checked parameters check (consumed parameters channel queueNames earlier)).movements
  have kept := foldl_movements parameters
    ((consumed parameters channel queueNames earlier).handle parameters (.exitCheck check)) between
  have run : consumed parameters channel queueNames (earlier ++ .exitCheck check :: between) =
      between.foldl (handle parameters)
        ((consumed parameters channel queueNames earlier).handle parameters (.exitCheck check)) := List.foldl_append
  rw [acks, consumed_channel] at sent
  rw [handle_channel, consumed_channel, ← run] at kept
  unfold SettledUpToLast
  rw [same, consumed_channel]
  apply kept.subset
  rw [handle, sent]
  exact List.mem_append_right _ (List.mem_singleton_self _)

theorem FinallyAcked.append {event : DeliveryEvent} (acked : FinallyAcked parameters channel queueNames events)
    (same : (consumed parameters channel queueNames (events ++ [event])).lastDeliveryTag =
      (consumed parameters channel queueNames events).lastDeliveryTag) :
    FinallyAcked parameters channel queueNames (events ++ [event]) := by
  obtain ⟨earlier, check, between, rfl, acks, unmoved⟩ := acked
  exact ⟨earlier, check, between ++ [event], by simp, acks, same.trans unmoved⟩

/-- Where the guard of the final ack is true, it has nothing to settle only after a final ack. -/
theorem finallyAcked_of_settled (increasing : Increasing events)
    (due : (consumed parameters channel queueNames events).lastAckedDeliveryTag <
      (consumed parameters channel queueNames events).lastDeliveryTag)
    (settled : SettledUpToLast (consumed parameters channel queueNames events)) :
    FinallyAcked parameters channel queueNames events := by
  induction events using List.reverseRecOn with
  | nil => cases due
  | append_singleton events event ih =>
    have settling := consumed_settling parameters channel queueNames (increasing_initial increasing)
    have step := consumed_append parameters channel queueNames events event
    have earlier := ih (increasing_initial increasing)
    rw [step] at due settled
    cases event with
    | delivery delivery =>
      have delivered := handleDelivery_delivered parameters delivery
        (consumed parameters channel queueNames events)
      have fresh := lastTag_lt increasing
      have tag := delivered.lastDeliveryTag
      have acked := delivered.lastAckedDeliveryTag
      cases frame : frameFor parameters delivery (consumed parameters channel queueNames events) with
      | some multiple =>
        -- a message that is acked is the last one that is processed
        have accepted := accepts_of_frame frame
        rw [accepted, if_pos rfl] at tag
        rw [frame, Option.isSome_some, if_pos rfl] at acked
        have both : delivery.deliveryTag < delivery.deliveryTag := by
          calc delivery.deliveryTag = _ := acked.symm
            _ < _ := due
            _ = delivery.deliveryTag := tag
        exact absurd both (Nat.lt_irrefl _)
      | none =>
        have movements := delivered.movements
        rw [frame] at movements acked
        cases accepted : accepts parameters delivery (consumed parameters channel queueNames events) with
        | true =>
          rw [accepted, if_pos rfl] at tag
          have member := settled
          unfold SettledUpToLast at member
          rw [handle, delivered.frames_of_none frame, tag] at member
          have below := settling.settled _ _ member
          omega
        | false =>
          rw [accepted, if_neg Bool.false_ne_true] at tag
          have before := (settledUpToLast_of_movements delivered.channel tag movements).mp settled
          have before := before.resolve_right (by simp)
          have due : (consumed parameters channel queueNames events).lastAckedDeliveryTag <
              (consumed parameters channel queueNames events).lastDeliveryTag := by
            calc _ = _ := acked.symm
              _ < _ := due
              _ = _ := tag
          exact (earlier due before).append (step ▸ tag)
    | exitCheck check =>
      have checked := maybeStop_checked parameters check (consumed parameters channel queueNames events)
      have movements := checked.movements
      have tag := checked.lastDeliveryTag
      cases acks : acksAtExit parameters check (consumed parameters channel queueNames events) with
      | true => exact ⟨events, check, [], rfl, acks, step ▸ tag⟩
      | false =>
        rw [acks] at movements
        have before := (settledUpToLast_of_movements checked.channel tag movements).mp settled
        have before := before.resolve_right (by simp)
        have due : (consumed parameters channel queueNames events).lastAckedDeliveryTag <
            (consumed parameters channel queueNames events).lastDeliveryTag := by
          calc _ = _ := checked.lastAckedDeliveryTag.symm
            _ < _ := due
            _ = _ := tag
        exact (earlier due before).append (step ▸ tag)

theorem due_of_acks (acks : acksAtExit parameters check consumer = true) :
    consumer.lastAckedDeliveryTag < consumer.lastDeliveryTag := by
  rcases maybeStop_cases parameters check consumer with ⟨_, _, _, _, stays⟩ | ⟨_, _, _, _, stopped, _⟩
  · rw [acksAtExit, stays] at acks
    cases acks
  · rw [acksAtExit, stopped, Option.any_some] at acks
    simp only [sendsFinalAck, finalAckDue, Bool.and_eq_true, decide_eq_true_eq] at acks
    exact acks.1.2

theorem Delivered.failed {after : Consumer} (delivered : Delivered parameters delivery consumer after) :
    (accountOf after.channel after).failed = (accountOf consumer.channel consumer).failed := by
  rw [accountOf_of_movements delivered.channel delivered.movements]
  cases frameFor parameters delivery consumer with
  | none => rfl
  | some multiple =>
    have owed : delivery.deliveryTag ∈
        ((accountOf consumer.channel consumer).record (.delivered delivery.deliveryTag)).unsettled :=
      List.mem_append_right _ (List.mem_singleton_self _)
    show (_ || (covers _ delivery.deliveryTag multiple).isEmpty) = _
    rw [List.isEmpty_eq_false_iff.mpr (covers_of_mem multiple owed), Bool.or_false]
    rfl

theorem Settling.check_failed {after : Consumer} (settling : Settling last consumer)
    (checked : Checked parameters check consumer after) :
    (accountOf after.channel after).failed = false ↔
      (accountOf consumer.channel consumer).failed = false ∧
        (acksAtExit parameters check consumer = true → ¬ SettledUpToLast consumer) := by
  rw [accountOf_of_movements checked.channel (checked.movements)]
  cases acks : acksAtExit parameters check consumer with
  | false => simp
  | true =>
    show (_ || ((accountOf consumer.channel consumer).covers _ true).isEmpty) = false ↔ _
    rw [Bool.or_eq_false_iff, List.isEmpty_eq_false_iff]
    apply and_congr_right
    intro _
    constructor
    · intro some _ acked
      exact some (covers_eq_nil (settling.above acked))
    · intro unacked
      exact covers_of_mem true (settling.owed (due_of_acks acks) (unacked rfl))

theorem failed_iff (parameters : ConsumerParameters) (channel : ℕ) (queueNames : List String)
    (increasing : Increasing events) :
    (accountOf (consumed parameters channel queueNames events).channel
      (consumed parameters channel queueNames events)).failed = false ↔
        FinalAcksApart parameters channel queueNames events := by
  unfold FinalAcksApart
  induction events using List.reverseRecOn with
  | nil => exact iff_of_true rfl eachStep_nil
  | append_singleton events event ih =>
    have earlier := increasing_initial increasing
    rw [consumed_append]
    cases event with
    | delivery delivery =>
      rw [handle, (handleDelivery_delivered parameters delivery _).failed, ih earlier, eachExitCheck_delivery]
    | exitCheck check =>
      have settling := consumed_settling parameters channel queueNames earlier
      rw [handle, settling.check_failed (maybeStop_checked parameters check _), ih earlier,
        eachExitCheck_exitCheck]
      apply and_congr_right
      intro _
      constructor
      · intro unacked acks acked
        exact unacked acks acked.settled
      · intro unacked acks settled
        exact unacked acks (finallyAcked_of_settled earlier (due_of_acks acks) settled)

theorem consumed_deliveries :
    (movementsOn channel (consumed parameters channel queueNames events).actions).filterMap
      Movement.deliveredTag = events.filterMap eventTag := by
  induction events using List.reverseRecOn with
  | nil => rfl
  | append_singleton events event ih =>
    have here := consumed_channel parameters channel queueNames events
    rw [consumed_append, List.filterMap_append]
    cases event with
    | delivery delivery =>
      have movements := (handleDelivery_delivered parameters delivery
        (consumed parameters channel queueNames events)).movements
      rw [here] at movements
      rw [handle, movements, List.filterMap_append, ih]
      cases frameFor parameters delivery (consumed parameters channel queueNames events) <;> rfl
    | exitCheck check =>
      have movements := (maybeStop_checked parameters check
        (consumed parameters channel queueNames events)).movements
      rw [here] at movements
      rw [handle, movements, List.filterMap_append, ih]
      split <;> rfl

/-- The final ack is not remembered as an ack, so a later check may send it again. -/
theorem settles_once_iff (parameters : ConsumerParameters) (channel : ℕ) (queueNames : List String)
    (events : List DeliveryEvent) (increasing : Increasing events) :
    SettledOnce (movementsOn channel (consumed parameters channel queueNames events).actions) ↔
      FinalAcksApart parameters channel queueNames events := by
  have failed := failed_iff parameters channel queueNames increasing
  rw [accountOf, consumed_channel] at failed
  constructor
  · intro settled
    exact failed.mp settled.covers
  · intro apart
    constructor
    · apply settled_nodup
      rw [consumed_deliveries]
      exact (List.pairwise_cons.mp increasing).2.imp Nat.ne_of_lt
    · exact failed.mpr apart

end

def idleParameters : ConsumerParameters := ⟨0, false, 10, true, false, 0, .idle, false, true⟩

def threeMessages : List DeliveryEvent :=
  [.delivery ⟨1, 0, true⟩, .delivery ⟨2, 0, true⟩, .delivery ⟨3, 0, true⟩,
    .exitCheck ⟨2000000000, fun _ => none⟩]

theorem settles_once_idle :
    SettledOnce (movementsOn 1 (consumed idleParameters 1 ["queue"] threeMessages).actions) ∧
      FinalAcksApart idleParameters 1 ["queue"] threeMessages := by
  have settled : SettledOnce (movementsOn 1 (consumed idleParameters 1 ["queue"] threeMessages).actions) :=
    ⟨by decide, by decide⟩
  have increasing : Increasing threeMessages := by decide
  exact ⟨settled, (settles_once_iff idleParameters 1 ["queue"] threeMessages increasing).mp settled⟩

/-- The check of the next second sends the final ack again. -/
theorem final_ack_sent_twice :
    ¬ ∀ (parameters : ConsumerParameters) (channel : ℕ) (queueNames : List String)
      (events : List DeliveryEvent), parameters.autoAck = false → Increasing events →
      SettledOnce (movementsOn channel (consumed parameters channel queueNames events).actions) := by
  intro always
  have increasing : Increasing (threeMessages ++ [.exitCheck ⟨3000000000, fun _ => none⟩]) := by decide
  have covers := (always idleParameters 1 ["queue"] _ rfl increasing).covers
  revert covers
  decide

end PerfTestProof
