import PerfTest.Producer.Thread

namespace PerfTestModel

open Systems

def PublishAttempt.sends : PublishAttempt → Bool
  | .published => true
  | .failed sent _ => sent

namespace ProducerThread

def swallowed (recoveryEnabled : Bool) : ProducerException → Bool
  | .shutdownSignal triggersRecovery _ => !shouldStop recoveryEnabled triggersRecovery
  | .socketException _ => recoveryEnabled
  | _ => false

def attempts (settings : ProducerSettings) (call : PublishCall) : Bool :=
  !call.recovering && match settings.confirmTimeout, call.permit with
    | none, _ | some _, .acquired => true
    | some _, .interrupted _ => false
    | some confirmTimeout, .notAcquired => confirmTimeout < 0

def sends (settings : ProducerSettings) (call : PublishCall) : Bool :=
  attempts settings call && call.attempt.sends

def countsMessage (settings : ProducerSettings) (call : PublishCall) : Bool :=
  attempts settings call && match call.attempt with
    | .published => true
    | .failed _ exception => swallowed settings.recoveryEnabled exception

def commitDue (settings : ProducerSettings) (messageCount : ℤ) : Bool :=
  settings.txSize ≠ 0 ∧ messageCount.tmod settings.txSize = 0

def commitThrows (settings : ProducerSettings) (call : PublishCall) : Bool :=
  match call.commit with
  | none => false
  | some exception => !swallowed settings.recoveryEnabled exception

end ProducerThread

end PerfTestModel

namespace PerfTestProof

open PerfTestModel Systems Program ProducerThread

section

variable {settings : ProducerSettings} {call : PublishCall} {thread after : ProducerThread}
  {returned : Unit → ProducerThread → Prop} {thrown : ProducerException → ProducerThread → Prop}

theorem dealWithWriteOperation_ends {recoveryEnabled : Bool} {writeOperation : ProducerCall Unit} :
    (dealWithWriteOperation recoveryEnabled writeOperation).ends returned thrown thread ↔
      writeOperation.ends returned (fun exception after =>
        if swallowed recoveryEnabled exception then returned () after else thrown exception after) thread := by
  rw [dealWithWriteOperation, ends_tryCatch]
  have handled (exception : ProducerException) (after : ProducerThread) :
      (handleExceptionOnWrite recoveryEnabled exception).ends returned thrown after ↔
        if swallowed recoveryEnabled exception then returned () after else thrown exception after := by
    cases exception with
    | shutdownSignal triggersRecovery message =>
      cases recoveryEnabled <;> cases triggersRecovery <;> exact Iff.rfl
    | socketException description =>
      cases recoveryEnabled <;> exact Iff.rfl
    | _ => exact Iff.rfl
  simp only [handled]

structure Handled (settings : ProducerSettings) (call : PublishCall) (thread after : ProducerThread) : Prop where
  completed : after.completed = thread.completed
  countDowns : after.countDowns = thread.countDowns
  sent : after.sent = thread.sent + (sends settings call).toNat
  msgCount : after.msgCount =
    if countsMessage settings call then Java.int (thread.msgCount + 1) else thread.msgCount
  published : after.published = thread.published +
    (countsMessage settings call &&
      !(commitDue settings (Java.int (thread.msgCount + 1)) && commitThrows settings call)).toNat

theorem Handled.interrupt (handled : Handled settings call thread after) :
    Handled settings call thread (after.flagged true) :=
  ⟨handled.completed, handled.countDowns, handled.sent, handled.msgCount, handled.published⟩

theorem wrapException_ends (handled : Handled settings call thread after) (exception : ProducerException) :
    (wrapException exception).ends (fun _ => Handled settings call thread)
      (fun _ => Handled settings call thread) after := by
  cases exception with
  | interruptedException description => exact handled.interrupt
  | _ => exact handled

theorem commitTransactionIfNecessary_ends {commit : Option ProducerException} {messageCount : ℤ} :
    (commitTransactionIfNecessary settings commit messageCount).ends returned thrown thread ↔
      if commitDue settings messageCount then
        match commit with
        | none => returned () { thread with uncommitted := 0 }
        | some exception =>
          if swallowed settings.recoveryEnabled exception then returned () thread else thrown exception thread
      else returned () thread := by
  unfold commitTransactionIfNecessary commitDue
  simp only [decide_eq_true_eq]
  split
  · rw [dealWithWriteOperation_ends]
    cases commit with
    | none => exact Iff.rfl
    | some exception => exact Iff.rfl
  · exact Iff.rfl

theorem counted_ends (counts : countsMessage settings call = true)
    (sent : after.sent = thread.sent + (sends settings call).toNat)
    (same : after.completed = thread.completed ∧ after.countDowns = thread.countDowns ∧
      after.msgCount = thread.msgCount ∧ after.published = thread.published) :
    (do
      let messageCount ← incrementMessageCount
      commitTransactionIfNecessary settings call.commit messageCount
      modify fun thread => { thread with published := thread.published + 1 } : ProducerCall Unit).ends
      (fun _ => Handled settings call thread) (fun _ => Handled settings call thread) after := by
  obtain ⟨completed, countDowns, msgCount, published⟩ := same
  simp only [incrementMessageCount, ends_bind, ends_modify, ends_get, ends_pure,
    commitTransactionIfNecessary_ends, msgCount]
  split
  · rename_i due
    cases commit : call.commit with
    | none =>
      refine ⟨completed, countDowns, sent, ?_, ?_⟩
      · simp [counts]
      · simp [counts, commitThrows, commit, published]
    | some exception =>
      by_cases swallow : swallowed settings.recoveryEnabled exception = true
      · simp only [swallow, if_true]
        refine ⟨completed, countDowns, sent, ?_, ?_⟩
        · simp [counts]
        · simp [counts, commitThrows, commit, published, swallow]
      · simp only [swallow]
        refine ⟨completed, countDowns, sent, ?_, ?_⟩
        · simp [counts]
        · simp [counts, commitThrows, commit, published, swallow, due]
  · rename_i due
    refine ⟨completed, countDowns, sent, ?_, ?_⟩
    · simp [counts]
    · simp [counts, published, due]

theorem Handled.uncounted (uncounted : countsMessage settings call = false)
    (sent : after.sent = thread.sent + (sends settings call).toNat)
    (same : after.completed = thread.completed ∧ after.countDowns = thread.countDowns ∧
      after.msgCount = thread.msgCount ∧ after.published = thread.published) :
    Handled settings call thread after := by
  obtain ⟨completed, countDowns, msgCount, published⟩ := same
  refine ⟨completed, countDowns, sent, ?_, ?_⟩
  · rw [uncounted]
    exact msgCount
  · rw [uncounted]
    exact published

theorem Handled.unattempted (unattempted : attempts settings call = false) :
    Handled settings call thread thread := by
  apply Handled.uncounted
  · rw [countsMessage, unattempted, Bool.false_and]
  · rw [sends, unattempted, Bool.false_and]
    rfl
  · exact ⟨rfl, rfl, rfl, rfl⟩

theorem permit_ends (connected : call.recovering = false) :
    (maybeWaitIfTooManyOutstandingPublishConfirms settings call.permit).ends
      (fun _ after => attempts settings call = true ∧ after = thread)
      (fun _ after => attempts settings call = false ∧ after = thread) thread := by
  unfold maybeWaitIfTooManyOutstandingPublishConfirms attempts
  rw [connected]
  cases settings.confirmTimeout with
  | none => exact ⟨rfl, rfl⟩
  | some confirmTimeout =>
    cases call.permit with
    | acquired => exact ⟨rfl, rfl⟩
    | interrupted description => exact ⟨rfl, rfl⟩
    | notAcquired =>
      by_cases waits : confirmTimeout < 0
      · rw [ends_ite, if_pos waits]
        exact ⟨decide_eq_true waits, rfl⟩
      · rw [ends_ite, if_neg waits]
        exact ⟨decide_eq_false waits, rfl⟩

theorem publish_failed_ends {sent : Bool} {exception : ProducerException} :
    (publish (.failed sent exception)).ends returned thrown thread ↔
      thrown exception
        { thread with sent := thread.sent + sent.toNat, uncommitted := thread.uncommitted + sent.toNat } := by
  cases sent <;> exact Iff.rfl

/-- Once the write has returned, or its exception is swallowed, the message is counted. -/
theorem written_ends (attempted : attempts settings call = true) :
    (dealWithWriteOperation settings.recoveryEnabled (publish call.attempt)).ends
      (fun _ after => countsMessage settings call = true ∧
        after.sent = thread.sent + (sends settings call).toNat ∧ after.completed = thread.completed ∧
        after.countDowns = thread.countDowns ∧ after.msgCount = thread.msgCount ∧
        after.published = thread.published)
      (fun _ => Handled settings call thread) thread := by
  have counts : countsMessage settings call = match call.attempt with
      | .published => true
      | .failed _ exception => swallowed settings.recoveryEnabled exception := by
    rw [countsMessage, attempted, Bool.true_and]
  have sending : sends settings call = call.attempt.sends := by rw [sends, attempted, Bool.true_and]
  rw [dealWithWriteOperation_ends]
  cases attempt : call.attempt with
  | published =>
    rw [attempt] at counts sending
    exact ⟨counts, by rw [sending]; rfl, rfl, rfl, rfl, rfl⟩
  | failed sent exception =>
    rw [attempt] at counts sending
    rw [publish_failed_ends]
    split
    · rename_i swallowing
      exact ⟨counts.trans swallowing, by rw [sending]; rfl, rfl, rfl, rfl, rfl⟩
    · rename_i thrown
      have uncounted : countsMessage settings call = false :=
        counts.trans (Bool.eq_false_of_not_eq_true thrown)
      exact .uncounted uncounted (by rw [sending]; rfl) ⟨rfl, rfl, rfl, rfl⟩

theorem publishAndCount_ends (connected : call.recovering = false) :
    (publishAndCount settings call).ends (fun _ => Handled settings call thread)
      (fun _ => Handled settings call thread) thread := by
  rw [publishAndCount, ends_bind]
  refine ends_mono (permit_ends connected) ?_ ?_
  · rintro _ _ ⟨attempted, rfl⟩
    rw [ends_bind]
    refine ends_mono (written_ends attempted) ?_ fun _ _ => id
    rintro _ after ⟨counts, sent, same⟩
    exact counted_ends counts sent same
  · rintro _ _ ⟨unattempted, rfl⟩
    exact .unattempted unattempted

theorem handlePublish_ends :
    (handlePublish settings call).ends (fun _ => Handled settings call thread)
      (fun _ => Handled settings call thread) thread := by
  unfold handlePublish
  rw [ends_ite]
  split
  · rename_i recovering
    have unattempted : attempts settings call = false := by
      rw [attempts, recovering, Bool.not_true, Bool.false_and]
    rw [ends_ite]
    split
    · exact (Handled.unattempted unattempted).interrupt
    · exact .unattempted unattempted
  · rename_i connected
    rw [ends_tryCatch]
    refine ends_mono (publishAndCount_ends (Bool.eq_false_of_not_eq_true connected)) (fun _ _ => id) ?_
    exact fun exception after handled => wrapException_ends handled exception

end

end PerfTestProof
