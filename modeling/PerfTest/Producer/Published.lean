import PerfTest.Producer.ThreadSteps
import PerfTest.Systems.Runs

namespace PerfTestModel

namespace ProducerThread

def handled (settings : ProducerSettings) (calls : List PublishCall) : ProducerThread :=
  calls.foldl (fun thread call => (handlePublish settings call thread).2) initial

end ProducerThread

end PerfTestModel

namespace PerfTestProof

open PerfTestModel Systems Program ProducerThread

structure CountsSent (thread : ProducerThread) : Prop where
  published : thread.published = thread.sent
  msgCount : thread.msgCount = thread.sent

structure CountsRightly (settings : ProducerSettings) (thread : ProducerThread) (call : PublishCall) : Prop where
  sent : sends settings call = countsMessage settings call
  committed : countsMessage settings call = true →
    commitDue settings (Java.int (thread.msgCount + 1)) = true → commitThrows settings call = false
  fits : countsMessage settings call = true → thread.msgCount ≠ 2 ^ 31 - 1

section

variable {settings : ProducerSettings} {call : PublishCall} {thread after : ProducerThread}

theorem handled_append (calls : List PublishCall) :
    Handled settings call (handled settings calls) (handled settings (calls ++ [call])) := by
  have appended : handled settings (calls ++ [call]) = (handlePublish settings call (handled settings calls)).2 :=
    List.foldl_append
  rw [appended]
  exact after_of_ends handlePublish_ends

theorem handled_bounded (calls : List PublishCall) : (handled settings calls).msgCount < 2 ^ 31 := by
  induction calls using List.reverseRecOn with
  | nil => exact Int.pow_pos (by decide)
  | append_singleton calls call ih =>
    rw [(handled_append calls).msgCount]
    split
    · exact Int.bmod_lt (by decide)
    · exact ih

theorem countsRightly_uncounted (uncounted : countsMessage settings call = false) :
    CountsRightly settings thread call ↔ sends settings call = false := by
  constructor
  · intro right
    exact right.sent.trans uncounted
  · intro unsent
    have never : countsMessage settings call ≠ true := ne_true_of_eq_false uncounted
    exact ⟨unsent.trans uncounted.symm, fun counts => absurd counts never, fun counts => absurd counts never⟩

theorem countsRightly_counted (counts : countsMessage settings call = true) :
    CountsRightly settings thread call ↔ sends settings call = true ∧
      (commitDue settings (Java.int (thread.msgCount + 1)) && commitThrows settings call) = false ∧
      thread.msgCount ≠ 2 ^ 31 - 1 := by
  rw [Bool.and_eq_false_imp]
  constructor
  · intro right
    exact ⟨right.sent.trans counts, right.committed counts, right.fits counts⟩
  · rintro ⟨sent, committed, fits⟩
    exact ⟨sent.trans counts.symm, fun _ => committed, fun _ => fits⟩

theorem countsSent_uncounted (counted : CountsSent thread) (handled : Handled settings call thread after)
    (uncounted : countsMessage settings call = false) : CountsSent after ↔ sends settings call = false := by
  have sent := handled.sent
  have counting := handled.msgCount
  have publishing := handled.published
  rw [uncounted, Bool.false_and] at publishing
  rw [uncounted] at counting
  constructor
  · intro right
    have same := right.published
    rw [publishing, sent, counted.published] at same
    cases sending : sends settings call with
    | false => rfl
    | true =>
      rw [sending] at same
      exact absurd same (Nat.ne_of_lt (Nat.lt_succ_self _))
  · intro unsent
    rw [unsent] at sent
    exact ⟨publishing.trans (counted.published.trans sent.symm),
      counting.trans (counted.msgCount.trans (by rw [sent]; rfl))⟩

/-- After a message that is counted, the count is right if it was sent and the count did not overflow. -/
theorem msgCount_counted (same : thread.msgCount = thread.sent) (bounded : thread.msgCount < 2 ^ 31)
    (handled : Handled settings call thread after) (counts : countsMessage settings call = true) :
    after.msgCount = after.sent ↔ sends settings call = true ∧ thread.msgCount ≠ 2 ^ 31 - 1 := by
  have fits := Java.int_succ (by omega) bounded
  rw [handled.msgCount, counts, if_pos rfl, handled.sent, same, Nat.cast_add]
  rw [same] at fits
  by_cases last : (thread.sent : ℤ) = 2 ^ 31 - 1
  · have wrapped : Java.int (2 ^ 31 - 1 + 1) < 0 := by decide
    refine iff_of_false (fun right => ?_) fun right => right.2 last
    rw [last] at right
    omega
  · rw [fits.mpr last, and_iff_left last]
    cases sends settings call with
    | false =>
      simp only [Bool.toNat_false, Bool.false_eq_true, iff_false]
      omega
    | true => simp only [Bool.toNat_true, Nat.cast_one]

theorem published_counted (same : thread.published = thread.sent) (handled : Handled settings call thread after)
    (counts : countsMessage settings call = true) (sending : sends settings call = true) :
    after.published = after.sent ↔
      (commitDue settings (Java.int (thread.msgCount + 1)) && commitThrows settings call) = false := by
  rw [handled.published, handled.sent, same, counts, sending, Bool.true_and, Nat.add_left_cancel_iff]
  cases commitDue settings (Java.int (thread.msgCount + 1)) && commitThrows settings call with
  | false => exact iff_of_true rfl rfl
  | true => exact iff_of_false Nat.zero_ne_one nofun

theorem countsSent_handled (counted : CountsSent thread) (bounded : thread.msgCount < 2 ^ 31)
    (handled : Handled settings call thread after) : CountsSent after ↔ CountsRightly settings thread call := by
  cases counts : countsMessage settings call with
  | false => rw [countsRightly_uncounted counts, countsSent_uncounted counted handled counts]
  | true =>
    have count := msgCount_counted counted.msgCount bounded handled counts
    rw [countsRightly_counted counts]
    constructor
    · intro right
      obtain ⟨sending, fits⟩ := count.mp right.msgCount
      exact ⟨sending, (published_counted counted.published handled counts sending).mp right.published, fits⟩
    · rintro ⟨sending, committed, fits⟩
      exact ⟨(published_counted counted.published handled counts sending).mpr committed, count.mpr ⟨sending, fits⟩⟩

/-- The metric and the count are right after every call exactly if each call counts what it sends. -/
theorem published_truthful_iff (settings : ProducerSettings) (calls : List PublishCall) :
    (∀ earlier, earlier <+: calls → CountsSent (handled settings earlier)) ↔
      EachStep (fun earlier call => CountsRightly settings (handled settings earlier) call) calls := by
  induction calls using List.reverseRecOn with
  | nil =>
    refine iff_of_true (fun earlier begins => ?_) eachStep_nil
    rw [List.prefix_nil.mp begins]
    exact ⟨rfl, rfl⟩
  | append_singleton calls call ih =>
    rw [eachStep_append, ← ih]
    constructor
    · intro counted
      have before (earlier : List PublishCall) (begins : earlier <+: calls) : CountsSent (handled settings earlier) :=
        counted earlier (begins.trans (List.prefix_append _ _))
      refine ⟨before, ?_⟩
      rw [← countsSent_handled (before calls List.prefix_rfl) (handled_bounded calls) (handled_append calls)]
      exact counted _ List.prefix_rfl
    · rintro ⟨before, last⟩ earlier begins
      rcases List.prefix_concat_iff.mp begins with whole | begins
      · rw [whole]
        exact (countsSent_handled (before calls List.prefix_rfl) (handled_bounded calls)
          (handled_append calls)).mpr last
      · exact before earlier begins

end

def recoverySettings : ProducerSettings := ⟨⟨0, false, none⟩, 0, true, 0⟩

def brokenWrite : PublishCall := ⟨false, false, .acquired, .failed false (.socketException "Broken pipe"), none⟩

/-- A write that fails with a broken connection is counted, as if its message had been sent. -/
theorem published_overcounted : ¬ CountsSent (handled recoverySettings [brokenWrite]) := by
  intro counted
  exact absurd counted.published (by decide)

end PerfTestProof
