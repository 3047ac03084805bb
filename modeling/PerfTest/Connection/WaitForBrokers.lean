import Mathlib.Data.Finset.Card
import PerfTest.Connection.BrokersUp
import PerfTest.Systems.Runs

namespace PerfTestModel

inductive ConnectionTest where
  | refused
  | opened (closes : Bool)
  deriving DecidableEq, Repr

/-- In a pass, the iterator has left the URIs `kept` in the collection, and `rest` is ahead of it. -/
inductive BrokerPhase where
  | waiting (tested : List String)
  | testing (kept rest : List String)
  | returned (result : Bool)
  deriving DecidableEq, Repr

structure BrokersWait where
  uris : List String
  connected : List String
  elapsed : ℤ
  phase : BrokerPhase
  deriving DecidableEq, Repr

inductive WaitStep where
  | readTime (elapsed : ℤ)
  | test (outcome : ConnectionTest)
  deriving DecidableEq, Repr

def nextPhase (kept : List String) : List String → BrokerPhase
  | [] => .waiting kept
  | uri :: rest => .testing kept (uri :: rest)

namespace BrokersWait

def initial (startUpTimeout : ℤ) (uris : List String) : BrokersWait :=
  ⟨uris, [], 0, if startUpTimeout ≤ 0 ∨ uris = [] then .returned true else .waiting uris⟩

/-- The catch clause also takes what `close` throws, which supersedes the return. By then `uris` is changed, and the
    iterator has not removed the URI. -/
def test (serversUpLimit : ℤ) (kept : List String) (uri : String) (rest : List String) (state : BrokersWait) :
    ConnectionTest → BrokersWait
  | .refused => { state with phase := nextPhase (kept ++ [uri]) rest }
  | .opened closes =>
    let connected := state.connected ++ [uri]
    if (connected.length : ℤ) = serversUpLimit then
      { state with
        uris := connected
        connected := connected
        phase := if closes then .returned true else nextPhase (kept ++ [uri]) rest }
    else { state with connected := connected, phase := nextPhase kept rest }

def step (startUpTimeout serversUpLimit : ℤ) (state : BrokersWait) : WaitStep → Option BrokersWait
  | .readTime elapsed =>
    match state.phase with
    | .waiting tested =>
      some { state with
        elapsed := elapsed
        phase := if elapsed < startUpTimeout then nextPhase [] tested else .returned false }
    | _ => none
  | .test outcome =>
    match state.phase with
    | .testing kept (uri :: rest) => some (state.test serversUpLimit kept uri rest outcome)
    | _ => none

end BrokersWait

end PerfTestModel

namespace PerfTestProof

open PerfTestModel Systems

structure WaitsForBrokers (startUpTimeout serversUpLimit : ℤ) (original : List String) (state : BrokersWait) :
    Prop where
  soon : serversUpLimit ≤ state.connected.toFinset.card → state.phase = .returned true
  up : state.phase = .returned true → (state.connected.toFinset.card : ℤ) = serversUpLimit ∧
    state.uris.Nodup ∧ state.uris.toFinset = state.connected.toFinset
  down : state.phase = .returned false → startUpTimeout ≤ state.elapsed ∧
    (state.connected.toFinset.card : ℤ) < serversUpLimit ∧ state.uris = original

def ClosesAtLimit (serversUpLimit : ℤ) (state : BrokersWait) : WaitStep → Bool
  | .test (.opened false) => ((state.connected.length + 1 : ℕ) : ℤ) ≠ serversUpLimit
  | _ => true

structure BelowLimit (serversUpLimit : ℤ) (original tested : List String) (state : BrokersWait) : Prop where
  unchanged : state.uris = original
  perm : (state.connected ++ tested).Perm original
  below : (state.connected.length : ℤ) < serversUpLimit

structure ReachesLimit (serversUpLimit : ℤ) (state : BrokersWait) : Prop where
  distinct : state.connected.Nodup
  kept : state.uris = state.connected
  reached : (state.connected.length : ℤ) = serversUpLimit

def WaitSound (startUpTimeout serversUpLimit : ℤ) (original : List String) (state : BrokersWait) : Prop :=
  match state.phase with
  | .waiting tested => BelowLimit serversUpLimit original tested state
  | .testing kept rest => BelowLimit serversUpLimit original (kept ++ rest) state
  | .returned true => ReachesLimit serversUpLimit state
  | .returned false => startUpTimeout ≤ state.elapsed ∧ ∃ tested, BelowLimit serversUpLimit original tested state

def PastLimit (serversUpLimit : ℤ) (state : BrokersWait) : Prop :=
  serversUpLimit ≤ state.connected.toFinset.card ∧ state.phase ≠ .returned true

section

variable {startUpTimeout serversUpLimit : ℤ} {original tested kept rest : List String} {uri : String}
  {state next : BrokersWait} {label : WaitStep}

theorem nextPhase_ne_returned (kept rest : List String) (result : Bool) : nextPhase kept rest ≠ .returned result := by
  cases rest <;> exact BrokerPhase.noConfusion

theorem step_cases (stepped : state.step startUpTimeout serversUpLimit label = some next) :
    (∃ elapsed tested, label = .readTime elapsed ∧ state.phase = .waiting tested ∧
      next = { state with
        elapsed := elapsed
        phase := if elapsed < startUpTimeout then nextPhase [] tested else .returned false }) ∨
    (∃ outcome kept uri rest, label = .test outcome ∧ state.phase = .testing kept (uri :: rest) ∧
      next = state.test serversUpLimit kept uri rest outcome) := by
  unfold BrokersWait.step at stepped
  cases label with
  | readTime elapsed =>
    left
    dsimp only at stepped
    split at stepped
    · rename_i tested at_
      exact ⟨elapsed, tested, rfl, at_, (Option.some.inj stepped).symm⟩
    · cases stepped
  | test outcome =>
    right
    dsimp only at stepped
    split at stepped
    · rename_i kept uri rest at_
      exact ⟨outcome, kept, uri, rest, rfl, at_, (Option.some.inj stepped).symm⟩
    · cases stepped

theorem test_at_limit (closes : Bool) (limit : ((state.connected ++ [uri]).length : ℤ) = serversUpLimit) :
    state.test serversUpLimit kept uri rest (.opened closes) =
      { state with
        uris := state.connected ++ [uri]
        connected := state.connected ++ [uri]
        phase := if closes then .returned true else nextPhase (kept ++ [uri]) rest } := if_pos limit

theorem test_off_limit (closes : Bool) (limit : ((state.connected ++ [uri]).length : ℤ) ≠ serversUpLimit) :
    state.test serversUpLimit kept uri rest (.opened closes) =
      { state with
        connected := state.connected ++ [uri]
        phase := nextPhase kept rest } := if_neg limit

theorem BelowLimit.sound (kept rest : List String)
    (below : BelowLimit serversUpLimit original (kept ++ rest) state)
    (phase : state.phase = nextPhase kept rest) : WaitSound startUpTimeout serversUpLimit original state := by
  unfold WaitSound
  cases rest with
  | nil =>
    rw [phase]
    rwa [List.append_nil] at below
  | cons uri rest =>
    rw [phase]
    exact below

theorem waitSound_test (distinct : original.Nodup) {outcome : ConnectionTest}
    (below : BelowLimit serversUpLimit original (kept ++ uri :: rest) state)
    (closes : ClosesAtLimit serversUpLimit state (.test outcome) = true) :
    WaitSound startUpTimeout serversUpLimit original (state.test serversUpLimit kept uri rest outcome) := by
  have moved : ((state.connected ++ [uri]) ++ (kept ++ rest)).Perm original := by
    refine List.Perm.trans ?_ below.perm
    have behind : (uri :: (kept ++ rest)).Perm (kept ++ uri :: rest) := List.perm_middle.symm
    rw [List.append_assoc]
    exact behind.append_left state.connected
  cases outcome with
  | refused =>
    refine BelowLimit.sound (kept ++ [uri]) rest ⟨below.unchanged, ?_, below.below⟩ rfl
    rw [List.append_assoc]
    exact below.perm
  | opened closed =>
    by_cases limit : ((state.connected ++ [uri]).length : ℤ) = serversUpLimit
    · rw [test_at_limit closed limit]
      cases closed with
      | true => exact ⟨(moved.nodup_iff.mpr distinct).of_append_left, rfl, limit⟩
      | false =>
        rw [List.length_append] at limit
        exact absurd limit (of_decide_eq_true closes)
    · rw [test_off_limit closed limit]
      refine BelowLimit.sound kept rest ⟨below.unchanged, moved, ?_⟩ rfl
      have before := below.below
      rw [List.length_append, List.length_singleton] at limit ⊢
      omega

theorem waitSound_step (distinct : original.Nodup) (sound : WaitSound startUpTimeout serversUpLimit original state)
    (stepped : state.step startUpTimeout serversUpLimit label = some next)
    (closes : ClosesAtLimit serversUpLimit state label = true) :
    WaitSound startUpTimeout serversUpLimit original next := by
  unfold WaitSound at sound
  obtain ⟨elapsed, tested, rfl, phase, rfl⟩ | ⟨outcome, kept, uri, rest, rfl, phase, rfl⟩ := step_cases stepped
  · rw [phase] at sound
    by_cases early : elapsed < startUpTimeout
    · refine BelowLimit.sound [] tested ⟨sound.unchanged, sound.perm, sound.below⟩ ?_
      exact if_pos early
    · unfold WaitSound
      rw [if_neg early]
      exact ⟨not_lt.mp early, tested, sound.unchanged, sound.perm, sound.below⟩
  · rw [phase] at sound
    exact waitSound_test distinct sound closes

theorem pastLimit_of_exception (distinct : original.Nodup)
    (sound : WaitSound startUpTimeout serversUpLimit original state)
    (stepped : state.step startUpTimeout serversUpLimit label = some next)
    (throws : ClosesAtLimit serversUpLimit state label = false) : PastLimit serversUpLimit next := by
  unfold WaitSound at sound
  obtain ⟨elapsed, tested, rfl, phase, rfl⟩ | ⟨outcome, kept, uri, rest, rfl, phase, rfl⟩ := step_cases stepped
  · cases throws
  · rw [phase] at sound
    rcases outcome with _ | _ | _
    · cases throws
    · have limit : ((state.connected ++ [uri]).length : ℤ) = serversUpLimit := by
        rw [List.length_append]
        exact not_not.mp (of_decide_eq_false throws)
      have part : (state.connected ++ [uri]).Nodup := by
        refine List.Nodup.sublist ?_ (sound.perm.nodup_iff.mpr distinct)
        exact List.Sublist.append_left (List.singleton_sublist.mpr (by simp)) _
      rw [test_at_limit false limit]
      refine ⟨?_, nextPhase_ne_returned _ _ _⟩
      rw [List.toFinset_card_of_nodup part, limit]
    · cases throws

theorem pastLimit_step (past : PastLimit serversUpLimit state)
    (stepped : state.step startUpTimeout serversUpLimit label = some next) : PastLimit serversUpLimit next := by
  obtain ⟨reached, going⟩ := past
  obtain ⟨elapsed, tested, rfl, phase, rfl⟩ | ⟨outcome, kept, uri, rest, rfl, phase, rfl⟩ := step_cases stepped
  · refine ⟨reached, ?_⟩
    dsimp only
    split
    · exact nextPhase_ne_returned _ _ _
    · exact fun same => Bool.noConfusion (BrokerPhase.returned.inj same)
  · cases outcome with
    | refused => exact ⟨reached, nextPhase_ne_returned _ _ _⟩
    | opened closed =>
      have most := List.toFinset_card_le state.connected
      have above : ((state.connected ++ [uri]).length : ℤ) ≠ serversUpLimit := by
        rw [List.length_append, List.length_singleton]
        omega
      rw [test_off_limit closed above]
      refine ⟨?_, nextPhase_ne_returned _ _ _⟩
      have grows : state.connected.toFinset.card ≤ (state.connected ++ [uri]).toFinset.card := by
        rw [List.toFinset_append]
        exact Finset.card_le_card Finset.subset_union_left
      dsimp only
      omega

theorem BelowLimit.card (below : BelowLimit serversUpLimit original tested state) :
    (state.connected.toFinset.card : ℤ) < serversUpLimit := by
  have most := List.toFinset_card_le state.connected
  have before := below.below
  omega

theorem BelowLimit.waits (below : BelowLimit serversUpLimit original tested state)
    (going : ∀ result, state.phase ≠ .returned result) :
    WaitsForBrokers startUpTimeout serversUpLimit original state where
  soon := fun enough => absurd enough (not_le.mpr below.card)
  up := fun returned => absurd returned (going true)
  down := fun returned => absurd returned (going false)

theorem ReachesLimit.waits (reaches : ReachesLimit serversUpLimit state) (phase : state.phase = .returned true) :
    WaitsForBrokers startUpTimeout serversUpLimit original state where
  soon := fun _ => phase
  up := by
    intro _
    refine ⟨?_, reaches.kept ▸ reaches.distinct, by rw [reaches.kept]⟩
    rw [List.toFinset_card_of_nodup reaches.distinct]
    exact reaches.reached
  down := by
    intro returned
    rw [phase] at returned
    cases returned

theorem WaitSound.waits (sound : WaitSound startUpTimeout serversUpLimit original state) :
    WaitsForBrokers startUpTimeout serversUpLimit original state := by
  unfold WaitSound at sound
  split at sound
  · rename_i tested phase
    exact sound.waits fun result returned => BrokerPhase.noConfusion (phase.symm.trans returned)
  · rename_i kept rest phase
    exact sound.waits fun result returned => BrokerPhase.noConfusion (phase.symm.trans returned)
  · rename_i phase
    exact sound.waits phase
  · rename_i phase
    obtain ⟨late, tested, below⟩ := sound
    refine ⟨fun enough => absurd enough (not_le.mpr below.card), fun returned => ?_, fun _ => ?_⟩
    · rw [phase] at returned
      cases returned
    · exact ⟨late, below.card, below.unchanged⟩

end

/-- For all outcomes of the tests, exactly if the connection that reaches the limit closes without an exception. -/
theorem waits_for_brokers_iff (startUpTimeout serversUpLimit : ℤ) (uris : List String) (distinct : uris.Nodup)
    (timeout : 0 < startUpTimeout) (limit : 0 < serversUpLimit) (within : serversUpLimit ≤ uris.length)
    (labels : List WaitStep) (final : BrokersWait)
    (executed : run (BrokersWait.step startUpTimeout serversUpLimit) (.initial startUpTimeout uris) labels =
      some final) :
    WaitsForBrokers startUpTimeout serversUpLimit uris final ↔
      run (restrict (ClosesAtLimit serversUpLimit) (BrokersWait.step startUpTimeout serversUpLimit))
        (.initial startUpTimeout uris) labels = some final := by
  have listed : uris ≠ [] := by
    rintro rfl
    rw [List.length_nil] at within
    omega
  refine run_restrict_iff _ (WaitSound startUpTimeout serversUpLimit uris) (PastLimit serversUpLimit)
    (fun _ _ _ => waitSound_step distinct) (fun _ _ _ => pastLimit_of_exception distinct)
    (fun _ _ _ => pastLimit_step) (fun _ => WaitSound.waits) ?_ ?_ executed
  · intro state past waits
    exact past.2 (waits.soon past.1)
  · unfold WaitSound BrokersWait.initial
    rw [if_neg (by simp [listed, timeout])]
    exact ⟨rfl, List.Perm.refl _, limit⟩

def aOrB : List String := ["amqp://a", "amqp://b"]

def neverReturnsTrue : List WaitStep :=
  [.readTime 0, .test (.opened false), .test .refused, .readTime 1, .test (.opened true), .test .refused, .readTime 10]

theorem false_after_return_true :
    run (BrokersWait.step 10 1) (.initial 10 aOrB) neverReturnsTrue =
        some ⟨["amqp://a"], ["amqp://a", "amqp://a"], 10, .returned false⟩ ∧
      ¬ WaitsForBrokers 10 1 aOrB ⟨["amqp://a"], ["amqp://a", "amqp://a"], 10, .returned false⟩ := by
  refine ⟨by decide +kernel, fun waits => ?_⟩
  have unchanged := (waits.down rfl).2.2
  revert unchanged
  decide

theorem waits_for_b : WaitsForBrokers 10 1 aOrB ⟨["amqp://b"], ["amqp://b"], 0, .returned true⟩ :=
  (waits_for_brokers_iff 10 1 aOrB (by decide) (by decide) (by decide) (by decide)
    [.readTime 0, .test .refused, .test (.opened true)] _ (by decide +kernel)).mpr (by decide +kernel)

section

variable {startUpTimeout serversUpLimit elapsed : ℤ} {uris connected tested after : List String} {result : Bool}

def afterPass (uris : List String) (elapsed : ℤ) (kept : List String) : PassOutcome → BrokersWait
  | .enough connected => ⟨connected, connected, elapsed, .returned true⟩
  | .again tested connected => ⟨uris, connected, elapsed, .waiting (kept ++ tested)⟩

/-- A pass is a run whose test connections all close. -/
theorem testPass_simulated (startUpTimeout serversUpLimit elapsed : ℤ) (uris : List String) (up : ℕ → Bool)
    (position : ℕ) (kept tested connected : List String) :
    ∃ labels, run (restrict (ClosesAtLimit serversUpLimit) (BrokersWait.step startUpTimeout serversUpLimit))
      ⟨uris, connected, elapsed, nextPhase kept tested⟩ labels =
        some (afterPass uris elapsed kept (testPass serversUpLimit up position tested connected)) := by
  induction tested generalizing position kept connected with
  | nil =>
    refine ⟨[], ?_⟩
    rw [testPass, afterPass, List.append_nil]
    rfl
  | cons uri rest ih =>
    rw [testPass]
    split
    · split
      · rename_i limit
        refine ⟨[.test (.opened true)], run_cons.mpr ⟨_, restrict_some.mpr ⟨rfl, rfl⟩, ?_⟩⟩
        rw [test_at_limit true limit]
        rfl
      · rename_i limit
        obtain ⟨labels, executed⟩ := ih (position + 1) kept (connected ++ [uri])
        refine ⟨.test (.opened true) :: labels, run_cons.mpr ⟨_, restrict_some.mpr ⟨rfl, rfl⟩, ?_⟩⟩
        rw [test_off_limit true limit]
        exact executed
    · obtain ⟨labels, executed⟩ := ih (position + 1) (kept ++ [uri]) connected
      refine ⟨.test .refused :: labels, run_cons.mpr ⟨_, restrict_some.mpr ⟨rfl, rfl⟩, executed.trans ?_⟩⟩
      split
      · rename_i same
        rw [same]
        rfl
      · rename_i same
        rw [same, afterPass, afterPass, List.append_assoc]
        rfl

theorem waitForBrokers_simulated {passes : List ConnectionPass} (elapsed : ℤ)
    (waited : waitForBrokers startUpTimeout serversUpLimit uris passes tested connected = some (result, after)) :
    ∃ labels final, run (restrict (ClosesAtLimit serversUpLimit) (BrokersWait.step startUpTimeout serversUpLimit))
      ⟨uris, connected, elapsed, .waiting tested⟩ labels = some final ∧
        final.phase = .returned result ∧ final.uris = after := by
  induction passes generalizing tested connected elapsed with
  | nil => cases waited
  | cons pass passes ih =>
    rw [waitForBrokers] at waited
    split at waited
    · rename_i early
      obtain ⟨labels, executed⟩ :=
        testPass_simulated startUpTimeout serversUpLimit pass.elapsed uris pass.up 0 [] tested connected
      have started : run (restrict (ClosesAtLimit serversUpLimit) (BrokersWait.step startUpTimeout serversUpLimit))
          ⟨uris, connected, elapsed, .waiting tested⟩ (.readTime pass.elapsed :: labels) =
            some (afterPass uris pass.elapsed [] (testPass serversUpLimit pass.up 0 tested connected)) := by
        refine run_cons.mpr ⟨_, restrict_some.mpr ⟨rfl, rfl⟩, ?_⟩
        rw [if_pos early]
        exact executed
      split at waited
      · rename_i same
        cases waited
        rw [same] at started
        exact ⟨_, _, started, rfl, rfl⟩
      · rename_i left more same
        rw [same] at started
        obtain ⟨later, final, rest, returned, kept⟩ := ih pass.elapsed waited
        exact ⟨_, final, run_append_some.mpr ⟨_, started, rest⟩, returned, kept⟩
    · rename_i late
      cases waited
      refine ⟨[.readTime pass.elapsed], _, run_cons.mpr ⟨_, restrict_some.mpr ⟨rfl, rfl⟩, rfl⟩, ?_, rfl⟩
      exact if_neg late

theorem wait_simulated {passes : List ConnectionPass}
    (waited : waitUntilBrokerAvailableIfNecessary startUpTimeout serversUpLimit passes uris = some (result, after)) :
    ∃ labels final, run (restrict (ClosesAtLimit serversUpLimit) (BrokersWait.step startUpTimeout serversUpLimit))
      (.initial startUpTimeout uris) labels = some final ∧ final.phase = .returned result ∧ final.uris = after := by
  unfold BrokersWait.initial
  rw [waitUntilBrokerAvailableIfNecessary] at waited
  split at waited
  · rename_i unnecessary
    cases waited
    rw [if_pos unnecessary]
    exact ⟨[], _, rfl, rfl, rfl⟩
  · rename_i necessary
    rw [if_neg necessary]
    exact waitForBrokers_simulated 0 waited

end

end PerfTestProof
