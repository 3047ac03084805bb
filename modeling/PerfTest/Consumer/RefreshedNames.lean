import PerfTest.Consumer.Subscriptions
import PerfTest.Java.Primitives

namespace PerfTestModel

open TopologyRecording

inductive PollingLoop
  | started
  | versionRead (version : ℤ)
  | comparing (version : ℤ) (queues : List String)
  | refreshing (version : ℤ) (queues : List String)
  | listRead (version : ℤ) (queues : List String)
  deriving DecidableEq, Repr

def PollingLoop.read : PollingLoop → Option (ℤ × List String)
  | .started | .versionRead _ => none
  | .comparing version queues | .refreshing version queues | .listRead version queues => some (version, queues)

inductive NamesStep
  | readVersion
  | readQueueNames
  | compareVersions
  | storeQueueNames (recording : TopologyRecording) (records : QueueRef → RecordedQueue)
  | incrementVersion

/-- `recovering` is the number of `recover` calls between their two steps. -/
structure PolledNames where
  initialQueueNames : List String
  queueNames : List String
  queueNamesVersion : ℤ
  recovering : ℕ
  loop : PollingLoop
  deriving DecidableEq, Repr

namespace PolledNames

def initial (queueNames : List String) : PolledNames := ⟨queueNames, queueNames, 0, 0, .started⟩

def step (state : PolledNames) : NamesStep → Option PolledNames
  | .readVersion =>
    match state.loop with
    | .started => some { state with loop := .versionRead state.queueNamesVersion }
    | .listRead _ queues => some { state with loop := .comparing state.queueNamesVersion queues }
    | _ => none
  | .readQueueNames =>
    match state.loop with
    | .versionRead version => some { state with loop := .comparing version state.queueNames }
    | .refreshing version _ => some { state with loop := .listRead version state.queueNames }
    | _ => none
  | .compareVersions =>
    match state.loop with
    | .comparing version queues =>
      some { state with
        loop := if version ≠ state.queueNamesVersion then .refreshing version queues else .comparing version queues }
    | _ => none
  | .storeQueueNames recording records =>
    some { state with
      queueNames := state.initialQueueNames.map (queueName recording records)
      recovering := state.recovering + 1 }
  | .incrementVersion =>
    if 0 < state.recovering then
      some { state with
        queueNamesVersion := Java.long (state.queueNamesVersion + 1)
        recovering := state.recovering - 1 }
    else none

end PolledNames

end PerfTestModel

namespace PerfTestProof

open PerfTestModel PolledNames Systems

def PollsCurrentNames (state : PolledNames) : Prop :=
  ∀ version queues, state.loop.read = some (version, queues) → version = state.queueNamesVersion →
    state.recovering = 0 → queues = state.queueNames

/-- The list that the loop has read is still the shared one when it reads the version, or the version will be
    incremented once more; and the version does not come round to the one of the loop. -/
def RefreshesInTime (state : PolledNames) : NamesStep → Bool
  | .readVersion =>
    match state.loop with
    | .listRead _ queues => queues = state.queueNames || 0 < state.recovering
    | _ => true
  | .incrementVersion =>
    state.loop.read.all fun read => Java.long (state.queueNamesVersion + 1) ≠ read.1
  | .readQueueNames | .compareVersions | .storeQueueNames .. => true

theorem PollsCurrentNames.step {state next : PolledNames} {label : NamesStep} (current : PollsCurrentNames state)
    (inTime : RefreshesInTime state label = true) (stepped : state.step label = some next) :
    PollsCurrentNames next := by
  cases label with
  | readVersion =>
    unfold PolledNames.step at stepped
    unfold RefreshesInTime at inTime
    dsimp only at stepped inTime
    cases loop : state.loop with
    | started =>
      rw [loop] at stepped
      obtain rfl := Option.some.inj stepped
      rintro version queues ⟨⟩
    | listRead version queues =>
      rw [loop] at stepped inTime
      obtain rfl := Option.some.inj stepped
      rintro _ _ ⟨⟩ - settled
      rcases Bool.or_eq_true_iff.mp inTime with same | recovers
      · exact of_decide_eq_true same
      · exact absurd settled (of_decide_eq_true recovers).ne'
    | versionRead _ | comparing _ _ | refreshing _ _ => rw [loop] at stepped; cases stepped
  | readQueueNames =>
    unfold PolledNames.step at stepped
    dsimp only at stepped
    cases loop : state.loop with
    | versionRead version | refreshing version _ =>
      rw [loop] at stepped
      obtain rfl := Option.some.inj stepped
      rintro _ _ ⟨⟩ - -
      rfl
    | started | comparing _ _ | listRead _ _ => rw [loop] at stepped; cases stepped
  | compareVersions =>
    unfold PolledNames.step at stepped
    dsimp only at stepped
    cases loop : state.loop with
    | comparing version queues =>
      rw [loop] at stepped
      obtain rfl := Option.some.inj stepped
      have same : (if version ≠ state.queueNamesVersion then PollingLoop.refreshing version queues
          else .comparing version queues).read = state.loop.read := by
        rw [loop]
        split <;> rfl
      intro own names read
      exact current own names (same.symm.trans read)
    | started | versionRead _ | refreshing _ _ | listRead _ _ => rw [loop] at stepped; cases stepped
  | storeQueueNames recording records =>
    obtain rfl := Option.some.inj stepped
    intro version queues _ _ settled
    exact absurd settled (Nat.succ_ne_zero _)
  | incrementVersion =>
    obtain ⟨-, result⟩ := Option.ite_none_right_eq_some.mp stepped
    obtain rfl := Option.some.inj result
    intro version queues read same
    unfold RefreshesInTime at inTime
    dsimp only at read same inTime
    rw [read, Option.all_some] at inTime
    exact absurd same.symm (of_decide_eq_true inTime)

/-- The loop ends up on the current names in every run in which no whole recovery goes by between its reads. -/
theorem polls_current_names {queueNames : List String} {steps : List NamesStep} {final : PolledNames}
    (executed : run (restrict RefreshesInTime PolledNames.step) (PolledNames.initial queueNames) steps = some final) :
    PollsCurrentNames final := by
  refine run_invariant PollsCurrentNames ?_ ?_ executed
  · intro state label next current stepped
    obtain ⟨inTime, stepped⟩ := restrict_some.mp stepped
    exact current.step inTime stepped
  · rintro version queues ⟨⟩

def pollingRecording : TopologyRecording := (TopologyRecording.empty true false).recordQueue "amq.gen-1" 0

def recoverAs (name : String) : List NamesStep :=
  [.storeQueueNames pollingRecording fun _ => ⟨name, false, true, true, [], true⟩, .incrementVersion]

def loopStarts : List NamesStep := [.readVersion, .readQueueNames]

def refreshBetween : List NamesStep :=
  loopStarts ++ recoverAs "amq.gen-2" ++ [.compareVersions, .readQueueNames] ++ (recoverAs "amq.gen-3").take 1 ++
    [.readVersion] ++ (recoverAs "amq.gen-3").drop 1 ++ [.compareVersions, .readQueueNames, .readVersion]

theorem refresh_between_polls_current_names :
    ∃ final, run (restrict RefreshesInTime PolledNames.step) (PolledNames.initial ["amq.gen-1"]) refreshBetween =
        some final ∧ final.loop = .comparing 2 ["amq.gen-3"] ∧ PollsCurrentNames final := by
  cases executed : run (restrict RefreshesInTime PolledNames.step) (PolledNames.initial ["amq.gen-1"])
      refreshBetween with
  | none => exact absurd (congrArg Option.isSome executed) (by decide +kernel)
  | some final =>
    have loop := congrArg (Option.map PolledNames.loop) executed
    have reached : (run (restrict RefreshesInTime PolledNames.step) (PolledNames.initial ["amq.gen-1"])
        refreshBetween).map PolledNames.loop = some (.comparing 2 ["amq.gen-3"]) := by decide +kernel
    exact ⟨final, rfl, Option.some.inj (loop.symm.trans reached), polls_current_names executed⟩

/-- A second recovery goes by between the two reads: the loop has the version of the third name and the second
    name, and its next comparison finds nothing to refresh. -/
theorem stale_names_with_current_version :
    ∃ final, run PolledNames.step (PolledNames.initial ["amq.gen-1"])
        (loopStarts ++ recoverAs "amq.gen-2" ++ [.compareVersions, .readQueueNames] ++ recoverAs "amq.gen-3" ++
          [.readVersion, .compareVersions]) = some final ∧
      final.loop = .comparing 2 ["amq.gen-2"] ∧ final.queueNames = ["amq.gen-3"] ∧ ¬ PollsCurrentNames final := by
  refine ⟨⟨["amq.gen-1"], ["amq.gen-3"], 2, 0, .comparing 2 ["amq.gen-2"]⟩, by decide +kernel, rfl, rfl, ?_⟩
  intro current
  exact absurd (current 2 ["amq.gen-2"] rfl rfl rfl) (by decide)

end PerfTestProof
