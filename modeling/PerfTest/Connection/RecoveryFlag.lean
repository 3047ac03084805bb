import PerfTest.Systems.Runs

namespace PerfTestModel

inductive RecoveryStage where
  | started
  | handling
  | ended
  deriving DecidableEq, Repr

structure ConnectionRecovery where
  began : ℕ
  stage : RecoveryStage
  deriving DecidableEq, Repr

/-- The flag of `setupRecoveryProcess`, with what happened to its connection. A producer that found the
    flag down keeps the number of shutdowns until then, and is going to publish. -/
structure RecoveryProcess where
  recoveryInProgress : Bool
  shutdowns : ℕ
  recoveries : List ConnectionRecovery
  publishing : Option ℕ
  deriving DecidableEq, Repr

inductive RecoveryEvent where
  | shutdown (recoverable : Bool)
  | handleRecoveryStarted
  | handleRecovery (recovery : ℕ)
  | recovered (recovery : ℕ)
  | handlePublish
  | publish
  deriving DecidableEq, Repr

namespace RecoveryProcess

def initial : RecoveryProcess := ⟨false, 0, [], none⟩

def isRecoverying (process : RecoveryProcess) : Bool := process.recoveryInProgress

def shutdown (recoverable : Bool) (process : RecoveryProcess) : RecoveryProcess :=
  if recoverable then { process with recoveryInProgress := true, shutdowns := process.shutdowns + 1 }
  else process

def handleRecoveryStarted (process : RecoveryProcess) : Option RecoveryProcess :=
  if process.shutdowns = 0 then none
  else some { process with
    recoveryInProgress := true
    recoveries := process.recoveries ++ [⟨process.shutdowns, .started⟩] }

def handleRecovery (recovery : ℕ) (process : RecoveryProcess) : Option RecoveryProcess :=
  match process.recoveries[recovery]? with
  | some ⟨began, .started⟩ =>
    some { process with recoveries := process.recoveries.set recovery ⟨began, .handling⟩ }
  | _ => none

/-- The handler ends. Whatever happened since its recovery began, the flag goes down. -/
def recovered (recovery : ℕ) (process : RecoveryProcess) : Option RecoveryProcess :=
  match process.recoveries[recovery]? with
  | some ⟨began, .handling⟩ =>
    some { process with
      recoveryInProgress := false
      recoveries := process.recoveries.set recovery ⟨began, .ended⟩ }
  | _ => none

/-- While a recovery is in progress the producer sleeps for a second instead. -/
def handlePublish (process : RecoveryProcess) : Option RecoveryProcess :=
  match process.publishing with
  | none =>
    if process.isRecoverying then some process
    else some { process with publishing := some process.shutdowns }
  | some _ => none

def publish (process : RecoveryProcess) : Option RecoveryProcess :=
  match process.publishing with
  | some _ => some { process with publishing := none }
  | none => none

def step (process : RecoveryProcess) : RecoveryEvent → Option RecoveryProcess
  | .shutdown recoverable => some (process.shutdown recoverable)
  | .handleRecoveryStarted => process.handleRecoveryStarted
  | .handleRecovery recovery => process.handleRecovery recovery
  | .recovered recovery => process.recovered recovery
  | .handlePublish => process.handlePublish
  | .publish => process.publish

end RecoveryProcess

end PerfTestModel

namespace PerfTestProof

open Systems PerfTestModel RecoveryProcess

def RestoredAfter (recoveries : List ConnectionRecovery) (shutdown : ℕ) : Prop :=
  ∃ recovery ∈ recoveries, recovery.stage = .ended ∧ shutdown < recovery.began

def AllRestored (process : RecoveryProcess) : Prop :=
  ∀ shutdown < process.shutdowns, RestoredAfter process.recoveries shutdown

def FlagUntilRestored (process : RecoveryProcess) : Prop :=
  ∀ shutdown < process.shutdowns, ¬ RestoredAfter process.recoveries shutdown →
    process.isRecoverying = true

/-- A handler ends before the next shutdown comes, or after the handler of a recovery that began later
    has ended. A message goes out before the next shutdown comes. -/
def endsBeforeShutdown (process : RecoveryProcess) : RecoveryEvent → Bool
  | .recovered recovery =>
    (process.recoveries[recovery]?.any fun recovery => recovery.began = process.shutdowns) ||
      process.recoveries.any fun recovery =>
        recovery.stage = .ended && recovery.began = process.shutdowns
  | .publish => process.publishing = some process.shutdowns
  | _ => true

theorem RestoredAfter.append {recoveries more : List ConnectionRecovery} {shutdown : ℕ}
    (restored : RestoredAfter recoveries shutdown) : RestoredAfter (recoveries ++ more) shutdown := by
  obtain ⟨recovery, member, ended⟩ := restored
  exact ⟨recovery, List.mem_append_left _ member, ended⟩

theorem RestoredAfter.set {recoveries : List ConnectionRecovery} {shutdown index began : ℕ}
    {stage next : RecoveryStage} (restored : RestoredAfter recoveries shutdown)
    (found : recoveries[index]? = some ⟨began, stage⟩) (running : stage ≠ .ended) :
    RestoredAfter (recoveries.set index ⟨began, next⟩) shutdown := by
  obtain ⟨recovery, member, ended, before⟩ := restored
  obtain ⟨position, held⟩ := List.mem_iff_getElem?.mp member
  have apart : index ≠ position := by
    intro same
    subst same
    rw [found, Option.some_inj] at held
    subst held
    exact running ended
  have kept : (recoveries.set index ⟨began, next⟩)[position]? = some recovery := by
    rw [List.getElem?_set_ne apart, held]
  exact ⟨recovery, List.mem_of_getElem? kept, ended, before⟩

structure InTime (process : RecoveryProcess) : Prop where
  flag : FlagUntilRestored process
  passed : ∀ count, process.publishing = some count →
    ∀ shutdown < count, RestoredAfter process.recoveries shutdown

theorem InTime.restored {process : RecoveryProcess} (inTime : InTime process)
    (down : process.isRecoverying = false) : AllRestored process := by
  intro shutdown before
  by_contra missing
  have up := inTime.flag shutdown before missing
  rw [down] at up
  cases up

theorem InTime.recovered {process next : RecoveryProcess} {recovery : ℕ} (inTime : InTime process)
    (ends : endsBeforeShutdown process (.recovered recovery) = true)
    (stepped : process.recovered recovery = some next) : InTime next := by
  unfold RecoveryProcess.recovered at stepped
  split at stepped
  · rename_i began found
    cases stepped
    refine ⟨?_, fun count waiting shutdown before => ?_⟩
    · intro shutdown before missing
      exfalso
      apply missing
      simp only [endsBeforeShutdown, found, Option.any_some, Bool.or_eq_true, decide_eq_true_eq,
        List.any_eq_true, Bool.and_eq_true] at ends
      rcases ends with last | ⟨later, member, ended, last⟩
      · have bound : recovery < process.recoveries.length := (List.getElem?_eq_some_iff.mp found).1
        exact ⟨⟨began, .ended⟩, List.mem_set bound _, rfl, last ▸ before⟩
      · have restored : RestoredAfter process.recoveries shutdown := ⟨later, member, ended, last ▸ before⟩
        exact restored.set found (by decide)
    · exact (inTime.passed count waiting shutdown before).set found (by decide)
  · cases stepped

theorem InTime.step {process next : RecoveryProcess} {event : RecoveryEvent} (inTime : InTime process)
    (stepped : restrict endsBeforeShutdown RecoveryProcess.step process event = some next) : InTime next := by
  obtain ⟨ends, stepped⟩ := restrict_some.mp stepped
  cases event with
  | shutdown recoverable =>
    cases stepped
    cases recoverable with
    | true => exact ⟨fun _ _ _ => rfl, inTime.passed⟩
    | false => exact inTime
  | handleRecoveryStarted =>
    simp only [RecoveryProcess.step, handleRecoveryStarted] at stepped
    split at stepped
    · cases stepped
    · cases stepped
      exact ⟨fun _ _ _ => rfl, fun count waiting shutdown before =>
        (inTime.passed count waiting shutdown before).append⟩
  | handleRecovery recovery =>
    simp only [RecoveryProcess.step, handleRecovery] at stepped
    split at stepped
    · rename_i began found
      cases stepped
      constructor
      · intro shutdown before missing
        apply inTime.flag shutdown before
        intro restored
        exact missing (restored.set found (by decide))
      · intro count waiting shutdown before
        exact (inTime.passed count waiting shutdown before).set found (by decide)
    · cases stepped
  | recovered recovery => exact inTime.recovered ends stepped
  | handlePublish =>
    simp only [RecoveryProcess.step, handlePublish] at stepped
    split at stepped
    · split at stepped
      · cases stepped; exact inTime
      · rename_i down
        cases stepped
        refine ⟨inTime.flag, ?_⟩
        rintro count ⟨⟩
        exact inTime.restored (Bool.not_eq_true _ ▸ down)
    · cases stepped
  | publish =>
    simp only [RecoveryProcess.step, publish] at stepped
    split at stepped
    · cases stepped
      refine ⟨inTime.flag, ?_⟩
      rintro count ⟨⟩
    · cases stepped

theorem initial_inTime : InTime initial := by
  constructor
  · intro shutdown before
    cases before
  · rintro count ⟨⟩

/-- In every run whose handlers end in time the flag is up from each shutdown until it is restored, and
    what is published goes out when all shutdowns are restored. -/
theorem flag_until_restored (events : List RecoveryEvent) (process : RecoveryProcess)
    (executed : run (restrict endsBeforeShutdown RecoveryProcess.step) initial events = some process) :
    FlagUntilRestored process ∧ ∀ next,
      restrict endsBeforeShutdown RecoveryProcess.step process .publish = some next → AllRestored process := by
  have inTime : InTime process :=
    run_invariant InTime (fun _ _ _ kept stepped => kept.step stepped) initial_inTime executed
  refine ⟨inTime.flag, fun next published => ?_⟩
  have waiting : process.publishing = some process.shutdowns :=
    of_decide_eq_true (restrict_some.mp published).1
  exact inTime.passed process.shutdowns waiting

def recoveredRun : List RecoveryEvent :=
  [.shutdown true, .handleRecoveryStarted, .handleRecovery 0, .recovered 0, .handlePublish]

theorem flag_until_restored_recovered :
    AllRestored ⟨false, 1, [⟨1, .ended⟩], some 1⟩ := by
  have executed : run (restrict endsBeforeShutdown RecoveryProcess.step) initial recoveredRun =
      some ⟨false, 1, [⟨1, .ended⟩], some 1⟩ := by decide
  exact (flag_until_restored recoveredRun _ executed).2 ⟨false, 1, [⟨1, .ended⟩], none⟩ (by decide)

def BeganAfterSome (process : RecoveryProcess) : Prop :=
  ∀ recovery ∈ process.recoveries, 0 < recovery.began ∧ recovery.began ≤ process.shutdowns

theorem BeganAfterSome.set {process : RecoveryProcess} {index began : ℕ} {stage next : RecoveryStage}
    (followed : BeganAfterSome process) (found : process.recoveries[index]? = some ⟨began, stage⟩) :
    ∀ recovery ∈ process.recoveries.set index ⟨began, next⟩,
      0 < recovery.began ∧ recovery.began ≤ process.shutdowns := by
  intro recovery member
  rcases List.mem_or_eq_of_mem_set member with earlier | rfl
  · exact followed recovery earlier
  · exact followed ⟨began, stage⟩ (List.mem_of_getElem? found)

theorem BeganAfterSome.step {process next : RecoveryProcess} {event : RecoveryEvent}
    (followed : BeganAfterSome process) (stepped : process.step event = some next) :
    BeganAfterSome next := by
  cases event with
  | shutdown recoverable =>
    cases stepped
    cases recoverable with
    | true => exact fun recovery member => (followed recovery member).imp id Nat.le_succ_of_le
    | false => exact followed
  | handleRecoveryStarted =>
    simp only [RecoveryProcess.step, handleRecoveryStarted] at stepped
    split at stepped
    · cases stepped
    · rename_i some
      cases stepped
      intro recovery member
      rcases List.mem_append.mp member with earlier | new
      · exact followed recovery earlier
      · rw [List.mem_singleton.mp new]
        exact ⟨Nat.pos_of_ne_zero some, Nat.le_refl _⟩
  | handleRecovery recovery =>
    simp only [RecoveryProcess.step, handleRecovery] at stepped
    split at stepped
    · rename_i found
      cases stepped
      exact followed.set found
    · cases stepped
  | recovered recovery =>
    simp only [RecoveryProcess.step, RecoveryProcess.recovered] at stepped
    split at stepped
    · rename_i found
      cases stepped
      exact followed.set found
    · cases stepped
  | handlePublish =>
    simp only [RecoveryProcess.step, handlePublish] at stepped
    split at stepped
    · split at stepped <;> cases stepped <;> exact followed
    · cases stepped
  | publish =>
    simp only [RecoveryProcess.step, publish] at stepped
    split at stepped <;> cases stepped
    exact followed

/-- In any run, a handler that ends after the next shutdown takes the flag down too early. -/
theorem recovered_too_early {events : List RecoveryEvent} {process next : RecoveryProcess} {recovery : ℕ}
    (executed : run RecoveryProcess.step initial events = some process)
    (late : endsBeforeShutdown process (.recovered recovery) = false)
    (stepped : process.recovered recovery = some next) : ¬ FlagUntilRestored next := by
  have start : BeganAfterSome initial := List.forall_mem_nil _
  have bounded : BeganAfterSome process :=
    run_invariant BeganAfterSome (fun _ _ _ kept stepped => kept.step stepped) start executed
  unfold RecoveryProcess.recovered at stepped
  split at stepped
  · rename_i began found
    cases stepped
    have below := bounded ⟨began, .handling⟩ (List.mem_of_getElem? found)
    simp only [endsBeforeShutdown, found, Option.any_some, Bool.or_eq_false_iff, decide_eq_false_iff_not,
      List.any_eq_false, Bool.and_eq_true, decide_eq_true_eq, not_and] at late below
    intro holds
    have unrestored : ¬ RestoredAfter (process.recoveries.set recovery ⟨began, .ended⟩)
        (process.shutdowns - 1) := by
      rintro ⟨other, member, ended, before⟩
      rcases List.mem_or_eq_of_mem_set member with earlier | rfl
      · have last := bounded other earlier
        have apart := late.2 other earlier ended
        omega
      · have apart := late.1
        simp only at before
        omega
    have some : process.shutdowns - 1 < process.shutdowns := by omega
    cases holds (process.shutdowns - 1) some unrestored
  · cases stepped

/-- The connection is lost again while the handler of the first recovery runs. -/
theorem flag_down_before_restored :
    ¬ ∀ (events : List RecoveryEvent) (process : RecoveryProcess),
      run RecoveryProcess.step initial events = some process →
      FlagUntilRestored process ∧ ∀ next, process.publish = some next → AllRestored process := by
  intro always
  have executed : run RecoveryProcess.step initial
      [.shutdown true, .handleRecoveryStarted, .handleRecovery 0, .shutdown true, .recovered 0] =
      some ⟨false, 2, [⟨1, .ended⟩], none⟩ := by decide
  have up := (always _ _ executed).1 1 Nat.one_lt_two
  have unrestored : ¬ RestoredAfter [⟨1, .ended⟩] 1 := by
    rintro ⟨recovery, member, _, before⟩
    rw [List.mem_singleton.mp member] at before
    exact absurd before (Nat.lt_irrefl 1)
  cases up unrestored

end PerfTestProof
