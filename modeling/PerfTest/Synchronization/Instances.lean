import Mathlib.Data.Finset.Card
import Mathlib.Data.List.Nodup
import PerfTest.Systems.Runs

namespace PerfTestModel

inductive CallbackPhase where
  | idle
  | viewCounted
  | stateRead (count : ℕ)
  | expected (fromState : Bool)
  | swapped (fromState : Bool)
  deriving DecidableEq, Repr

inductive SynchronizationEnding where
  | returns
  | exception
  | error
  deriving DecidableEq, Repr

inductive SynchronizationFailure where
  | connecting
  | notJoined
  | interrupted
  | error
  deriving DecidableEq, Repr

inductive SynchronizePhase (L : Type) where
  | created
  | connecting
  | awaiting
  | closing
  | notifying (remaining : List L)
  | returned
  | thrown (failure : SynchronizationFailure)
  deriving DecidableEq, Repr

inductive Connecting where
  | connected
  | stateTransferException
  | otherException
  deriving DecidableEq, Repr

inductive Awaiting where
  | countedDown
  | timedOut
  | interrupted
  deriving DecidableEq, Repr

inductive SynchronizeStep where
  | setReceiver
  | connect (result : Connecting)
  | await (result : Awaiting)
  | close (ending : SynchronizationEnding)
  | runListener (ending : SynchronizationEnding)
  | finish
  deriving DecidableEq, Repr

/-- The listeners are a LinkedHashSet. The ones that ran are kept with how they ended. -/
structure JGroupsInstanceSynchronization (T L : Type) where
  listeners : List L
  instanceCount : ℕ
  expectedInstanceCountReached : Bool
  expectedInstanceCountReachedLatch : ℕ
  callback : T → CallbackPhase
  phase : SynchronizePhase L
  ran : List (L × SynchronizationEnding)

namespace JGroupsInstanceSynchronization

variable {T L : Type}

def initial : JGroupsInstanceSynchronization T L :=
  ⟨[], 0, false, 1, fun _ => .idle, .created, []⟩

def addPostSyncListener [DecidableEq L] (listener : L) (sync : JGroupsInstanceSynchronization T L) :
    Option (JGroupsInstanceSynchronization T L) :=
  match sync.phase with
  | .created | .connecting | .awaiting | .closing =>
    some { sync with
      listeners :=
        if listener ∈ sync.listeners then sync.listeners else sync.listeners ++ [listener] }
  | _ => none

variable [DecidableEq T]

def goTo (thread : T) (phase : CallbackPhase) (sync : JGroupsInstanceSynchronization T L) :
    JGroupsInstanceSynchronization T L :=
  { sync with callback := Function.update sync.callback thread phase }

def mayCall (thread : T) (sync : JGroupsInstanceSynchronization T L) : Bool :=
  sync.callback thread = .idle &&
    match sync.phase with
    | .created => false
    | _ => true

def viewAccepted (thread : T) (size : ℕ) (sync : JGroupsInstanceSynchronization T L) :
    Option (JGroupsInstanceSynchronization T L) :=
  if sync.mayCall thread then some { sync.goTo thread .viewCounted with instanceCount := size } else none

def setState (thread : T) (count : ℕ) (sync : JGroupsInstanceSynchronization T L) :
    Option (JGroupsInstanceSynchronization T L) :=
  if sync.mayCall thread then some (sync.goTo thread (.stateRead count)) else none

/-- The next access of a callback to what it shares. `setState` sets the flag once more after it has swapped it. -/
def advance (expectedInstances : ℕ) (thread : T) (sync : JGroupsInstanceSynchronization T L) :
    Option (JGroupsInstanceSynchronization T L) :=
  match sync.callback thread with
  | .idle => none
  | .viewCounted =>
    some (sync.goTo thread (if sync.instanceCount = expectedInstances then .expected false else .idle))
  | .stateRead count => some (sync.goTo thread (if count = expectedInstances then .expected true else .idle))
  | .expected fromState =>
    if sync.expectedInstanceCountReached then some (sync.goTo thread .idle)
    else some { sync.goTo thread (.swapped fromState) with expectedInstanceCountReached := true }
  | .swapped true => some { sync.goTo thread (.swapped false) with expectedInstanceCountReached := true }
  | .swapped false =>
    some { sync.goTo thread .idle with
      expectedInstanceCountReachedLatch := sync.expectedInstanceCountReachedLatch - 1 }

def afterConnect (sync : JGroupsInstanceSynchronization T L) : Connecting → SynchronizePhase L
  | .connected => .awaiting
  | .stateTransferException => if sync.expectedInstanceCountReached then .awaiting else .thrown .connecting
  | .otherException => .thrown .connecting

def synchronize (sync : JGroupsInstanceSynchronization T L) :
    SynchronizeStep → Option (JGroupsInstanceSynchronization T L)
  | .setReceiver =>
    match sync.phase with
    | .created => some { sync with phase := .connecting }
    | _ => none
  | .connect result =>
    match sync.phase with
    | .connecting => some { sync with phase := sync.afterConnect result }
    | _ => none
  | .await result =>
    match sync.phase, result with
    | .awaiting, .countedDown =>
      if sync.expectedInstanceCountReachedLatch = 0 then some { sync with phase := .closing } else none
    | .awaiting, .timedOut =>
      if sync.expectedInstanceCountReachedLatch = 0 then none
      else some { sync with phase := .thrown .notJoined }
    | .awaiting, .interrupted => some { sync with phase := .thrown .interrupted }
    | _, _ => none
  | .close ending =>
    match sync.phase with
    | .closing =>
      some { sync with phase := if ending = .error then .thrown .error else .notifying sync.listeners }
    | _ => none
  | .runListener ending =>
    match sync.phase with
    | .notifying (listener :: remaining) =>
      some { sync with
        ran := sync.ran ++ [(listener, ending)]
        phase := if ending = .error then .thrown .error else .notifying remaining }
    | _ => none
  | .finish =>
    match sync.phase with
    | .notifying [] => some { sync with phase := .returned }
    | _ => none

end JGroupsInstanceSynchronization

structure InstanceGroup (I T L : Type) where
  instances : I → JGroupsInstanceSynchronization T L
  states : List ℕ
  installed : List (I × Finset I)

inductive GroupEvent (I T L : Type) where
  | addPostSyncListener (member : I) (listener : L)
  | viewAccepted (member : I) (thread : T) (view : Finset I)
  | getState (member : I)
  | setState (member : I) (thread : T) (state : ℕ)
  | advance (member : I) (thread : T)
  | synchronize (member : I) (step : SynchronizeStep)

namespace InstanceGroup

variable {I T L : Type} [DecidableEq I] [DecidableEq T] [DecidableEq L]

def initial : InstanceGroup I T L := ⟨fun _ => .initial, [], []⟩

def set (group : InstanceGroup I T L) (member : I) (changed : JGroupsInstanceSynchronization T L) :
    InstanceGroup I T L :=
  { group with instances := Function.update group.instances member changed }

def update (group : InstanceGroup I T L) (member : I)
    (change : JGroupsInstanceSynchronization T L → Option (JGroupsInstanceSynchronization T L)) :
    Option (InstanceGroup I T L) :=
  (change (group.instances member)).map (group.set member)

def step (expectedInstances : ℕ) (group : InstanceGroup I T L) : GroupEvent I T L → Option (InstanceGroup I T L)
  | .addPostSyncListener member listener => group.update member (·.addPostSyncListener listener)
  | .viewAccepted member thread view =>
    if member ∈ view then
      (group.update member (·.viewAccepted thread view.card)).map fun (changed : InstanceGroup I T L) =>
        { changed with installed := group.installed ++ [(member, view)] }
    else none
  | .getState member => some { group with states := group.states ++ [(group.instances member).instanceCount] }
  | .setState member thread state =>
    match group.states[state]? with
    | some count => group.update member (·.setState thread count)
    | none => none
  | .advance member thread => group.update member (·.advance expectedInstances thread)
  | .synchronize member step => group.update member (·.synchronize step)

end InstanceGroup

end PerfTestModel

namespace PerfTestProof

open PerfTestModel PerfTestModel.JGroupsInstanceSynchronization Systems

section Instances

variable {T L : Type} {known knownLater : ℕ → Prop} {expectedInstances size : ℕ} {thread : T}
  {sync next : JGroupsInstanceSynchronization T L}

def CallbackJustified (known : ℕ → Prop) (expectedInstances : ℕ) : CallbackPhase → Prop
  | .idle | .viewCounted => True
  | .stateRead count => known count
  | .expected _ | .swapped _ => known expectedInstances

structure Justified (known : ℕ → Prop) (expectedInstances : ℕ) (sync : JGroupsInstanceSynchronization T L) :
    Prop where
  counted : known sync.instanceCount
  callbacks : ∀ thread, CallbackJustified known expectedInstances (sync.callback thread)
  reached : sync.expectedInstanceCountReached = true → known expectedInstances
  released : sync.expectedInstanceCountReachedLatch = 0 → known expectedInstances

theorem Justified.mono (justified : Justified known expectedInstances sync)
    (more : ∀ count, known count → knownLater count) : Justified knownLater expectedInstances sync := by
  refine ⟨more _ justified.counted, fun thread => ?_, fun reached => more _ (justified.reached reached),
    fun released => more _ (justified.released released)⟩
  have callback := justified.callbacks thread
  cases phase : sync.callback thread with
  | idle | viewCounted => exact True.intro
  | stateRead | expected | swapped =>
    rw [phase] at callback
    exact more _ callback

structure SameReceiver (sync next : JGroupsInstanceSynchronization T L) : Prop where
  count : next.instanceCount = sync.instanceCount
  reached : next.expectedInstanceCountReached = sync.expectedInstanceCountReached
  latch : next.expectedInstanceCountReachedLatch = sync.expectedInstanceCountReachedLatch
  callback : next.callback = sync.callback

theorem Justified.sameReceiver (justified : Justified known expectedInstances sync) (same : SameReceiver sync next) :
    Justified known expectedInstances next := by
  refine ⟨?_, ?_, ?_, ?_⟩
  · rw [same.count]
    exact justified.counted
  · rw [same.callback]
    exact justified.callbacks
  · rw [same.reached]
    exact justified.reached
  · rw [same.latch]
    exact justified.released

structure SameCaller (sync next : JGroupsInstanceSynchronization T L) : Prop where
  listeners : next.listeners = sync.listeners
  phase : next.phase = sync.phase
  ran : next.ran = sync.ran
  latch : sync.expectedInstanceCountReachedLatch = 0 → next.expectedInstanceCountReachedLatch = 0

def NoErrors (ran : List (L × SynchronizationEnding)) : Prop := ∀ entry ∈ ran, entry.2 ≠ .error

def InOrder (sync : JGroupsInstanceSynchronization T L) : Prop :=
  match sync.phase with
  | .created | .connecting | .awaiting => sync.ran = []
  | .closing => sync.ran = [] ∧ sync.expectedInstanceCountReachedLatch = 0
  | .notifying remaining =>
    sync.ran.map Prod.fst ++ remaining = sync.listeners ∧ NoErrors sync.ran ∧
      sync.expectedInstanceCountReachedLatch = 0
  | .returned =>
    sync.ran.map Prod.fst = sync.listeners ∧ NoErrors sync.ran ∧ sync.expectedInstanceCountReachedLatch = 0
  | .thrown .error =>
    sync.ran.map Prod.fst <+: sync.listeners ∧ (sync.ran = [] ∨ ∃ entry ∈ sync.ran, entry.2 = .error) ∧
      sync.expectedInstanceCountReachedLatch = 0
  | .thrown _ => sync.ran = []

theorem InOrder.sameCaller (inOrder : InOrder sync) (same : SameCaller sync next) : InOrder next := by
  unfold InOrder at inOrder ⊢
  rw [same.phase, same.listeners, same.ran]
  cases phase : sync.phase with
  | created | connecting | awaiting =>
    rw [phase] at inOrder
    exact inOrder
  | closing =>
    rw [phase] at inOrder
    exact ⟨inOrder.1, same.latch inOrder.2⟩
  | notifying | returned =>
    rw [phase] at inOrder
    exact ⟨inOrder.1, inOrder.2.1, same.latch inOrder.2.2⟩
  | thrown failure =>
    rw [phase] at inOrder
    cases failure with
    | connecting | notJoined | interrupted => exact inOrder
    | error => exact ⟨inOrder.1, inOrder.2.1, same.latch inOrder.2.2⟩

section Caller

variable {step : SynchronizeStep}

/-- What a step of the caller can do. -/
theorem synchronize_cases (stepped : sync.synchronize step = some next) :
    SameReceiver sync next ∧ next.listeners = sync.listeners ∧
      match sync.phase with
      | .created => next.phase = .connecting ∧ next.ran = sync.ran
      | .connecting => (next.phase = .awaiting ∨ next.phase = .thrown .connecting) ∧ next.ran = sync.ran
      | .awaiting =>
        (next.phase = .closing ∧ sync.expectedInstanceCountReachedLatch = 0 ∨ next.phase = .thrown .notJoined ∨
          next.phase = .thrown .interrupted) ∧ next.ran = sync.ran
      | .closing => (next.phase = .notifying sync.listeners ∨ next.phase = .thrown .error) ∧ next.ran = sync.ran
      | .notifying [] => next.phase = .returned ∧ next.ran = sync.ran
      | .notifying (listener :: remaining) => ∃ ending, next.ran = sync.ran ++ [(listener, ending)] ∧
          next.phase = if ending = .error then .thrown .error else .notifying remaining
      | .returned | .thrown _ => False := by
  unfold JGroupsInstanceSynchronization.synchronize at stepped
  cases phase : sync.phase with
  | created =>
    cases step <;> simp only [phase, reduceCtorEq] at stepped
    cases stepped
    exact ⟨⟨rfl, rfl, rfl, rfl⟩, rfl, rfl, rfl⟩
  | connecting =>
    cases step with
    | connect result =>
      simp only [phase] at stepped
      cases stepped
      refine ⟨⟨rfl, rfl, rfl, rfl⟩, rfl, ?_, rfl⟩
      cases result with
      | connected => exact Or.inl rfl
      | otherException => exact Or.inr rfl
      | stateTransferException =>
        unfold JGroupsInstanceSynchronization.afterConnect
        dsimp only
        split
        · exact Or.inl rfl
        · exact Or.inr rfl
    | setReceiver | await | close | runListener | finish => simp only [phase, reduceCtorEq] at stepped
  | awaiting =>
    cases step with
    | await result =>
      cases result with
      | countedDown =>
        simp only [phase] at stepped
        split at stepped <;> cases stepped
        rename_i released
        exact ⟨⟨rfl, rfl, rfl, rfl⟩, rfl, Or.inl ⟨rfl, released⟩, rfl⟩
      | timedOut =>
        simp only [phase] at stepped
        split at stepped <;> cases stepped
        exact ⟨⟨rfl, rfl, rfl, rfl⟩, rfl, Or.inr (Or.inl rfl), rfl⟩
      | interrupted =>
        simp only [phase] at stepped
        cases stepped
        exact ⟨⟨rfl, rfl, rfl, rfl⟩, rfl, Or.inr (Or.inr rfl), rfl⟩
    | setReceiver | connect | close | runListener | finish => simp only [phase, reduceCtorEq] at stepped
  | closing =>
    cases step with
    | close ending =>
      simp only [phase] at stepped
      cases stepped
      refine ⟨⟨rfl, rfl, rfl, rfl⟩, rfl, ?_, rfl⟩
      dsimp only
      split
      · exact Or.inr rfl
      · exact Or.inl rfl
    | setReceiver | connect | await | runListener | finish => simp only [phase, reduceCtorEq] at stepped
  | notifying remaining =>
    cases remaining with
    | nil =>
      cases step <;> simp only [phase, reduceCtorEq] at stepped
      cases stepped
      exact ⟨⟨rfl, rfl, rfl, rfl⟩, rfl, rfl, rfl⟩
    | cons listener remaining =>
      cases step with
      | runListener ending =>
        simp only [phase] at stepped
        cases stepped
        exact ⟨⟨rfl, rfl, rfl, rfl⟩, rfl, ending, rfl, rfl⟩
      | setReceiver | connect | await | close | finish => simp only [phase, reduceCtorEq] at stepped
  | returned | thrown => cases step <;> simp only [phase, reduceCtorEq] at stepped

theorem noErrors_concat {ran : List (L × SynchronizationEnding)} {listener : L} {ending : SynchronizationEnding}
    (earlier : NoErrors ran) (last : ending ≠ .error) : NoErrors (ran ++ [(listener, ending)]) := by
  intro entry member
  rcases List.mem_append.mp member with before | only
  · exact earlier entry before
  · rw [List.mem_singleton.mp only]
    exact last

theorem InOrder.synchronize (inOrder : InOrder sync) (stepped : sync.synchronize step = some next) :
    InOrder next := by
  obtain ⟨receiver, listeners, goes⟩ := synchronize_cases stepped
  have latch := receiver.latch
  unfold InOrder at inOrder ⊢
  rw [listeners, latch]
  cases phase : sync.phase with
  | created =>
    rw [phase] at goes inOrder
    rw [goes.1, goes.2]
    exact inOrder
  | connecting =>
    rw [phase] at goes inOrder
    rcases goes with ⟨awaiting | thrown, ran⟩
    · rw [awaiting, ran]
      exact inOrder
    · rw [thrown, ran]
      exact inOrder
  | awaiting =>
    rw [phase] at goes inOrder
    rcases goes with ⟨⟨closing, released⟩ | notJoined | interrupted, ran⟩
    · rw [closing, ran]
      exact ⟨inOrder, released⟩
    · rw [notJoined, ran]
      exact inOrder
    · rw [interrupted, ran]
      exact inOrder
  | closing =>
    rw [phase] at goes inOrder
    obtain ⟨nothing, released⟩ := inOrder
    rcases goes with ⟨notifying | thrown, ran⟩
    · rw [notifying, ran, nothing]
      exact ⟨rfl, fun _ member => absurd member List.not_mem_nil, released⟩
    · rw [thrown, ran, nothing]
      exact ⟨List.nil_prefix, Or.inl rfl, released⟩
  | notifying remaining =>
    rw [phase] at goes inOrder
    obtain ⟨all, noErrors, released⟩ := inOrder
    cases remaining with
    | nil =>
      rw [List.append_nil] at all
      rw [goes.1, goes.2]
      exact ⟨all, noErrors, released⟩
    | cons listener remaining =>
      obtain ⟨ending, ran, after⟩ := goes
      have moved : (sync.ran ++ [(listener, ending)]).map Prod.fst ++ remaining = sync.listeners := by
        rw [List.map_append, List.append_assoc]
        exact all
      rw [after, ran]
      by_cases error : ending = .error
      · rw [if_pos error]
        refine ⟨⟨remaining, moved⟩, Or.inr ⟨(listener, ending), ?_, error⟩, released⟩
        exact List.mem_append_right _ List.mem_cons_self
      · rw [if_neg error]
        exact ⟨moved, noErrors_concat noErrors error, released⟩
  | returned | thrown =>
    rw [phase] at goes
    exact goes.elim

theorem addPostSyncListener_cases [DecidableEq L] {listener : L}
    (stepped : sync.addPostSyncListener listener = some next) :
    SameReceiver sync next ∧ next.phase = sync.phase ∧ next.ran = sync.ran ∧
      (sync.listeners.Nodup → next.listeners.Nodup) ∧
      match sync.phase with
      | .created | .connecting | .awaiting | .closing => True
      | _ => False := by
  unfold JGroupsInstanceSynchronization.addPostSyncListener at stepped
  have distinct : sync.listeners.Nodup →
      (if listener ∈ sync.listeners then sync.listeners else sync.listeners ++ [listener]).Nodup := by
    intro nodup
    split
    · exact nodup
    · rename_i absent
      exact List.nodup_append.mpr ⟨nodup, List.nodup_singleton _, by
        intro earlier member last only same
        rw [List.mem_singleton.mp only] at same
        exact absent (same ▸ member)⟩
  cases phase : sync.phase with
  | created | connecting | awaiting | closing =>
    rw [phase] at stepped
    cases stepped
    exact ⟨⟨rfl, rfl, rfl, rfl⟩, rfl, rfl, distinct, True.intro⟩
  | notifying | returned | thrown =>
    rw [phase] at stepped
    cases stepped

theorem InOrder.addPostSyncListener [DecidableEq L] {listener : L} (inOrder : InOrder sync)
    (stepped : sync.addPostSyncListener listener = some next) : InOrder next := by
  obtain ⟨receiver, samePhase, ran, -, before⟩ := addPostSyncListener_cases stepped
  unfold InOrder at inOrder ⊢
  rw [samePhase, ran, receiver.latch]
  cases phase : sync.phase with
  | created | connecting | awaiting | closing =>
    rw [phase] at inOrder
    exact inOrder
  | notifying | returned | thrown =>
    rw [phase] at before
    exact before.elim

end Caller

variable [DecidableEq T]

theorem Justified.goTo (justified : Justified known expectedInstances sync) (thread : T) (phase : CallbackPhase)
    (callback : CallbackJustified known expectedInstances phase) :
    Justified known expectedInstances (sync.goTo thread phase) := by
  refine ⟨justified.counted, fun other => ?_, justified.reached, justified.released⟩
  unfold JGroupsInstanceSynchronization.goTo
  by_cases same : other = thread
  · rw [same]
    dsimp only
    rw [Function.update_self]
    exact callback
  · dsimp only
    rw [Function.update_of_ne same]
    exact justified.callbacks other

theorem Justified.viewAccepted (justified : Justified known expectedInstances sync) (installed : known size)
    (stepped : sync.viewAccepted thread size = some next) : Justified known expectedInstances next := by
  unfold JGroupsInstanceSynchronization.viewAccepted at stepped
  split at stepped
  · cases stepped
    have counted := justified.goTo thread .viewCounted True.intro
    exact ⟨installed, counted.callbacks, counted.reached, counted.released⟩
  · cases stepped

theorem Justified.setState (justified : Justified known expectedInstances sync) (written : known size)
    (stepped : sync.setState thread size = some next) : Justified known expectedInstances next := by
  unfold JGroupsInstanceSynchronization.setState at stepped
  split at stepped
  · cases stepped
    exact justified.goTo thread _ written
  · cases stepped

theorem Justified.advance (justified : Justified known expectedInstances sync)
    (stepped : sync.advance expectedInstances thread = some next) : Justified known expectedInstances next := by
  have callback := justified.callbacks thread
  unfold JGroupsInstanceSynchronization.advance at stepped
  cases phase : sync.callback thread with
  | idle =>
    rw [phase] at stepped
    cases stepped
  | viewCounted =>
    rw [phase] at stepped
    cases stepped
    refine justified.goTo thread _ ?_
    split
    · rename_i same
      exact same ▸ justified.counted
    · exact True.intro
  | stateRead count =>
    rw [phase] at stepped callback
    cases stepped
    refine justified.goTo thread _ ?_
    split
    · rename_i same
      exact same ▸ callback
    · exact True.intro
  | expected fromState =>
    rw [phase] at stepped callback
    dsimp only at stepped
    split at stepped
    · cases stepped
      exact justified.goTo thread _ True.intro
    · cases stepped
      have swapped := justified.goTo thread (.swapped fromState) callback
      exact ⟨swapped.counted, swapped.callbacks, fun _ => callback, swapped.released⟩
  | swapped fromState =>
    rw [phase] at stepped callback
    cases fromState with
    | true =>
      cases stepped
      have swapped := justified.goTo thread (.swapped false) callback
      exact ⟨swapped.counted, swapped.callbacks, fun _ => callback, swapped.released⟩
    | false =>
      cases stepped
      have idle := justified.goTo thread .idle True.intro
      exact ⟨idle.counted, idle.callbacks, idle.reached, fun _ => callback⟩

theorem sameCaller_advance (stepped : sync.advance expectedInstances thread = some next) : SameCaller sync next := by
  unfold JGroupsInstanceSynchronization.advance at stepped
  split at stepped
  case h_1 => cases stepped
  case h_2 | h_3 | h_5 =>
    cases stepped
    exact ⟨rfl, rfl, rfl, id⟩
  case h_4 =>
    split at stepped <;> (cases stepped; exact ⟨rfl, rfl, rfl, id⟩)
  case h_6 =>
    cases stepped
    exact ⟨rfl, rfl, rfl, fun released => by dsimp only; rw [released]⟩

theorem sameCaller_viewAccepted (stepped : sync.viewAccepted thread size = some next) : SameCaller sync next := by
  unfold JGroupsInstanceSynchronization.viewAccepted at stepped
  split at stepped <;> cases stepped
  exact ⟨rfl, rfl, rfl, id⟩

theorem sameCaller_setState (stepped : sync.setState thread size = some next) : SameCaller sync next := by
  unfold JGroupsInstanceSynchronization.setState at stepped
  split at stepped <;> cases stepped
  exact ⟨rfl, rfl, rfl, id⟩

end Instances

section Groups

variable {I T L : Type} {expectedInstances : ℕ} {group next final : InstanceGroup I T L} {member : I}

def Installed (group : InstanceGroup I T L) (size : ℕ) : Prop := ∃ entry ∈ group.installed, entry.2.card = size

def SizeInstalled (group : InstanceGroup I T L) (count : ℕ) : Prop := count = 0 ∨ Installed group count

structure SafeGroup (expectedInstances : ℕ) (group : InstanceGroup I T L) : Prop where
  states : ∀ count ∈ group.states, SizeInstalled group count
  justified : ∀ member, Justified (SizeInstalled group) expectedInstances (group.instances member)
  inOrder : ∀ member, InOrder (group.instances member)
  distinct : ∀ member, (group.instances member).listeners.Nodup

theorem safeGroup_initial : SafeGroup expectedInstances (InstanceGroup.initial : InstanceGroup I T L) where
  states := fun _ written => absurd written List.not_mem_nil
  justified := fun _ => ⟨Or.inl rfl, fun _ => True.intro, fun reached => absurd reached Bool.false_ne_true,
    fun released => absurd released Nat.one_ne_zero⟩
  inOrder := fun _ => rfl
  distinct := fun _ => List.nodup_nil

theorem SafeGroup.install (safe : SafeGroup expectedInstances group) (member : I) (view : Finset I) :
    SafeGroup expectedInstances { group with installed := group.installed ++ [(member, view)] } := by
  have more : ∀ count, SizeInstalled group count →
      SizeInstalled { group with installed := group.installed ++ [(member, view)] } count := by
    intro count counted
    rcases counted with zero | ⟨entry, listed, size⟩
    · exact Or.inl zero
    · exact Or.inr ⟨entry, List.mem_append_left _ listed, size⟩
  exact ⟨fun count written => more count (safe.states count written), fun other => (safe.justified other).mono more,
    safe.inOrder, safe.distinct⟩

structure SafelySynchronized (expectedInstances : ℕ) (group : InstanceGroup I T L) (member : I) : Prop where
  installed : (group.instances member).expectedInstanceCountReachedLatch = 0 → Installed group expectedInstances
  afterRelease : (group.instances member).ran ≠ [] → (group.instances member).expectedInstanceCountReachedLatch = 0
  once : (group.instances member).listeners.Nodup
  sequence : (group.instances member).ran.map Prod.fst <+: (group.instances member).listeners
  returned : (group.instances member).phase = .returned →
    (group.instances member).expectedInstanceCountReachedLatch = 0 ∧
      (group.instances member).ran.map Prod.fst = (group.instances member).listeners
  thrown : ∀ failure, (group.instances member).phase = .thrown failure →
    (group.instances member).ran = [] ∨ ∃ entry ∈ (group.instances member).ran, entry.2 = .error

theorem InOrder.listeners {sync : JGroupsInstanceSynchronization T L} (inOrder : InOrder sync) :
    (sync.ran = [] ∨ sync.expectedInstanceCountReachedLatch = 0) ∧ sync.ran.map Prod.fst <+: sync.listeners := by
  have nothing (none : sync.ran = []) :
      (sync.ran = [] ∨ sync.expectedInstanceCountReachedLatch = 0) ∧ sync.ran.map Prod.fst <+: sync.listeners := by
    refine ⟨Or.inl none, ?_⟩
    rw [none]
    exact List.nil_prefix
  unfold InOrder at inOrder
  cases phase : sync.phase with
  | created | connecting | awaiting =>
    rw [phase] at inOrder
    exact nothing inOrder
  | closing =>
    rw [phase] at inOrder
    exact nothing inOrder.1
  | notifying remaining =>
    rw [phase] at inOrder
    exact ⟨Or.inr inOrder.2.2, remaining, inOrder.1⟩
  | returned =>
    rw [phase] at inOrder
    exact ⟨Or.inr inOrder.2.2, inOrder.1 ▸ List.prefix_rfl⟩
  | thrown failure =>
    rw [phase] at inOrder
    cases failure with
    | connecting | notJoined | interrupted => exact nothing inOrder
    | error => exact ⟨Or.inr inOrder.2.2, inOrder.1⟩

theorem SafeGroup.synchronized (several : 1 < expectedInstances) (safe : SafeGroup expectedInstances group)
    (member : I) : SafelySynchronized expectedInstances group member := by
  have inOrder := safe.inOrder member
  obtain ⟨afterRelease, sequence⟩ := inOrder.listeners
  refine ⟨fun released => ?_, fun some => afterRelease.resolve_left some, safe.distinct member, sequence,
    fun returned => ?_, fun failure thrown => ?_⟩
  · rcases (safe.justified member).released released with zero | installed
    · omega
    · exact installed
  · rw [InOrder, returned] at inOrder
    exact ⟨inOrder.2.2, inOrder.1⟩
  · rw [InOrder, thrown] at inOrder
    cases failure with
    | connecting | notJoined | interrupted => exact Or.inl inOrder
    | error => exact inOrder.2.1

variable [DecidableEq I]

theorem set_self {changed : JGroupsInstanceSynchronization T L} :
    (group.set member changed).instances member = changed :=
  Function.update_self ..

theorem update_cases {change : JGroupsInstanceSynchronization T L → Option (JGroupsInstanceSynchronization T L)}
    (stepped : group.update member change = some next) :
    ∃ changed, change (group.instances member) = some changed ∧ next = group.set member changed := by
  unfold InstanceGroup.update at stepped
  obtain ⟨changed, made, same⟩ := Option.map_eq_some_iff.mp stepped
  exact ⟨changed, made, same.symm⟩

theorem SafeGroup.set {changed : JGroupsInstanceSynchronization T L} (safe : SafeGroup expectedInstances group)
    (justified : Justified (SizeInstalled group) expectedInstances changed) (inOrder : InOrder changed)
    (distinct : changed.listeners.Nodup) : SafeGroup expectedInstances (group.set member changed) := by
  refine ⟨safe.states, fun other => ?_, fun other => ?_, fun other => ?_⟩
  · exact Function.forall_update_iff group.instances
      (fun _ sync => Justified (SizeInstalled group) expectedInstances sync) |>.mpr
        ⟨justified, fun other _ => safe.justified other⟩ other
  · exact Function.forall_update_iff group.instances (fun _ sync => InOrder sync) |>.mpr
      ⟨inOrder, fun other _ => safe.inOrder other⟩ other
  · exact Function.forall_update_iff group.instances (fun _ sync => sync.listeners.Nodup) |>.mpr
      ⟨distinct, fun other _ => safe.distinct other⟩ other

variable [DecidableEq T] [DecidableEq L]

theorem SafeGroup.step {event : GroupEvent I T L} (safe : SafeGroup expectedInstances group)
    (stepped : group.step expectedInstances event = some next) : SafeGroup expectedInstances next := by
  unfold InstanceGroup.step at stepped
  cases event with
  | addPostSyncListener member listener =>
    obtain ⟨changed, made, rfl⟩ := update_cases stepped
    obtain ⟨receiver, -, -, distinct, -⟩ := addPostSyncListener_cases made
    exact safe.set ((safe.justified member).sameReceiver receiver) ((safe.inOrder member).addPostSyncListener made)
      (distinct (safe.distinct member))
  | viewAccepted member thread view =>
    dsimp only at stepped
    split at stepped
    case isFalse => cases stepped
    case isTrue delivered =>
      obtain ⟨updated, made, rfl⟩ := Option.map_eq_some_iff.mp stepped
      obtain ⟨changed, accepted, rfl⟩ := update_cases made
      -- The view is installed before its size is anywhere.
      have installed := safe.install member view
      have caller := sameCaller_viewAccepted accepted
      have counted : SizeInstalled { group with installed := group.installed ++ [(member, view)] } view.card :=
        Or.inr ⟨(member, view), List.mem_append_right _ List.mem_cons_self, rfl⟩
      exact installed.set ((installed.justified member).viewAccepted counted accepted)
        ((installed.inOrder member).sameCaller caller) (caller.listeners ▸ installed.distinct member)
  | getState member =>
    cases stepped
    refine ⟨fun count written => ?_, safe.justified, safe.inOrder, safe.distinct⟩
    rcases List.mem_append.mp written with earlier | last
    · exact safe.states count earlier
    · rw [List.mem_singleton.mp last]
      exact (safe.justified member).counted
  | setState member thread state =>
    dsimp only at stepped
    split at stepped
    case h_2 => cases stepped
    case h_1 count written =>
      obtain ⟨changed, made, rfl⟩ := update_cases stepped
      have caller := sameCaller_setState made
      exact safe.set ((safe.justified member).setState (safe.states count (List.mem_of_getElem? written)) made)
        ((safe.inOrder member).sameCaller caller) (caller.listeners ▸ safe.distinct member)
  | advance member thread =>
    obtain ⟨changed, made, rfl⟩ := update_cases stepped
    have caller := sameCaller_advance made
    exact safe.set ((safe.justified member).advance made) ((safe.inOrder member).sameCaller caller)
      (caller.listeners ▸ safe.distinct member)
  | synchronize member step =>
    obtain ⟨changed, made, rfl⟩ := update_cases stepped
    obtain ⟨receiver, listeners, -⟩ := synchronize_cases made
    exact safe.set ((safe.justified member).sameReceiver receiver) ((safe.inOrder member).synchronize made)
      (listeners ▸ safe.distinct member)

def notifying (member : I) (ends : L → SynchronizationEnding) (remaining : List L) : List (GroupEvent I T L) :=
  remaining.map (fun listener => .synchronize member (.runListener (ends listener))) ++ [.synchronize member .finish]

theorem step_synchronize {step : SynchronizeStep} {changed : JGroupsInstanceSynchronization T L}
    (made : (group.instances member).synchronize step = some changed) :
    group.step expectedInstances (.synchronize member step) = some (group.set member changed) := by
  rw [InstanceGroup.step, InstanceGroup.update, made]
  rfl

/-- As long as none ends with an Error, each listener has its turn. -/
theorem notifying_completes (ends : L → SynchronizationEnding) {remaining : List L}
    (noError : ∀ listener ∈ remaining, ends listener ≠ .error)
    (phase : (group.instances member).phase = .notifying remaining) :
    ∃ after, run (InstanceGroup.step expectedInstances) group (notifying member ends remaining) = some after ∧
      (after.instances member).phase = .returned ∧
      (after.instances member).ran =
        (group.instances member).ran ++ remaining.map fun listener => (listener, ends listener) := by
  induction remaining generalizing group with
  | nil =>
    have finished : (group.instances member).synchronize .finish =
        some { group.instances member with phase := .returned } := by
      rw [JGroupsInstanceSynchronization.synchronize, phase]
    refine ⟨_, run_cons.mpr ⟨_, step_synchronize finished, rfl⟩, ?_⟩
    rw [set_self]
    exact ⟨rfl, (List.append_nil _).symm⟩
  | cons listener remaining ih =>
    obtain ⟨own, later⟩ := List.forall_mem_cons.mp noError
    have ran : (group.instances member).synchronize (.runListener (ends listener)) =
        some { group.instances member with
          ran := (group.instances member).ran ++ [(listener, ends listener)]
          phase := .notifying remaining } := by
      rw [JGroupsInstanceSynchronization.synchronize, phase]
      dsimp only
      rw [if_neg own]
    have turn : ((group.set member { group.instances member with
        ran := (group.instances member).ran ++ [(listener, ends listener)]
        phase := .notifying remaining }).instances member).phase = .notifying remaining :=
      congrArg JGroupsInstanceSynchronization.phase set_self
    obtain ⟨after, rest, returned, all⟩ := ih later turn
    refine ⟨after, run_cons.mpr ⟨_, step_synchronize ran, rest⟩, returned, ?_⟩
    rw [all, set_self, List.append_assoc]
    rfl

theorem closing_completes {closing : SynchronizationEnding} (closed : closing ≠ .error)
    (ends : L → SynchronizationEnding)
    (noError : ∀ listener ∈ (group.instances member).listeners, ends listener ≠ .error)
    (inOrder : InOrder (group.instances member)) (phase : (group.instances member).phase = .closing) :
    ∃ after, run (InstanceGroup.step expectedInstances) group
        (.synchronize member (.close closing) :: notifying member ends (group.instances member).listeners) =
          some after ∧
      (after.instances member).phase = .returned ∧
      (after.instances member).ran =
        (group.instances member).listeners.map fun listener => (listener, ends listener) := by
  rw [InOrder, phase] at inOrder
  have made : (group.instances member).synchronize (.close closing) =
      some { group.instances member with phase := .notifying (group.instances member).listeners } := by
    rw [JGroupsInstanceSynchronization.synchronize, phase]
    dsimp only
    rw [if_neg closed]
  have closed : ((group.set member { group.instances member with
      phase := .notifying (group.instances member).listeners }).instances member).phase =
        .notifying (group.instances member).listeners :=
    congrArg JGroupsInstanceSynchronization.phase set_self
  obtain ⟨after, rest, returned, all⟩ := notifying_completes ends noError closed
  refine ⟨after, run_cons.mpr ⟨_, step_synchronize made, rest⟩, returned, ?_⟩
  rw [all, set_self, inOrder.1]
  rfl

/-- A `synchronize` that is released goes on to run the listeners once each, unless an Error ends it. -/
theorem synchronize_safe (several : 1 < expectedInstances) {events : List (GroupEvent I T L)}
    (executed : run (InstanceGroup.step expectedInstances) InstanceGroup.initial events = some final) (member : I) :
    SafelySynchronized expectedInstances final member ∧
      ((final.instances member).phase = .closing →
        ∀ closing ≠ SynchronizationEnding.error, ∀ ends : L → SynchronizationEnding,
          (∀ listener ∈ (final.instances member).listeners, ends listener ≠ .error) →
          ∃ after, run (InstanceGroup.step expectedInstances) final
              (.synchronize member (.close closing) :: notifying member ends (final.instances member).listeners) =
                some after ∧
            (after.instances member).phase = .returned ∧
            (after.instances member).ran =
              (final.instances member).listeners.map fun listener => (listener, ends listener)) := by
  have safe := run_invariant (SafeGroup expectedInstances) (fun _ _ _ safe stepped => safe.step stepped)
    safeGroup_initial executed
  exact ⟨safe.synchronized several member, fun phase closing closed ends noError =>
    closing_completes closed ends noError (safe.inOrder member) phase⟩

end Groups

def joinedByState : List (GroupEvent Bool Unit ℕ) :=
  [.addPostSyncListener false 5, .addPostSyncListener false 6, .synchronize false .setReceiver,
    .viewAccepted false () {false}, .synchronize true .setReceiver, .viewAccepted true () {false, true},
    .getState true, .advance false (), .setState false () 0, .advance false (), .advance false (), .advance false (),
    .advance false (), .synchronize false (.connect .connected), .synchronize false (.await .countedDown)]

def throwingException : List (GroupEvent Bool Unit ℕ) :=
  joinedByState ++ [.synchronize false (.close .returns), .synchronize false (.runListener .exception),
    .synchronize false (.runListener .returns), .synchronize false .finish]

theorem synchronized_by_state :
    ∃ final, run (InstanceGroup.step 2) InstanceGroup.initial throwingException = some final ∧
      (final.instances false).phase = .returned ∧
      (final.instances false).ran = [(5, .exception), (6, .returns)] ∧ SafelySynchronized 2 final false := by
  cases reached : run (InstanceGroup.step 2) InstanceGroup.initial throwingException with
  | none =>
    have runs : (run (InstanceGroup.step 2) InstanceGroup.initial throwingException).isSome := rfl
    rw [reached] at runs
    cases runs
  | some final =>
    have phase := congrArg (Option.map fun group => (group.instances false).phase) reached
    have ran := congrArg (Option.map fun group => (group.instances false).ran) reached
    exact ⟨final, rfl, (Option.some.inj phase).symm, (Option.some.inj ran).symm,
      (synchronize_safe (by decide) reached false).1⟩

/-- The first listener throws an Error. -/
theorem error_ends_synchronize :
    ¬ ∀ (events : List (GroupEvent Bool Unit ℕ)) (final : InstanceGroup Bool Unit ℕ) (member : Bool)
        (failure : SynchronizationFailure),
      run (InstanceGroup.step 2) InstanceGroup.initial events = some final →
        (final.instances member).ran ≠ [] →
          (final.instances member).phase = .returned ∨ (final.instances member).phase = .thrown failure →
            (final.instances member).ran.map Prod.fst = (final.instances member).listeners := by
  intro all
  have ran := all (joinedByState ++ [.synchronize false (.close .returns), .synchronize false (.runListener .error)])
    _ false .error rfl (List.cons_ne_nil _ _) (Or.inr rfl)
  revert ran
  decide

end PerfTestProof
