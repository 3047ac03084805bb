import Mathlib.Algebra.BigOperators.Group.List.Basic
import Mathlib.Algebra.Order.Group.Multiset
import PerfTest.Systems.Runs

namespace PerfTestModel

inductive LatencyKind
  | confirmed
  | consumed
  deriving DecidableEq, Repr

def perKind {T : Type} (confirmed consumed : T) : LatencyKind → T
  | .confirmed => confirmed
  | .consumed => consumed

inductive LatencyStatistic
  | min
  | median
  | percentile75
  | percentile95
  | percentile99
  | max
  deriving DecidableEq, Repr

def getStats : List LatencyStatistic := [.min, .median, .percentile75, .percentile95, .percentile99, .max]

/-- A histogram is the multiset of its samples; a snapshot is what it has at that time. -/
inductive LatencyReporter (S : Type)
  | waiting
  | snapshots (confirmed consumed : List (Multiset S))
  | confirmedReplaced (statistics : LatencyKind → List (Multiset S))
  | idleReplaced (confirmed : Multiset S)

/-- The histograms of each kind in the order of their creation, with the references to the current ones, the threads
    that have read a reference and not updated yet, and the thread of the scheduler. What is recorded, reported and
    replaced by an idle tick is kept. -/
structure LatencyHistograms (S U : Type) where
  histograms : LatencyKind → ℕ → Multiset S
  current : LatencyKind → ℕ
  updating : U → Option (LatencyKind × S × ℕ)
  reporter : LatencyReporter S
  recorded : LatencyKind → Multiset S
  reports : List (LatencyKind → List (Multiset S))
  idleIntervals : List (LatencyKind → Multiset S)

inductive LatencyStep (S U : Type)
  | readReference (thread : U) (kind : LatencyKind) (latency : S)
  | update (thread : U)
  | report
  | snapshot
  | replaceConfirmed
  | idle
  | replaceConsumed

namespace LatencyHistograms

variable {S U : Type}

def initial : LatencyHistograms S U :=
  ⟨fun _ _ => 0, fun _ => 0, fun _ => none, .waiting, fun _ => 0, [], []⟩

def content (state : LatencyHistograms S U) (kind : LatencyKind) : Multiset S :=
  state.histograms kind (state.current kind)

def replace (state : LatencyHistograms S U) (kind : LatencyKind) : LatencyHistograms S U :=
  { state with current := Function.update state.current kind (state.current kind + 1) }

def record (state : LatencyHistograms S U) (kind : LatencyKind) (histogram : ℕ) (latency : S) :
    LatencyHistograms S U :=
  { state with
    histograms := Function.update state.histograms kind
      (Function.update (state.histograms kind) histogram (state.histograms kind histogram + {latency}))
    recorded := Function.update state.recorded kind (state.recorded kind + {latency}) }

variable [DecidableEq U]

def step (state : LatencyHistograms S U) : LatencyStep S U → Option (LatencyHistograms S U)
  | .readReference thread kind latency =>
    match state.updating thread with
    | none => some { state with
        updating := Function.update state.updating thread (some (kind, latency, state.current kind)) }
    | some _ => none
  | .update thread =>
    match state.updating thread with
    | some (kind, latency, histogram) =>
      some { state.record kind histogram latency with updating := Function.update state.updating thread none }
    | none => none
  | .report =>
    match state.reporter with
    | .waiting => some { state with reporter := .snapshots [] [] }
    | _ => none
  | .snapshot =>
    match state.reporter with
    | .snapshots confirmed consumed =>
      if confirmed.length < getStats.length then
        some { state with reporter := .snapshots (confirmed ++ [state.content .confirmed]) consumed }
      else if consumed.length < getStats.length then
        some { state with reporter := .snapshots confirmed (consumed ++ [state.content .consumed]) }
      else none
    | _ => none
  | .replaceConfirmed =>
    match state.reporter with
    | .snapshots confirmed consumed =>
      if confirmed.length = getStats.length ∧ consumed.length = getStats.length then
        some { state.replace .confirmed with reporter := .confirmedReplaced (perKind confirmed consumed) }
      else none
    | _ => none
  | .idle =>
    match state.reporter with
    | .waiting => some { state.replace .confirmed with reporter := .idleReplaced (state.content .confirmed) }
    | _ => none
  | .replaceConsumed =>
    match state.reporter with
    | .confirmedReplaced statistics =>
      some { state.replace .consumed with reporter := .waiting, reports := state.reports ++ [statistics] }
    | .idleReplaced confirmed =>
      some { state.replace .consumed with
        reporter := .waiting
        idleIntervals := state.idleIntervals ++ [perKind confirmed (state.content .consumed)] }
    | _ => none

end LatencyHistograms

end PerfTestModel

namespace PerfTestProof

open PerfTestModel PerfTestModel.LatencyHistograms Systems

variable {S U : Type}

def samplesOf (snapshots : List (Multiset S)) : Multiset S := snapshots.headD 0

def pending (state : LatencyHistograms S U) (kind : LatencyKind) : Multiset S :=
  match state.reporter, kind with
  | .waiting, _ => state.content kind
  | .snapshots confirmed _, .confirmed => confirmed.headD (state.content .confirmed)
  | .snapshots _ consumed, .consumed => consumed.headD (state.content .consumed)
  | .confirmedReplaced statistics, .confirmed => samplesOf (statistics .confirmed) + state.content .confirmed
  | .confirmedReplaced statistics, .consumed => samplesOf (statistics .consumed)
  | .idleReplaced confirmed, .confirmed => confirmed + state.content .confirmed
  | .idleReplaced _, .consumed => state.content .consumed

def accounted (state : LatencyHistograms S U) (kind : LatencyKind) : Multiset S :=
  (state.reports.map fun report => samplesOf (report kind)).sum +
    (state.idleIntervals.map fun samples => samples kind).sum + pending state kind

def inWindow (state : LatencyHistograms S U) (kind : LatencyKind) : Bool :=
  match state.reporter, kind with
  | .snapshots confirmed _, .confirmed => !confirmed.isEmpty
  | .snapshots _ consumed, .consumed => !consumed.isEmpty
  | .confirmedReplaced _, .consumed => true
  | _, _ => false

/-- The histogram that is updated is the current one, and it is not between its first snapshot and its replacement. -/
def UpdatesInTime (state : LatencyHistograms S U) : LatencyStep S U → Bool
  | .update thread =>
    match state.updating thread with
    | some (kind, _, histogram) => histogram == state.current kind && !inWindow state kind
    | none => true
  | _ => true

structure KnownHistograms (state : LatencyHistograms S U) : Prop where
  empty : ∀ kind histogram, state.current kind < histogram → state.histograms kind histogram = 0
  read : ∀ thread kind latency histogram, state.updating thread = some (kind, latency, histogram) →
    histogram ≤ state.current kind

section Contents

variable {state next : LatencyHistograms S U} {kind other : LatencyKind} {histogram : ℕ} {latency : S}

theorem content_replace (created : KnownHistograms state) : (state.replace kind).content kind = 0 := by
  unfold content replace
  dsimp only
  rw [Function.update_self]
  exact created.empty kind _ (Nat.lt_succ_self _)

theorem content_replace_other (different : other ≠ kind) :
    (state.replace kind).content other = state.content other := by
  unfold content replace
  dsimp only
  rw [Function.update_of_ne different]

theorem content_record_current :
    (state.record kind (state.current kind) latency).content kind = state.content kind + {latency} := by
  unfold content record
  dsimp only
  rw [Function.update_self, Function.update_self]

theorem content_record_stale (stale : histogram ≠ state.current kind) :
    (state.record kind histogram latency).content kind = state.content kind := by
  unfold content record
  dsimp only
  rw [Function.update_self, Function.update_of_ne stale.symm]

theorem content_record_other (different : other ≠ kind) :
    (state.record kind histogram latency).content other = state.content other := by
  unfold content record
  dsimp only
  rw [Function.update_of_ne different]

theorem pending_congr (sameReporter : next.reporter = state.reporter)
    (sameContent : next.content kind = state.content kind) :
    pending next kind = pending state kind := by
  unfold pending
  rw [sameReporter]
  cases state.reporter <;> cases kind <;> simp only [sameContent]

/-- In the window the current histogram is not what is pending. -/
theorem pending_window (window : inWindow state kind = true) (sameReporter : next.reporter = state.reporter) :
    pending next kind = pending state kind := by
  unfold inWindow at window
  unfold pending
  rw [sameReporter]
  cases reporter : state.reporter with
  | waiting =>
    rw [reporter] at window
    cases window
  | snapshots confirmed consumed =>
    rw [reporter] at window
    cases kind with
    | confirmed =>
      cases confirmed with
      | nil => cases window
      | cons first rest => rfl
    | consumed =>
      cases consumed with
      | nil => cases window
      | cons first rest => rfl
  | confirmedReplaced statistics =>
    rw [reporter] at window
    cases kind with
    | confirmed => cases window
    | consumed => rfl
  | idleReplaced confirmed =>
    rw [reporter] at window
    cases window

theorem pending_no_window (outside : inWindow state kind = false) (sameReporter : next.reporter = state.reporter)
    (added : next.content kind = state.content kind + {latency}) :
    pending next kind = pending state kind + {latency} := by
  unfold inWindow at outside
  unfold pending
  rw [sameReporter]
  cases reporter : state.reporter with
  | waiting => exact added
  | snapshots confirmed consumed =>
    rw [reporter] at outside
    cases kind with
    | confirmed =>
      cases confirmed with
      | nil => exact added
      | cons first rest => cases outside
    | consumed =>
      cases consumed with
      | nil => exact added
      | cons first rest => cases outside
  | confirmedReplaced statistics =>
    rw [reporter] at outside
    cases kind with
    | confirmed => exact (congrArg (samplesOf (statistics .confirmed) + ·) added).trans (add_assoc _ _ _).symm
    | consumed => cases outside
  | idleReplaced confirmed =>
    cases kind with
    | confirmed => exact (congrArg (confirmed + ·) added).trans (add_assoc _ _ _).symm
    | consumed => exact added

end Contents

section Steps

variable [DecidableEq U] {state next : LatencyHistograms S U} {label : LatencyStep S U} {kind : LatencyKind}

theorem step_update {thread : U} (stepped : state.step (.update thread) = some next) :
    ∃ kind latency histogram, state.updating thread = some (kind, latency, histogram) ∧
      next = { state.record kind histogram latency with updating := Function.update state.updating thread none } := by
  unfold LatencyHistograms.step at stepped
  dsimp only at stepped
  cases reading : state.updating thread with
  | none =>
    rw [reading] at stepped
    cases stepped
  | some read =>
    obtain ⟨kind, latency, histogram⟩ := read
    rw [reading] at stepped
    exact ⟨kind, latency, histogram, rfl, (Option.some.inj stepped).symm⟩

theorem step_readReference {thread : U} {latency : S}
    (stepped : state.step (.readReference thread kind latency) = some next) :
    next = { state with
      updating := Function.update state.updating thread (some (kind, latency, state.current kind)) } := by
  unfold LatencyHistograms.step at stepped
  dsimp only at stepped
  cases reading : state.updating thread with
  | some read =>
    rw [reading] at stepped
    cases stepped
  | none =>
    rw [reading] at stepped
    exact (Option.some.inj stepped).symm

theorem step_report (stepped : state.step .report = some next) :
    state.reporter = .waiting ∧ next = { state with reporter := .snapshots [] [] } := by
  unfold LatencyHistograms.step at stepped
  dsimp only at stepped
  cases reporter : state.reporter with
  | waiting =>
    rw [reporter] at stepped
    exact ⟨rfl, (Option.some.inj stepped).symm⟩
  | snapshots confirmed consumed | confirmedReplaced statistics | idleReplaced confirmed =>
    rw [reporter] at stepped
    cases stepped

theorem step_snapshot (stepped : state.step .snapshot = some next) :
    ∃ confirmed consumed, state.reporter = .snapshots confirmed consumed ∧
      (next = { state with reporter := .snapshots (confirmed ++ [state.content .confirmed]) consumed } ∨
        next = { state with reporter := .snapshots confirmed (consumed ++ [state.content .consumed]) }) := by
  unfold LatencyHistograms.step at stepped
  dsimp only at stepped
  cases reporter : state.reporter with
  | snapshots confirmed consumed =>
    rw [reporter] at stepped
    refine ⟨confirmed, consumed, rfl, ?_⟩
    dsimp only at stepped
    split at stepped
    · exact Or.inl (Option.some.inj stepped).symm
    · obtain ⟨-, result⟩ := Option.ite_none_right_eq_some.mp stepped
      exact Or.inr (Option.some.inj result).symm
  | waiting | confirmedReplaced statistics | idleReplaced confirmed =>
    rw [reporter] at stepped
    cases stepped

theorem step_replaceConfirmed (stepped : state.step .replaceConfirmed = some next) :
    ∃ statistics, state.reporter = .snapshots (statistics .confirmed) (statistics .consumed) ∧
      (∀ kind, (statistics kind).length = getStats.length) ∧
      next = { state.replace .confirmed with reporter := .confirmedReplaced statistics } := by
  unfold LatencyHistograms.step at stepped
  dsimp only at stepped
  cases reporter : state.reporter with
  | snapshots confirmed consumed =>
    rw [reporter] at stepped
    obtain ⟨⟨confirmedFull, consumedFull⟩, result⟩ := Option.ite_none_right_eq_some.mp stepped
    refine ⟨perKind confirmed consumed, rfl, ?_, (Option.some.inj result).symm⟩
    rintro (_ | _)
    · exact confirmedFull
    · exact consumedFull
  | waiting | confirmedReplaced statistics | idleReplaced confirmed =>
    rw [reporter] at stepped
    cases stepped

theorem step_idle (stepped : state.step .idle = some next) :
    state.reporter = .waiting ∧
      next = { state.replace .confirmed with reporter := .idleReplaced (state.content .confirmed) } := by
  unfold LatencyHistograms.step at stepped
  dsimp only at stepped
  cases reporter : state.reporter with
  | waiting =>
    rw [reporter] at stepped
    exact ⟨rfl, (Option.some.inj stepped).symm⟩
  | snapshots confirmed consumed | confirmedReplaced statistics | idleReplaced confirmed =>
    rw [reporter] at stepped
    cases stepped

theorem step_replaceConsumed (stepped : state.step .replaceConsumed = some next) :
    (∃ statistics, state.reporter = .confirmedReplaced statistics ∧
      next = { state.replace .consumed with reporter := .waiting, reports := state.reports ++ [statistics] }) ∨
    ∃ samples, state.reporter = .idleReplaced (samples .confirmed) ∧ samples .consumed = state.content .consumed ∧
      next = { state.replace .consumed with
        reporter := .waiting, idleIntervals := state.idleIntervals ++ [samples] } := by
  unfold LatencyHistograms.step at stepped
  dsimp only at stepped
  cases reporter : state.reporter with
  | confirmedReplaced statistics =>
    rw [reporter] at stepped
    exact Or.inl ⟨statistics, rfl, (Option.some.inj stepped).symm⟩
  | idleReplaced confirmed =>
    rw [reporter] at stepped
    exact Or.inr ⟨perKind confirmed (state.content .consumed), rfl, rfl, (Option.some.inj stepped).symm⟩
  | waiting | snapshots confirmed consumed =>
    rw [reporter] at stepped
    cases stepped

omit [DecidableEq U] in
theorem KnownHistograms.replace (created : KnownHistograms state) (kind : LatencyKind) :
    KnownHistograms (state.replace kind) := by
  have later : ∀ other, state.current other ≤ (state.replace kind).current other := by
    intro other
    unfold LatencyHistograms.replace
    dsimp only
    by_cases same : other = kind
    · rw [same, Function.update_self]
      exact Nat.le_succ _
    · rw [Function.update_of_ne same]
  exact ⟨fun other histogram above => created.empty other histogram ((later other).trans_lt above),
    fun thread other latency histogram reading =>
      (created.read thread other latency histogram reading).trans (later other)⟩

omit [DecidableEq U] in
/-- Only the histograms, the references and the threads that update matter. -/
theorem KnownHistograms.congr (created : KnownHistograms state) (sameHistograms : next.histograms = state.histograms)
    (sameCurrent : next.current = state.current) (sameUpdating : next.updating = state.updating) :
    KnownHistograms next :=
  ⟨by rw [sameHistograms, sameCurrent]; exact created.empty, by rw [sameUpdating, sameCurrent]; exact created.read⟩

theorem KnownHistograms.record (created : KnownHistograms state) {histogram : ℕ}
    (known : histogram ≤ state.current kind) (latency : S) (thread : U) :
    KnownHistograms
      { state.record kind histogram latency with updating := Function.update state.updating thread none } := by
  constructor
  · intro other index above
    have before : state.histograms other index = 0 := created.empty other index above
    show Function.update state.histograms kind _ other index = 0
    by_cases same : other = kind
    · subst same
      rw [Function.update_self, Function.update_of_ne (known.trans_lt above).ne']
      exact before
    · rw [Function.update_of_ne same]
      exact before
  · intro other otherKind otherLatency index reading
    dsimp only at reading
    by_cases same : other = thread
    · subst same
      rw [Function.update_self] at reading
      cases reading
    · rw [Function.update_of_ne same] at reading
      exact created.read other otherKind otherLatency index reading

structure Quiet (state next : LatencyHistograms S U) : Prop where
  created : KnownHistograms state → KnownHistograms next
  recorded : next.recorded = state.recorded
  accounted : KnownHistograms state → ∀ kind, accounted next kind = accounted state kind

theorem quiet_readReference {thread : U} {latency : S}
    (stepped : state.step (.readReference thread kind latency) = some next) : Quiet state next := by
  obtain rfl := step_readReference stepped
  refine ⟨fun created => ⟨created.empty, ?_⟩, rfl, fun _ _ => rfl⟩
  intro other otherKind otherLatency histogram reads
  dsimp only at reads
  by_cases same : other = thread
  · subst same
    rw [Function.update_self] at reads
    obtain ⟨rfl, rfl, rfl⟩ := reads
    exact le_refl _
  · rw [Function.update_of_ne same] at reads
    exact created.read other otherKind otherLatency histogram reads

theorem quiet_report (stepped : state.step .report = some next) : Quiet state next := by
  obtain ⟨reporter, rfl⟩ := step_report stepped
  refine ⟨fun created => created.congr rfl rfl rfl, rfl, fun _ kind => ?_⟩
  unfold accounted pending
  rw [reporter]
  cases kind <;> rfl

omit [DecidableEq U] in
theorem headD_append (taken : List (Multiset S)) (content : Multiset S) :
    (taken ++ [content]).headD content = taken.headD content := by
  cases taken with
  | nil => rfl
  | cons first rest => rfl

omit [DecidableEq U] in
theorem headD_of_length {taken : List (Multiset S)} (full : taken.length = getStats.length) (content : Multiset S) :
    taken.headD content = samplesOf taken := by
  cases taken with
  | nil => cases full
  | cons first rest => rfl

theorem quiet_snapshot (stepped : state.step .snapshot = some next) : Quiet state next := by
  obtain ⟨confirmed, consumed, reporter, rfl | rfl⟩ := step_snapshot stepped
  · refine ⟨fun created => created.congr rfl rfl rfl, rfl, fun _ kind => ?_⟩
    unfold accounted pending
    rw [reporter]
    cases kind with
    | confirmed => exact congrArg _ (headD_append confirmed (state.content .confirmed))
    | consumed => rfl
  · refine ⟨fun created => created.congr rfl rfl rfl, rfl, fun _ kind => ?_⟩
    unfold accounted pending
    rw [reporter]
    cases kind with
    | confirmed => rfl
    | consumed => exact congrArg _ (headD_append consumed (state.content .consumed))

theorem quiet_replaceConfirmed (stepped : state.step .replaceConfirmed = some next) : Quiet state next := by
  obtain ⟨statistics, reporter, full, rfl⟩ := step_replaceConfirmed stepped
  refine ⟨fun created => (created.replace .confirmed).congr rfl rfl rfl, rfl, fun created kind => ?_⟩
  unfold accounted pending
  rw [reporter]
  refine congrArg _ ?_
  cases kind with
  | confirmed =>
    have fresh : (state.replace .confirmed).content .confirmed = 0 := content_replace created
    show samplesOf (statistics .confirmed) + (state.replace .confirmed).content .confirmed =
      (statistics .confirmed).headD _
    rw [fresh, add_zero, headD_of_length (full .confirmed)]
  | consumed => exact (headD_of_length (full .consumed) _).symm

theorem quiet_idle (stepped : state.step .idle = some next) : Quiet state next := by
  obtain ⟨reporter, rfl⟩ := step_idle stepped
  refine ⟨fun created => (created.replace .confirmed).congr rfl rfl rfl, rfl, fun created kind => ?_⟩
  unfold accounted pending
  rw [reporter]
  refine congrArg _ ?_
  cases kind with
  | confirmed =>
    have fresh : (state.replace .confirmed).content .confirmed = 0 := content_replace created
    show state.content .confirmed + (state.replace .confirmed).content .confirmed = state.content .confirmed
    rw [fresh, add_zero]
  | consumed => exact content_replace_other (by decide : LatencyKind.consumed ≠ .confirmed)

theorem quiet_replaceConsumed (stepped : state.step .replaceConsumed = some next) : Quiet state next := by
  have confirmedSame : (state.replace .consumed).content .confirmed = state.content .confirmed :=
    content_replace_other (by decide)
  rcases step_replaceConsumed stepped with ⟨statistics, reporter, rfl⟩ | ⟨samples, reporter, consumed, rfl⟩
  · refine ⟨fun created => (created.replace .consumed).congr rfl rfl rfl, rfl, fun created kind => ?_⟩
    have fresh : (state.replace .consumed).content .consumed = 0 := content_replace created
    unfold accounted pending
    rw [reporter]
    show ((state.reports ++ [statistics]).map fun report => samplesOf (report kind)).sum +
      (state.idleIntervals.map fun samples => samples kind).sum + (state.replace .consumed).content kind = _
    rw [List.map_append, List.sum_append, List.map_singleton, List.sum_singleton]
    cases kind with
    | confirmed =>
      rw [confirmedSame]
      dsimp only
      ac_rfl
    | consumed =>
      rw [fresh, add_zero]
      dsimp only
      ac_rfl
  · refine ⟨fun created => (created.replace .consumed).congr rfl rfl rfl, rfl, fun created kind => ?_⟩
    have fresh : (state.replace .consumed).content .consumed = 0 := content_replace created
    unfold accounted pending
    rw [reporter]
    show (state.reports.map fun report => samplesOf (report kind)).sum +
      ((state.idleIntervals ++ [samples]).map fun samples => samples kind).sum +
        (state.replace .consumed).content kind = _
    rw [List.map_append, List.sum_append, List.map_singleton, List.sum_singleton]
    cases kind with
    | confirmed =>
      rw [confirmedSame]
      dsimp only
      ac_rfl
    | consumed =>
      rw [fresh, add_zero, consumed]
      dsimp only
      ac_rfl

theorem quiet_step (stepped : state.step label = some next) (notUpdate : ∀ thread, label ≠ .update thread) :
    Quiet state next := by
  cases label with
  | readReference thread kind latency => exact quiet_readReference stepped
  | update thread => exact absurd rfl (notUpdate thread)
  | report => exact quiet_report stepped
  | snapshot => exact quiet_snapshot stepped
  | replaceConfirmed => exact quiet_replaceConfirmed stepped
  | idle => exact quiet_idle stepped
  | replaceConsumed => exact quiet_replaceConsumed stepped

/-- An update adds to what is recorded, and to what is accounted for exactly if it is in time. -/
theorem updated {thread : U} (created : KnownHistograms state) (stepped : state.step (.update thread) = some next) :
    KnownHistograms next ∧ next.reporter = state.reporter ∧ ∃ kind latency,
      (∀ other, next.recorded other = state.recorded other + if other = kind then {latency} else 0) ∧
      ∀ other, accounted next other = accounted state other +
        if other = kind ∧ UpdatesInTime state (.update thread) = true then {latency} else 0 := by
  obtain ⟨kind, latency, histogram, reading, rfl⟩ := step_update stepped
  refine ⟨created.record (created.read thread kind latency histogram reading) latency thread, rfl, kind, latency,
    fun other => ?_, fun other => ?_⟩
  · show Function.update state.recorded kind _ other = _
    by_cases same : other = kind
    · rw [if_pos same, same, Function.update_self]
    · rw [if_neg same, add_zero, Function.update_of_ne same]
  · have inTime : UpdatesInTime state (.update thread) = true ↔
        histogram = state.current kind ∧ inWindow state kind = false := by
      unfold UpdatesInTime
      dsimp only
      rw [reading]
      simp
    unfold accounted
    rw [add_assoc _ (pending state other)]
    refine congrArg _ ?_
    by_cases same : other = kind
    · subst same
      by_cases current : histogram = state.current other
      · subst current
        cases window : inWindow state other with
        | true =>
          rw [if_neg (fun both => by simp [inTime.mp both.2] at window), add_zero]
          exact pending_window window rfl
        | false =>
          rw [if_pos ⟨rfl, inTime.mpr ⟨rfl, window⟩⟩]
          exact pending_no_window window rfl content_record_current
      · rw [if_neg (fun both => current (inTime.mp both.2).1), add_zero]
        exact pending_congr rfl (content_record_stale current)
    · rw [if_neg (fun both => same both.1), add_zero]
      exact pending_congr rfl (content_record_other same)

theorem knownHistograms_step (created : KnownHistograms state) (stepped : state.step label = some next) :
    KnownHistograms next := by
  by_cases update : ∃ thread, label = .update thread
  · obtain ⟨thread, rfl⟩ := update
    exact (updated created stepped).1
  · exact (quiet_step stepped fun thread same => update ⟨thread, same⟩).created created

def unaccounted (state : LatencyHistograms S U) : ℤ :=
  (state.recorded .confirmed).card + (state.recorded .consumed).card -
    ((accounted state .confirmed).card + (accounted state .consumed).card)

theorem unaccounted_in_time (created : KnownHistograms state) (stepped : state.step label = some next)
    (inTime : UpdatesInTime state label = true) : unaccounted next = unaccounted state := by
  by_cases update : ∃ thread, label = .update thread
  · obtain ⟨thread, rfl⟩ := update
    obtain ⟨-, -, kind, latency, recorded, accounts⟩ := updated created stepped
    unfold unaccounted
    rw [recorded, recorded, accounts, accounts, inTime]
    cases kind <;> simp <;> omega
  · have quiet := quiet_step stepped fun thread same => update ⟨thread, same⟩
    unfold unaccounted
    rw [quiet.recorded, quiet.accounted created, quiet.accounted created]

theorem unaccounted_late (created : KnownHistograms state) (stepped : state.step label = some next)
    (late : UpdatesInTime state label = false) : unaccounted state < unaccounted next := by
  cases label with
  | update thread =>
    obtain ⟨-, -, kind, latency, recorded, accounts⟩ := updated created stepped
    unfold unaccounted
    rw [recorded, recorded, accounts, accounts, late]
    cases kind <;> simp
  | readReference thread kind latency | report | snapshot | replaceConfirmed | idle | replaceConsumed => cases late

def Uniform (snapshots : List (Multiset S)) : Prop :=
  snapshots.length = getStats.length ∧ ∀ snapshot ∈ snapshots, snapshot = samplesOf snapshots

def Steady (state : LatencyHistograms S U) : Prop :=
  match state.reporter with
  | .snapshots confirmed consumed =>
    (∀ snapshot ∈ confirmed, snapshot = state.content .confirmed) ∧
      ∀ snapshot ∈ consumed, snapshot = state.content .consumed
  | .confirmedReplaced statistics => ∀ kind, Uniform (statistics kind)
  | _ => True

theorem uniform_of_content {taken : List (Multiset S)} {content : Multiset S} (full : taken.length = getStats.length)
    (same : ∀ snapshot ∈ taken, snapshot = content) : Uniform taken := by
  refine ⟨full, fun snapshot inside => ?_⟩
  cases taken with
  | nil => exact absurd inside List.not_mem_nil
  | cons first rest => rw [same snapshot inside, samplesOf, List.headD_cons, same first List.mem_cons_self]

omit [DecidableEq U] in
theorem steady_congr (steady : Steady state) (sameReporter : next.reporter = state.reporter)
    (sameContent : ∀ kind, inWindow state kind = true → next.content kind = state.content kind) : Steady next := by
  unfold Steady at steady ⊢
  unfold inWindow at sameContent
  rw [sameReporter]
  cases reporter : state.reporter with
  | waiting => trivial
  | snapshots confirmed consumed =>
    rw [reporter] at steady sameContent
    obtain ⟨confirmedSteady, consumedSteady⟩ := steady
    constructor
    · intro snapshot inside
      have looked : (!confirmed.isEmpty) = true := by simpa using List.ne_nil_of_mem inside
      rw [sameContent .confirmed looked]
      exact confirmedSteady snapshot inside
    · intro snapshot inside
      have looked : (!consumed.isEmpty) = true := by simpa using List.ne_nil_of_mem inside
      rw [sameContent .consumed looked]
      exact consumedSteady snapshot inside
  | confirmedReplaced statistics =>
    rw [reporter] at steady
    exact steady
  | idleReplaced confirmed => trivial

theorem steady_update {thread : U} (steady : Steady state) (stepped : state.step (.update thread) = some next)
    (inTime : UpdatesInTime state (.update thread) = true) : Steady next := by
  obtain ⟨kind, latency, histogram, reading, rfl⟩ := step_update stepped
  refine steady_congr steady rfl fun other window => ?_
  by_cases same : other = kind
  · subst same
    unfold UpdatesInTime at inTime
    dsimp only at inTime
    rw [reading] at inTime
    dsimp only at inTime
    rw [window, Bool.not_true, Bool.and_false] at inTime
    cases inTime
  · exact content_record_other same

theorem steady_step (steady : Steady state) (stepped : state.step label = some next)
    (inTime : UpdatesInTime state label = true) : Steady next := by
  cases label with
  | update thread => exact steady_update steady stepped inTime
  | readReference thread kind latency =>
    obtain rfl := step_readReference stepped
    exact steady_congr steady rfl fun kind _ => rfl
  | report =>
    obtain ⟨reporter, rfl⟩ := step_report stepped
    exact ⟨fun snapshot inside => absurd inside List.not_mem_nil, fun snapshot inside => absurd inside List.not_mem_nil⟩
  | snapshot =>
    obtain ⟨confirmed, consumed, reporter, rfl | rfl⟩ := step_snapshot stepped
    all_goals
      unfold Steady at steady
      rw [reporter] at steady
      obtain ⟨confirmedSteady, consumedSteady⟩ := steady
    · exact ⟨List.forall_mem_append.mpr ⟨confirmedSteady, List.forall_mem_singleton.mpr rfl⟩, consumedSteady⟩
    · exact ⟨confirmedSteady, List.forall_mem_append.mpr ⟨consumedSteady, List.forall_mem_singleton.mpr rfl⟩⟩
  | replaceConfirmed =>
    obtain ⟨statistics, reporter, full, rfl⟩ := step_replaceConfirmed stepped
    unfold Steady at steady
    rw [reporter] at steady
    rintro (_ | _)
    · exact uniform_of_content (full .confirmed) steady.1
    · exact uniform_of_content (full .consumed) steady.2
  | idle =>
    obtain ⟨reporter, rfl⟩ := step_idle stepped
    trivial
  | replaceConsumed =>
    rcases step_replaceConsumed stepped with ⟨statistics, reporter, rfl⟩ | ⟨samples, reporter, consumed, rfl⟩
    · trivial
    · trivial

structure Accountable (state : LatencyHistograms S U) : Prop where
  created : KnownHistograms state
  steady : Steady state
  uniform : ∀ report ∈ state.reports, ∀ kind, Uniform (report kind)
  balanced : ∀ kind, state.recorded kind = accounted state kind

omit [DecidableEq U] in
theorem Accountable.initial : Accountable (LatencyHistograms.initial : LatencyHistograms S U) := by
  refine ⟨⟨fun _ _ _ => rfl, fun _ _ _ _ reading => by cases reading⟩, trivial, ?_, fun _ => rfl⟩
  exact fun report inside => absurd inside List.not_mem_nil

theorem uniform_step (steady : Steady state) (uniform : ∀ report ∈ state.reports, ∀ kind, Uniform (report kind))
    (stepped : state.step label = some next) : ∀ report ∈ next.reports, ∀ kind, Uniform (report kind) := by
  cases label with
  | readReference thread kind latency =>
    obtain rfl := step_readReference stepped
    exact uniform
  | update thread =>
    obtain ⟨kind, latency, histogram, reading, rfl⟩ := step_update stepped
    exact uniform
  | report =>
    obtain ⟨reporter, rfl⟩ := step_report stepped
    exact uniform
  | snapshot =>
    obtain ⟨confirmed, consumed, reporter, rfl | rfl⟩ := step_snapshot stepped
    · exact uniform
    · exact uniform
  | replaceConfirmed =>
    obtain ⟨statistics, reporter, full, rfl⟩ := step_replaceConfirmed stepped
    exact uniform
  | idle =>
    obtain ⟨reporter, rfl⟩ := step_idle stepped
    exact uniform
  | replaceConsumed =>
    rcases step_replaceConsumed stepped with ⟨statistics, reporter, rfl⟩ | ⟨samples, reporter, consumed, rfl⟩
    · unfold Steady at steady
      rw [reporter] at steady
      exact List.forall_mem_append.mpr ⟨uniform, List.forall_mem_singleton.mpr steady⟩
    · exact uniform

theorem balanced_step (created : KnownHistograms state) (balanced : ∀ kind, state.recorded kind = accounted state kind)
    (stepped : state.step label = some next) (inTime : UpdatesInTime state label = true) :
    ∀ kind, next.recorded kind = accounted next kind := by
  intro kind
  by_cases update : ∃ thread, label = .update thread
  · obtain ⟨thread, rfl⟩ := update
    obtain ⟨-, -, owner, latency, recorded, accounts⟩ := updated created stepped
    rw [recorded, accounts, inTime, balanced]
    simp
  · have quiet := quiet_step stepped fun thread same => update ⟨thread, same⟩
    rw [quiet.recorded, quiet.accounted created, balanced]

theorem Accountable.step (sound : Accountable state) (stepped : state.step label = some next)
    (inTime : UpdatesInTime state label = true) : Accountable next :=
  ⟨knownHistograms_step sound.created stepped, steady_step sound.steady stepped inTime,
    uniform_step sound.steady sound.uniform stepped, balanced_step sound.created sound.balanced stepped inTime⟩

structure ReportedOnce (state : LatencyHistograms S U) : Prop where
  uniform : ∀ report ∈ state.reports, ∀ kind, Uniform (report kind)
  once : ∀ kind, state.recorded kind = (state.reports.map fun report => samplesOf (report kind)).sum +
    (state.idleIntervals.map fun samples => samples kind).sum + state.content kind

/-- Exactly if no update came between the snapshots of its histogram or after them, or missed the replacement. -/
theorem latencies_reported_once_iff (labels : List (LatencyStep S U)) {final : LatencyHistograms S U}
    (executed : run LatencyHistograms.step LatencyHistograms.initial labels = some final)
    (betweenTicks : final.reporter = .waiting) :
    ReportedOnce final ↔
      run (restrict UpdatesInTime LatencyHistograms.step) LatencyHistograms.initial labels = some final := by
  have counted : ∀ kind, accounted final kind = (final.reports.map fun report => samplesOf (report kind)).sum +
      (final.idleIntervals.map fun samples => samples kind).sum + final.content kind := by
    intro kind
    unfold accounted pending
    rw [betweenTicks]
  constructor
  · intro reported
    have nothingLost : unaccounted final = unaccounted (LatencyHistograms.initial : LatencyHistograms S U) := by
      unfold unaccounted
      rw [reported.once, reported.once, counted, counted]
      simp [LatencyHistograms.initial, accounted, pending, content]
    have restricted := run_restrict_of_measure unaccounted KnownHistograms
      (fun state label next created stepped => knownHistograms_step created stepped)
      (fun state label next created stepped => unaccounted_in_time created stepped)
      (fun state label next created stepped => unaccounted_late created stepped) Accountable.initial.created executed
    exact restricted.2 nothingLost
  · intro restricted
    have sound : Accountable final := run_invariant Accountable
      (fun state label next sound stepped => sound.step (restrict_some.mp stepped).2 (restrict_some.mp stepped).1)
      Accountable.initial restricted
    exact ⟨sound.uniform, fun kind => (sound.balanced kind).trans (counted kind)⟩

end Steps

def wholeReport : List (LatencyStep ℤ Unit) :=
  .report :: List.replicate 12 .snapshot ++ [.replaceConfirmed, .replaceConsumed]

/-- A sample before the report is in it. -/
theorem sample_before_report :
    ∃ final : LatencyHistograms ℤ Unit,
      run LatencyHistograms.step LatencyHistograms.initial
        ([.readReference () .consumed 7, .update ()] ++ wholeReport) = some final ∧ ReportedOnce final := by
  refine ⟨_, rfl, ?_⟩
  exact (latencies_reported_once_iff ([.readReference () .consumed 7, .update ()] ++ wholeReport) rfl rfl).mpr rfl

/-- One sample comes between the first two snapshots of its histogram, the other one after the last snapshot of its. -/
theorem samples_during_report :
    ∃ final : LatencyHistograms ℤ Unit,
      run LatencyHistograms.step LatencyHistograms.initial
        ([.report, .snapshot, .readReference () .confirmed 5, .update ()] ++ List.replicate 11 .snapshot ++
          [.readReference () .consumed 7, .update (), .replaceConfirmed, .replaceConsumed]) = some final ∧
      final.reporter = .waiting ∧
      final.reports.map (· .confirmed) = [[0, {5}, {5}, {5}, {5}, {5}]] ∧
      final.recorded .consumed = {7} ∧ final.reports.map (· .consumed) = [[0, 0, 0, 0, 0, 0]] ∧
      final.content .consumed = 0 ∧ ¬ ReportedOnce final := by
  refine ⟨_, rfl, rfl, rfl, rfl, rfl, rfl, fun reported => ?_⟩
  have once := congrArg Multiset.card (reported.once .consumed)
  revert once
  decide

end PerfTestProof
