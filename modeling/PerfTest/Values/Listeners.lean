import Mathlib.Data.List.Nodup
import PerfTest.Systems.Runs
import PerfTest.Values.Schedule

open Java (RuntimeException)

namespace PerfTestModel

/-- The comparisons and the constant that the producer needs of its rates, which are Floats. -/
structure RateOperations (T : Type) where
  nonneg : T → Bool
  positive : T → Bool
  one : T

namespace Producer

variable {T : Type} (operations : RateOperations T)

def rateLimiter (value : T) (isVariable : Bool) : Option T :=
  if operations.nonneg value && isVariable then some (if operations.positive value then value else operations.one)
  else if operations.nonneg value && !isVariable then if operations.positive value then some value else none
  else none

/-- The listener of the producer. Creating a limiter with a positive rate does not throw. -/
def valueChanged (newValue reference : T) : T := if operations.positive newValue then newValue else reference

end Producer

namespace VariableValueIndicator

inductive Listener (P L : Type)
  | producer (producer : P)
  | other (listener : L)
  deriving DecidableEq, Repr

structure Tick (P L : Type) where
  now : ℤ
  order : List (Listener P L)
  ends : L → Ending

def Tick.endsOf {P L : Type} (tick : Tick P L) : Listener P L → Ending
  | .producer _ => .returns
  | .other listener => tick.ends listener

/-- The indicator with the rate limiters of its producers. A task that has thrown is not run again. -/
structure Indicator (P L T : Type) where
  value : T
  suppressed : Bool
  notifications : List (Notification (Listener P L) T)
  limiter : P → Option T

variable {P L T : Type} [DecidableEq P] [DecidableEq L] [DecidableEq T] (operations : RateOperations T)
  (intervals : List (Interval T)) (registered : List (Listener P L)) (startTime cycle : ℤ)

def receive (limiter : P → Option T) (notification : Notification (Listener P L) T) : P → Option T :=
  match notification.listener with
  | .producer producer => fun other =>
    if other = producer then (limiter other).map (Producer.valueChanged operations notification.newValue)
    else limiter other
  | .other _ => limiter

def tick (indicator : Indicator P L T) (tick : Tick P L) : Option (Indicator P L T) :=
  if ¬ indicator.suppressed ∧ tick.order.Perm registered then
    let update := updateValueIfNecessary intervals startTime tick.now cycle indicator.value tick.order tick.endsOf
    some
      { value := update.value
        suppressed := update.thrown.isSome
        notifications := indicator.notifications ++ update.notifications
        limiter := update.notifications.foldl (receive operations) indicator.limiter }
  else none

def constructed (initial : T) : Indicator P L T :=
  ⟨initial, false, [], fun _ => Producer.rateLimiter operations initial true⟩

end VariableValueIndicator

end PerfTestModel

namespace PerfTestProof

open PerfTestModel PerfTestModel.VariableValueIndicator

variable {P L T : Type} {operations : RateOperations T}

section Notifying

theorem notifyAll_complete {ends : L → Ending} {listeners : List L}
    (noError : ∀ listener ∈ listeners, ends listener ≠ .error)
    (oldValue newValue : T) :
    notifyAll ends oldValue newValue listeners = (listeners.map (⟨·, oldValue, newValue⟩), none) := by
  induction listeners with
  | nil => rfl
  | cons listener listeners ih =>
    obtain ⟨own, later⟩ := List.forall_mem_cons.mp noError
    rw [notifyAll, if_neg own, ih later]
    rfl

/-- An update either leaves the value and tells nobody or changes it and tells everybody. -/
theorem updateValue_cases [DecidableEq T] {intervals : List (Interval T)} {startTime now cycle : ℤ} {value : T}
    {listeners : List L} {ends : L → Ending} (noError : ∀ listener ∈ listeners, ends listener ≠ .error) :
    let update := updateValueIfNecessary intervals startTime now cycle value listeners ends
    (cycle ≠ 0 → update.thrown = none) ∧
      ((update.value = value ∧ update.notifications = []) ∨
        (update.value ≠ value ∧ update.notifications = listeners.map (⟨·, value, update.value⟩))) := by
  dsimp only
  unfold updateValueIfNecessary
  split
  case isTrue zero => exact ⟨fun nonzero => absurd zero nonzero, Or.inl ⟨rfl, rfl⟩⟩
  case isFalse nonzero =>
    dsimp only
    split
    case h_1 interval found =>
      split
      case isTrue same => exact ⟨fun _ => rfl, Or.inl ⟨rfl, rfl⟩⟩
      case isFalse changed =>
        rw [notifyAll_complete noError]
        exact ⟨fun _ => rfl, Or.inr ⟨Ne.symm changed, rfl⟩⟩
    case h_2 none => exact ⟨fun _ => rfl, Or.inl ⟨rfl, rfl⟩⟩

end Notifying

def ChainsTo (value : T) : List (Notification L T) → T → Prop
  | [], final => value = final
  | notification :: later, final => notification.oldValue = value ∧ ChainsTo notification.newValue later final

theorem ChainsTo.snoc {value final : T} {notifications : List (Notification L T)}
    (chain : ChainsTo value notifications final)
    (listener : L) (next : T) : ChainsTo value (notifications ++ [⟨listener, final, next⟩]) next := by
  induction notifications generalizing value with
  | nil => exact ⟨chain.symm, rfl⟩
  | cons notification later ih => exact ⟨chain.1, ih chain.2⟩

section Limiters

variable [DecidableEq P] {oldValue newValue : T} {producer : P} {listeners : List (Listener P L)}

theorem receive_other {listener : Listener P L} (other : Listener.producer producer ≠ listener)
    (limiter : P → Option T) :
    receive operations limiter ⟨listener, oldValue, newValue⟩ producer = limiter producer := by
  cases listener with
  | producer owner => exact if_neg fun same => other (congrArg Listener.producer same)
  | other listener => rfl

theorem foldl_receive_absent (absent : Listener.producer producer ∉ listeners) (limiter : P → Option T) :
    (listeners.map (Notification.mk · oldValue newValue)).foldl (receive operations) limiter producer =
      limiter producer := by
  induction listeners generalizing limiter with
  | nil => rfl
  | cons listener listeners ih =>
    rw [List.map_cons, List.foldl_cons, ih (fun inside => absent (List.mem_cons_of_mem listener inside)), receive_other]
    exact fun same => absent (same ▸ List.mem_cons_self)

theorem foldl_receive (distinct : listeners.Nodup) (inside : Listener.producer producer ∈ listeners)
    (limiter : P → Option T) :
    (listeners.map (Notification.mk · oldValue newValue)).foldl (receive operations) limiter producer =
      (limiter producer).map (Producer.valueChanged operations newValue) := by
  induction listeners generalizing limiter with
  | nil => exact absurd inside List.not_mem_nil
  | cons listener listeners ih =>
    obtain ⟨notLater, laterDistinct⟩ := List.nodup_cons.mp distinct
    rw [List.map_cons, List.foldl_cons]
    rcases List.mem_cons.mp inside with rfl | later
    · rw [foldl_receive_absent notLater]
      exact if_pos rfl
    · rw [ih laterDistinct later, receive_other]
      rintro rfl
      exact notLater later

end Limiters

section Runs

variable [DecidableEq P] [DecidableEq L] [DecidableEq T] {intervals : List (Interval T)}
  {registered : List (Listener P L)} {startTime cycle : ℤ} {indicator next : Indicator P L T} {event : Tick P L}

def notificationsOf (order : List (Listener P L)) (oldValue newValue : T) : List (Notification (Listener P L) T) :=
  if newValue = oldValue then [] else order.map (Notification.mk · oldValue newValue)

theorem tick_some (noError : ∀ listener, event.ends listener ≠ .error)
    (ticked : tick operations intervals registered startTime cycle indicator event = some next) :
    event.order.Perm registered ∧ (cycle ≠ 0 → next.suppressed = false) ∧
      next.notifications = indicator.notifications ++ notificationsOf event.order indicator.value next.value ∧
      next.limiter = (notificationsOf event.order indicator.value next.value).foldl (receive operations)
        indicator.limiter := by
  unfold tick at ticked
  obtain ⟨enabled, result⟩ := Option.ite_none_right_eq_some.mp ticked
  obtain rfl := Option.some.inj result
  refine ⟨enabled.2, ?_⟩
  have complete : ∀ listener ∈ event.order, event.endsOf listener ≠ .error := by
    rintro (producer | listener) -
    · exact Ending.noConfusion
    · exact noError listener
  unfold notificationsOf
  obtain ⟨completed, outcome⟩ := updateValue_cases (T := T) complete
  refine ⟨fun nonzero => by rw [completed nonzero]; rfl, ?_⟩
  rcases outcome with ⟨same, none⟩ | ⟨changed, all⟩
  · rw [if_pos same, none]
    exact ⟨rfl, rfl⟩
  · rw [if_neg changed, all]
    exact ⟨rfl, rfl⟩

structure Informed (operations : RateOperations T) (registered : List (Listener P L)) (cycle : ℤ) (initial : T)
    (indicator : Indicator P L T) : Prop where
  running : cycle ≠ 0 → indicator.suppressed = false
  chains : ∀ listener ∈ registered,
    ChainsTo initial (indicator.notifications.filter (·.listener = listener)) indicator.value
  limiter : ∀ producer, Listener.producer producer ∈ registered →
    ∃ rate, indicator.limiter producer = some rate ∧
      (operations.positive indicator.value = true → rate = indicator.value)

theorem filter_notificationsOf {order : List (Listener P L)} (distinct : order.Nodup) {listener : Listener P L}
    (inside : listener ∈ order) {oldValue newValue : T} (changed : newValue ≠ oldValue) :
    (notificationsOf order oldValue newValue).filter (·.listener = listener) = [⟨listener, oldValue, newValue⟩] := by
  have onlyOne : order.filter (· = listener) = [listener] := by
    rw [List.filter_eq, List.count_eq_one_of_mem distinct inside]
    rfl
  unfold notificationsOf
  rw [if_neg changed, List.filter_map]
  exact congrArg (List.map (Notification.mk · oldValue newValue)) onlyOne

theorem Informed.tick {initial : T} (distinct : registered.Nodup) (noError : ∀ listener, event.ends listener ≠ .error)
    (informed : Informed operations registered cycle initial indicator)
    (ticked : tick operations intervals registered startTime cycle indicator event = some next) :
    Informed operations registered cycle initial next := by
  obtain ⟨sameListeners, running, notified, limiters⟩ := tick_some noError ticked
  have orderDistinct : event.order.Nodup := sameListeners.symm.nodup distinct
  by_cases changed : next.value = indicator.value
  · have silent : notificationsOf event.order indicator.value next.value = [] := if_pos changed
    rw [silent, List.append_nil] at notified
    rw [silent] at limiters
    refine ⟨running, ?_, ?_⟩
    · intro listener inside
      rw [notified, changed]
      exact informed.chains listener inside
    · intro producer inside
      rw [limiters, changed]
      exact informed.limiter producer inside
  · refine ⟨running, ?_, ?_⟩
    · intro listener inside
      rw [notified, List.filter_append,
        filter_notificationsOf orderDistinct (sameListeners.symm.subset inside) changed]
      exact (informed.chains listener inside).snoc listener next.value
    · intro producer inside
      obtain ⟨rate, created, -⟩ := informed.limiter producer inside
      refine ⟨Producer.valueChanged operations next.value rate, ?_, fun positive => if_pos positive⟩
      rw [limiters, notificationsOf, if_neg changed,
        foldl_receive orderDistinct (sameListeners.symm.subset inside), created]
      rfl

omit [DecidableEq T] in
theorem Informed.constructed {initial : T} (nonneg : operations.nonneg initial = true) :
    Informed operations registered cycle initial (constructed operations initial : Indicator P L T) := by
  refine ⟨fun _ => rfl, fun listener inside => rfl, ?_⟩
  · intro producer inside
    refine ⟨if operations.positive initial then initial else operations.one, ?_, fun positive => if_pos positive⟩
    show Producer.rateLimiter operations initial true = _
    rw [Producer.rateLimiter, nonneg]
    rfl

def ticked (operations : RateOperations T) (intervals : List (Interval T)) (registered : List (Listener P L))
    (startTime cycle : ℤ) (initial : T) (events : List (Tick P L)) : Option (Indicator P L T) :=
  Systems.run (tick operations intervals registered startTime cycle) (constructed operations initial) events

theorem informed_of_ticked {initial : T} (nonneg : operations.nonneg initial = true) (distinct : registered.Nodup)
    {events : List (Tick P L)} (noError : ∀ event ∈ events, ∀ listener, event.ends listener ≠ .error)
    (reached : ticked operations intervals registered startTime cycle initial events = some indicator) :
    Informed operations registered cycle initial indicator :=
  Systems.run_invariant_on (Informed operations registered cycle initial)
    (fun event => ∀ listener, event.ends listener ≠ .error)
    (fun _ _ _ noError informed stepped => informed.tick distinct noError stepped) noError
    (Informed.constructed nonneg) reached

omit [DecidableEq T] in
theorem first_nonneg {conversion : String → Except RuntimeException T} {definitions : List String} {first : Interval T}
    (keepsSign : ∀ text number converted, Java.parseInt text = some number → 0 ≤ number →
      conversion text = .ok converted → operations.nonneg converted = true)
    (parsed : VariableValueIndicator.intervals conversion definitions = .ok intervals)
    (isFirst : intervals.head? = some first) : operations.nonneg first.value = true := by
  cases definitions with
  | nil =>
    cases parsed
    cases isFirst
  | cons definition definitions =>
    obtain ⟨value, duration, extra, accepted, written⟩ := valid_iff.mp (validate_ok.mp (valid_of_intervals parsed))
    obtain ⟨number, read, nonneg⟩ := accepted.value
    obtain ⟨length, readLength, -⟩ := accepted.duration
    unfold VariableValueIndicator.intervals at parsed
    rw [intervalsFrom_cons accepted written readLength] at parsed
    cases result : conversion value with
    | error thrown =>
      rw [result] at parsed
      cases parsed
    | ok converted =>
      cases later : intervalsFrom conversion (Java.int (0 + length)) definitions with
      | error thrown =>
        rw [result, later] at parsed
        cases parsed
      | ok rest =>
        rw [result, later] at parsed
        cases parsed
        cases isFirst
        exact keepsSign value number converted read nonneg result

/-- Listeners may throw exceptions, but no errors. -/
theorem rate_changes_reach_producers {conversion : String → Except RuntimeException T} {definitions : List String}
    {first : Interval T}
    (keepsSign : ∀ text number converted, Java.parseInt text = some number → 0 ≤ number →
      conversion text = .ok converted → operations.nonneg converted = true)
    (parsed : VariableValueIndicator.intervals conversion definitions = .ok intervals)
    (isFirst : intervals.head? = some first)
    (distinct : registered.Nodup) {events : List (Tick P L)}
    (noError : ∀ event ∈ events, ∀ listener, event.ends listener ≠ .error)
    (reached : ticked operations intervals registered startTime cycle first.value events = some indicator) :
    (cycle ≠ 0 → indicator.suppressed = false) ∧
      (∀ event next, (∀ listener, event.ends listener ≠ .error) →
        VariableValueIndicator.tick operations intervals registered startTime cycle indicator event = some next →
        ∃ added, next.notifications = indicator.notifications ++ added ∧
          added.Perm (if next.value = indicator.value then []
            else registered.map (Notification.mk · indicator.value next.value))) ∧
      (∀ listener ∈ registered,
        ChainsTo first.value (indicator.notifications.filter (·.listener = listener)) indicator.value) ∧
      ∀ producer, Listener.producer producer ∈ registered → operations.positive indicator.value = true →
        indicator.limiter producer = some indicator.value := by
  have informed := informed_of_ticked (first_nonneg keepsSign parsed isFirst) distinct noError reached
  refine ⟨informed.running, ?_, informed.chains, ?_⟩
  · intro event next noErrorNow stepped
    obtain ⟨sameListeners, -, notified, -⟩ := tick_some noErrorNow stepped
    refine ⟨_, notified, ?_⟩
    unfold notificationsOf
    split
    case isTrue same => exact List.Perm.refl []
    case isFalse changed => exact sameListeners.map _
  · intro producer inside positive
    obtain ⟨rate, created, current⟩ := informed.limiter producer inside
    rw [created, current positive]

end Runs

section Rates

def integers : RateOperations ℤ := ⟨fun rate => 0 ≤ rate, fun rate => 0 < rate, 1⟩

theorem valueOf_keeps_sign (text : String) (number converted : ℤ) (read : Java.parseInt text = some number)
    (nonneg : 0 ≤ number) (result : valueOf text = .ok converted) : integers.nonneg converted = true := by
  rw [valueOf, read] at result
  cases result
  exact decide_eq_true nonneg

def silentThenFast : List (Tick Unit Unit) := [⟨0, [.producer (), .other ()], fun _ => .exception⟩,
  ⟨1000000000, [.other (), .producer ()], fun _ => .exception⟩]

/-- A rate of 0 for a second, then 7: the limiter is created with 7 although the other listener throws. -/
theorem seven_after_silence :
    (ticked integers [⟨0, 1, 0⟩, ⟨1, 3, 7⟩] [.producer (), .other ()] 0 3 0 silentThenFast).map (·.limiter ()) =
      some (some 7) := by
  have parsed : VariableValueIndicator.intervals valueOf ["0:1", "7:2"] = .ok [⟨0, 1, 0⟩, ⟨1, 3, 7⟩] := by
    decide +kernel
  have distinct : ([.producer (), .other ()] : List (Listener Unit Unit)).Nodup := by decide
  have noError : ∀ event ∈ silentThenFast, ∀ listener, event.ends listener ≠ .error := by
    intro event inside listener
    rcases List.mem_cons.mp inside with rfl | later
    · exact Ending.noConfusion
    · rw [List.mem_singleton.mp later]
      exact Ending.noConfusion
  cases reached : ticked integers [⟨0, 1, 0⟩, ⟨1, 3, 7⟩] [.producer (), .other ()] 0 3 0 silentThenFast with
  | none => cases reached
  | some indicator =>
    have current : some 7 = some indicator.value := congrArg (Option.map Indicator.value) reached
    have seven : 7 = indicator.value := Option.some.inj current
    have created := (rate_changes_reach_producers valueOf_keeps_sign parsed rfl distinct noError reached).2.2.2 ()
      List.mem_cons_self (by rw [← seven]; rfl)
    rw [Option.map_some, created, ← seven]

/-- An Error of a listener leaves the loop: the producer goes on at 5 messages per second while the value is 7. -/
theorem error_stops_notifications :
    ∃ indicator, ticked integers [⟨0, 1, 5⟩, ⟨1, 3, 7⟩] [.producer (), .other ()] 0 3 5
        [⟨1000000000, [.other (), .producer ()], fun _ => .error⟩] = some indicator ∧
      indicator.value = 7 ∧ indicator.limiter () = some 5 ∧
      indicator.notifications = [⟨.other (), 5, 7⟩] ∧ indicator.suppressed = true :=
  ⟨_, rfl, rfl, rfl, rfl, rfl⟩

end Rates

end PerfTestProof
