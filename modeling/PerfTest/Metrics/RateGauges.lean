import Mathlib.Algebra.Order.Field.Basic
import Mathlib.Data.Rat.Cast.Order
import Mathlib.Tactic.FieldSimp
import Mathlib.Tactic.Ring
import PerfTest.Java.Primitives

namespace PerfTestModel

inductive MetricKind where
  | published
  | confirmed
  | nacked
  | returned
  | received
  deriving DecidableEq, Repr

structure RateGauge where
  current : ℤ
  last : ℤ
  gauge : ℚ
  deriving DecidableEq, Repr

structure MetricsReport where
  durationSinceStart : ℤ
  rates : MetricKind → ℚ

structure DefaultPerformanceMetrics where
  started : Bool
  startTime : ℤ
  lastTick : ℤ
  of : MetricKind → RateGauge
  reports : List MetricsReport

inductive MetricsEvent where
  | published
  | confirmed (count : ℕ)
  | nacked (count : ℕ)
  | returned
  | received
  deriving DecidableEq, Repr

structure MetricsTick where
  events : List MetricsEvent
  time : ℤ
  deriving DecidableEq, Repr

namespace RateGauge

def rate (count elapsedInMs : ℤ) : ℚ := 1000 * count / elapsedInMs

def swapAndCalculateRate (gauge : RateGauge) (elapsedTimeInMs : ℤ) : ℚ × RateGauge :=
  (rate (gauge.current - gauge.last) elapsedTimeInMs, { gauge with last := gauge.current })

/-- The accumulator function of a gauge keeps the last value. -/
def accumulate (gauge : RateGauge) (rate : ℚ) : RateGauge := { gauge with gauge := rate }

def addAndGet (gauge : RateGauge) (count : ℤ) : RateGauge := { gauge with current := gauge.current + count }

end RateGauge

namespace DefaultPerformanceMetrics

def create (now : ℤ) : DefaultPerformanceMetrics := ⟨false, now, now, fun _ => ⟨0, 0, 0⟩, []⟩

def start (now : ℤ) (metrics : DefaultPerformanceMetrics) : DefaultPerformanceMetrics :=
  if metrics.started then metrics else { metrics with started := true, startTime := now, lastTick := now }

def noActivity (metrics : DefaultPerformanceMetrics) : Bool :=
  [MetricKind.published, .confirmed, .nacked, .returned, .received].all fun kind =>
    (metrics.of kind).current == (metrics.of kind).last

def metrics (currentTime : ℤ) (metrics : DefaultPerformanceMetrics) : DefaultPerformanceMetrics :=
  let elapsedTimeInMs := Java.toMillis (currentTime - metrics.lastTick)
  let rates (kind : MetricKind) : ℚ := ((metrics.of kind).swapAndCalculateRate elapsedTimeInMs).1
  let report : MetricsReport := ⟨currentTime - metrics.startTime, rates⟩
  { metrics with
    lastTick := currentTime
    of := fun kind => ((metrics.of kind).swapAndCalculateRate elapsedTimeInMs).2.accumulate (rates kind)
    reports := if metrics.started then metrics.reports ++ [report] else metrics.reports }

def tick (now : ℤ) (metrics : DefaultPerformanceMetrics) : DefaultPerformanceMetrics :=
  if !metrics.started then metrics
  else if metrics.noActivity then { metrics with of := fun kind => (metrics.of kind).accumulate 0 }
  else metrics.metrics now

def count (kind : MetricKind) (count : ℤ) (metrics : DefaultPerformanceMetrics) : DefaultPerformanceMetrics :=
  { metrics with of := fun other => if other = kind then (metrics.of kind).addAndGet count else metrics.of other }

def published (metrics : DefaultPerformanceMetrics) : DefaultPerformanceMetrics := metrics.count .published 1

def confirmed (count : ℕ) (metrics : DefaultPerformanceMetrics) : DefaultPerformanceMetrics :=
  metrics.count .confirmed count

def nacked (count : ℕ) (metrics : DefaultPerformanceMetrics) : DefaultPerformanceMetrics :=
  metrics.count .nacked count

def returned (metrics : DefaultPerformanceMetrics) : DefaultPerformanceMetrics := metrics.count .returned 1

def received (metrics : DefaultPerformanceMetrics) : DefaultPerformanceMetrics := metrics.count .received 1

def record (metrics : DefaultPerformanceMetrics) : MetricsEvent → DefaultPerformanceMetrics
  | .published => metrics.published
  | .confirmed count => metrics.confirmed count
  | .nacked count => metrics.nacked count
  | .returned => metrics.returned
  | .received => metrics.received

def ticked (metrics : DefaultPerformanceMetrics) (tick : MetricsTick) : DefaultPerformanceMetrics :=
  (tick.events.foldl record metrics).tick tick.time

end DefaultPerformanceMetrics

end PerfTestModel

namespace PerfTestProof

open PerfTestModel

def eventCount (kind : MetricKind) : MetricsEvent → ℕ
  | .published => if kind = .published then 1 else 0
  | .confirmed count => if kind = .confirmed then count else 0
  | .nacked count => if kind = .nacked then count else 0
  | .returned => if kind = .returned then 1 else 0
  | .received => if kind = .received then 1 else 0

def tickCount (kind : MetricKind) (tick : MetricsTick) : ℕ := (tick.events.map (eventCount kind)).sum

def recorded (kind : MetricKind) (ticks : List MetricsTick) : ℕ := (ticks.map (tickCount kind)).sum

def integrated (kind : MetricKind) (metrics : DefaultPerformanceMetrics) (previous : ℤ) : List MetricsTick → ℚ
  | [] => 0
  | tick :: ticks =>
    ((metrics.ticked tick).of kind).gauge * ((tick.time - previous : ℤ) / 1000000000) +
      integrated kind (metrics.ticked tick) tick.time ticks

def Active (tick : MetricsTick) : Prop := ∃ kind, tickCount kind tick ≠ 0

def Timely (previous : ℤ) : List MetricsTick → Prop
  | [] => True
  | tick :: ticks => previous + 1000000 ≤ tick.time ∧ 1000000 ∣ tick.time ∧ Timely tick.time ticks

structure AllReported (metrics : DefaultPerformanceMetrics) (previous : ℤ) : Prop where
  started : metrics.started = true
  reported : ∀ kind, (metrics.of kind).current = (metrics.of kind).last
  whole : 1000000 ∣ metrics.lastTick
  earlier : metrics.lastTick ≤ previous

section

variable {metrics : DefaultPerformanceMetrics} {previous : ℤ} {tick : MetricsTick}

theorem record_of (metrics : DefaultPerformanceMetrics) (kind : MetricKind) (event : MetricsEvent) :
    (metrics.record event).of kind = (metrics.of kind).addAndGet (eventCount kind event) ∧
      (metrics.record event).started = metrics.started ∧ (metrics.record event).lastTick = metrics.lastTick := by
  refine ⟨?_, by cases event <;> rfl, by cases event <;> rfl⟩
  cases event <;> cases kind <;> simp [DefaultPerformanceMetrics.record, DefaultPerformanceMetrics.published,
    DefaultPerformanceMetrics.confirmed, DefaultPerformanceMetrics.nacked, DefaultPerformanceMetrics.returned,
    DefaultPerformanceMetrics.received, DefaultPerformanceMetrics.count, eventCount, RateGauge.addAndGet]

theorem foldl_record (metrics : DefaultPerformanceMetrics) (kind : MetricKind) (events : List MetricsEvent) :
    (events.foldl DefaultPerformanceMetrics.record metrics).of kind =
        (metrics.of kind).addAndGet ((events.map (eventCount kind)).sum : ℕ) ∧
      (events.foldl DefaultPerformanceMetrics.record metrics).started = metrics.started ∧
      (events.foldl DefaultPerformanceMetrics.record metrics).lastTick = metrics.lastTick := by
  induction events generalizing metrics with
  | nil => simp [RateGauge.addAndGet]
  | cons event events ih =>
    obtain ⟨of, started, lastTick⟩ := ih (metrics.record event)
    obtain ⟨first, same, kept⟩ := record_of metrics kind event
    refine ⟨?_, started.trans same, lastTick.trans kept⟩
    rw [List.foldl_cons, of, first]
    simp [RateGauge.addAndGet, add_assoc]

theorem noActivity_iff : metrics.noActivity = true ↔ ∀ kind, (metrics.of kind).current = (metrics.of kind).last := by
  unfold DefaultPerformanceMetrics.noActivity
  simp only [List.all_cons, List.all_nil, Bool.and_true, Bool.and_eq_true, beq_iff_eq]
  constructor
  · rintro ⟨published, confirmed, nacked, returned, received⟩ kind
    cases kind with
    | published => exact published
    | confirmed => exact confirmed
    | nacked => exact nacked
    | returned => exact returned
    | received => exact received
  · exact fun same => ⟨same _, same _, same _, same _, same _⟩

/-- What a tick does: an idle one shows 0 and keeps the time of the last report. -/
theorem ticked_cases (reported : AllReported metrics previous) (timely : Timely previous [tick]) :
    AllReported (metrics.ticked tick) tick.time ∧
    (¬ Active tick ∧ (metrics.ticked tick).lastTick = metrics.lastTick ∧
        (∀ kind, ((metrics.ticked tick).of kind).gauge = 0) ∨
      Active tick ∧ (metrics.ticked tick).lastTick = tick.time ∧
        ∀ kind, ((metrics.ticked tick).of kind).gauge =
          RateGauge.rate (tickCount kind tick) (Java.toMillis (tick.time - metrics.lastTick))) := by
  obtain ⟨started, settled, whole, earlier⟩ := reported
  obtain ⟨later, wholeTime, _⟩ := timely
  have recorded (kind : MetricKind) := foldl_record metrics kind tick.events
  have running := (recorded .published).2.1.trans started
  have kept := (recorded .published).2.2
  have activity : (tick.events.foldl DefaultPerformanceMetrics.record metrics).noActivity = true ↔ ¬ Active tick := by
    rw [noActivity_iff, Active, not_exists]
    refine forall_congr' fun kind => ?_
    rw [(recorded kind).1, not_ne_iff]
    show (metrics.of kind).current + (tickCount kind tick : ℕ) = (metrics.of kind).last ↔ _
    rw [settled kind]
    omega
  unfold DefaultPerformanceMetrics.ticked DefaultPerformanceMetrics.tick
  rw [running, Bool.not_true, if_neg Bool.false_ne_true]
  split
  · rename_i quiet
    have idle := activity.mp quiet
    refine ⟨⟨rfl, fun kind => noActivity_iff.mp quiet kind, ?_, ?_⟩, .inl ⟨idle, kept, fun _ => rfl⟩⟩
    · show 1000000 ∣ (tick.events.foldl DefaultPerformanceMetrics.record metrics).lastTick
      rwa [kept]
    · show (tick.events.foldl DefaultPerformanceMetrics.record metrics).lastTick ≤ tick.time
      rw [kept]
      omega
  · rename_i busy
    have active := not_not.mp (mt activity.mpr busy)
    refine ⟨⟨running, fun _ => rfl, wholeTime, le_rfl⟩, .inr ⟨active, rfl, fun kind => ?_⟩⟩
    have shown : (metrics.of kind).current + (tickCount kind tick : ℕ) - (metrics.of kind).last =
        (tickCount kind tick : ℕ) := by
      rw [settled kind]
      omega
    show RateGauge.rate _ (Java.toMillis (tick.time - _)) = _
    rw [kept, (recorded kind).1]
    show RateGauge.rate ((metrics.of kind).current + (tickCount kind tick : ℕ) - (metrics.of kind).last) _ = _
    rw [shown]

/-- The rate since the last report, taken over the time since the last tick. -/
theorem rate_over {count : ℕ} {last previous now : ℤ} (wholeLast : 1000000 ∣ last) (whole : 1000000 ∣ now)
    (later : last < now) :
    RateGauge.rate count (Java.toMillis (now - last)) * ((now - previous : ℤ) / 1000000000) =
      count * ((now - previous : ℤ) / (now - last : ℤ)) := by
  obtain ⟨ms, elapsed⟩ := Int.dvd_sub whole wholeLast
  have positive : 0 < ms := by omega
  have nonzero : (ms : ℚ) ≠ 0 := by exact_mod_cast ne_of_gt positive
  have millis : Java.toMillis (now - last) = ms := by
    rw [elapsed, Java.toMillis, Int.mul_tdiv_cancel_left _ (by decide)]
  rw [millis, elapsed, RateGauge.rate]
  push_cast
  field_simp
  ring

theorem shown_le (reported : AllReported metrics previous) (timely : Timely previous [tick]) (kind : MetricKind) :
    ((metrics.ticked tick).of kind).gauge * ((tick.time - previous : ℤ) / 1000000000) ≤ tickCount kind tick := by
  obtain ⟨_, ⟨idle, _, shown⟩ | ⟨active, _, shown⟩⟩ := ticked_cases reported timely
  · rw [shown, zero_mul]
    exact Nat.cast_nonneg _
  · have later : metrics.lastTick < tick.time := lt_of_le_of_lt reported.earlier (by have := timely.1; omega)
    rw [shown, rate_over reported.whole timely.2.1 later]
    refine mul_le_of_le_one_right (Nat.cast_nonneg _) (div_le_one_of_le₀ ?_ ?_)
    · exact_mod_cast sub_le_sub_left reported.earlier tick.time
    · exact_mod_cast (sub_pos.mpr later).le

theorem shown_eq_iff (reported : AllReported metrics previous) (timely : Timely previous [tick]) :
    (∀ kind, ((metrics.ticked tick).of kind).gauge * ((tick.time - previous : ℤ) / 1000000000) = tickCount kind tick) ↔
      (Active tick → metrics.lastTick = previous) := by
  have next := timely.1
  obtain ⟨_, ⟨idle, _, shown⟩ | ⟨active, _, shown⟩⟩ := ticked_cases reported timely
  · refine iff_of_true (fun kind => ?_) fun active => absurd active idle
    have none : tickCount kind tick = 0 := not_ne_iff.mp fun some => idle ⟨kind, some⟩
    rw [shown, none, zero_mul, Nat.cast_zero]
  · have later : metrics.lastTick < tick.time := lt_of_le_of_lt reported.earlier (by omega)
    have elapsed : ((tick.time - metrics.lastTick : ℤ) : ℚ) ≠ 0 := by exact_mod_cast (sub_pos.mpr later).ne'
    constructor
    · intro exactly _
      obtain ⟨kind, counts⟩ := active
      have same := exactly kind
      rw [shown, rate_over reported.whole timely.2.1 later, mul_eq_left₀ (Nat.cast_ne_zero.mpr counts),
        div_eq_one_iff_eq elapsed] at same
      have gaps : tick.time - previous = tick.time - metrics.lastTick := by exact_mod_cast same
      omega
    · intro kept kind
      rw [shown, rate_over reported.whole timely.2.1 later, kept active, div_self, mul_one]
      rw [← kept active]
      exact elapsed

theorem integrated_le {ticks : List MetricsTick} (reported : AllReported metrics previous)
    (timely : Timely previous ticks) (kind : MetricKind) :
    integrated kind metrics previous ticks ≤ recorded kind ticks := by
  induction ticks generalizing metrics previous with
  | nil => exact le_rfl
  | cons tick ticks ih =>
    obtain ⟨next, whole, rest⟩ := timely
    have first := shown_le reported ⟨next, whole, trivial⟩ kind
    have others := ih (ticked_cases reported ⟨next, whole, trivial⟩).1 rest
    rw [recorded, List.map_cons, List.sum_cons, Nat.cast_add]
    exact add_le_add first others

/-- No part of the sum is more than what it stands for, so the sums agree only if all parts do. -/
theorem integrated_cons_iff {ticks : List MetricsTick} (reported : AllReported metrics previous)
    (timely : Timely previous (tick :: ticks)) :
    (∀ kind, integrated kind metrics previous (tick :: ticks) = recorded kind (tick :: ticks)) ↔
      (Active tick → metrics.lastTick = previous) ∧
        ∀ kind, integrated kind (metrics.ticked tick) tick.time ticks = recorded kind ticks := by
  obtain ⟨next, whole, rest⟩ := timely
  have one : Timely previous [tick] := ⟨next, whole, trivial⟩
  rw [← shown_eq_iff reported one, ← forall_and]
  refine forall_congr' fun kind => ?_
  have others := integrated_le (ticked_cases reported one).1 rest kind
  rw [recorded, List.map_cons, List.sum_cons, Nat.cast_add, integrated]
  exact add_eq_add_iff_eq_and_eq (shown_le reported one kind) others

theorem integrated_iff {before : MetricsTick} {ticks : List MetricsTick} (reported : AllReported metrics previous)
    (kept : metrics.lastTick = previous ↔ Active before) (timely : Timely previous ticks) :
    (∀ kind, integrated kind metrics previous ticks = recorded kind ticks) ↔
      (before :: ticks).IsChain fun earlier later => Active later → Active earlier := by
  induction ticks generalizing metrics previous before with
  | nil => exact iff_of_true (fun _ => rfl) (.singleton before)
  | cons tick ticks ih =>
    have one : Timely previous [tick] := ⟨timely.1, timely.2.1, trivial⟩
    obtain ⟨next, cases⟩ := ticked_cases reported one
    have keeps : (metrics.ticked tick).lastTick = tick.time ↔ Active tick := by
      rcases cases with ⟨idle, same, _⟩ | ⟨active, now, _⟩
      · have earlier := reported.earlier
        have later := timely.1
        refine iff_of_false (fun now => ?_) idle
        omega
      · exact iff_of_true now active
    rw [integrated_cons_iff reported timely, ih next keeps timely.2.2, kept, List.isChain_cons_cons]

/-- The gauges show all that was recorded exactly if no tick with events comes right after one without. -/
theorem gauges_integrate_iff (created start : ℤ) (ticks : List MetricsTick) (whole : 1000000 ∣ start)
    (timely : Timely start ticks) :
    (∀ kind, integrated kind ((DefaultPerformanceMetrics.create created).start start) start ticks =
        recorded kind ticks) ↔
      ticks.IsChain fun earlier later => Active later → Active earlier := by
  have reported : AllReported ((DefaultPerformanceMetrics.create created).start start) start :=
    ⟨rfl, fun _ => rfl, whole, le_rfl⟩
  cases ticks with
  | nil => exact iff_of_true (fun _ => rfl) .nil
  | cons tick ticks =>
    have one : Timely start [tick] := ⟨timely.1, timely.2.1, trivial⟩
    obtain ⟨next, cases⟩ := ticked_cases reported one
    rw [integrated_cons_iff reported timely]
    refine (and_iff_right fun _ => rfl).trans (integrated_iff next ?_ timely.2.2)
    rcases cases with ⟨idle, same, _⟩ | ⟨active, now, _⟩
    · have later := timely.1
      refine iff_of_false (fun now => ?_) idle
      rw [same] at now
      change start = tick.time at now
      omega
    · exact iff_of_true now active

end

def everySecond (first second : List MetricsEvent) : List MetricsTick := [⟨first, 1000000000⟩, ⟨second, 2000000000⟩]

theorem gauges_integrate_busy :
    integrated .confirmed ((DefaultPerformanceMetrics.create 0).start 0) 0 (everySecond [.published] [.confirmed 2]) =
      recorded .confirmed (everySecond [.published] [.confirmed 2]) := by
  refine (gauges_integrate_iff 0 0 (everySecond [.published] [.confirmed 2]) (by decide)
    ⟨by decide, by decide, by decide, by decide, trivial⟩).mpr ?_ .confirmed
  rw [everySecond, List.isChain_cons_cons]
  exact ⟨fun _ => ⟨.published, by decide⟩, .singleton _⟩

/-- After a quiet second, the message of the next one is shown as half a message a second. -/
theorem gauge_after_idle :
    ¬ ∀ kind, integrated kind ((DefaultPerformanceMetrics.create 0).start 0) 0 (everySecond [] [.published]) =
      recorded kind (everySecond [] [.published]) := by
  intro integrates
  have shown := integrates .published
  revert shown
  decide +kernel

end PerfTestProof
