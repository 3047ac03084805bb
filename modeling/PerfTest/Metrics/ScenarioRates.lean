import Mathlib.Algebra.BigOperators.Group.List.Basic
import Mathlib.Algebra.Order.Field.Basic
import Mathlib.Data.List.Induction
import Mathlib.Data.Rat.Cast.Order
import Mathlib.Tactic.Linarith
import Mathlib.Tactic.Positivity
import Mathlib.Tactic.Ring
import PerfTest.Java.Primitives

namespace Java

/-- The cast of a `double` to `int`, which is towards 0 and keeps to the range. -/
def intOf (value : ℚ) : ℤ := max (-2 ^ 31) (min (2 ^ 31 - 1) (value.num.tdiv value.den))

theorem intOf_between {value : ℚ} {upper : ℤ} (nonneg : 0 ≤ value) (below : value < upper) :
    0 ≤ intOf value ∧ intOf value < upper := by
  have positive : (0 : ℤ) < value.den := by exact_mod_cast value.den_pos
  have numerator : 0 ≤ value.num := Rat.num_nonneg.mpr nonneg
  have quotient : value.num.tdiv value.den = value.num / value.den := Int.tdiv_eq_ediv_of_nonneg numerator
  have lower : 0 ≤ value.num / value.den := Int.ediv_nonneg numerator positive.le
  have within : value.num / value.den < upper := by
    refine Int.ediv_lt_of_lt_mul positive ?_
    rw [← Rat.num_div_den value, div_lt_iff₀ (by exact_mod_cast positive)] at below
    exact_mod_cast below
  unfold intOf
  omega

end Java

namespace PerfTestModel

structure LatencySample where
  avg : ℤ
  min : ℤ
  max : ℤ
  deriving DecidableEq, Repr

structure StatsSample where
  sendMsgRate : ℚ
  sendBytesRate : ℚ
  recvMsgRate : ℚ
  recvBytesRate : ℚ
  elapsed : ℤ
  latency : Option LatencySample
  deriving DecidableEq, Repr

structure ScenarioResults where
  sendMsgRate : ℚ
  sendBytesRate : ℚ
  recvMsgRate : ℚ
  recvBytesRate : ℚ
  avgLatency : Option ℤ
  samples : List StatsSample
  deriving DecidableEq, Repr

structure SimpleScenarioStats where
  intervalInNanoSeconds : ℤ
  minMsgSize : ℤ
  lastStatsTime : ℤ
  sendCountInterval : ℤ
  recvCountInterval : ℤ
  sendCountTotal : ℤ
  recvCountTotal : ℤ
  latencyCountInterval : ℤ
  latencyCountTotal : ℤ
  minLatency : ℤ
  maxLatency : ℤ
  cumulativeLatencyInterval : ℤ
  cumulativeLatencyTotal : ℤ
  elapsedInterval : ℤ
  elapsedTotal : ℤ
  elapsedTotalToIgnore : ℤ
  samples : List StatsSample
  deriving DecidableEq, Repr

inductive StatsEvent where
  | send (now : ℤ)
  | recv (now latency : ℤ)
  deriving DecidableEq, Repr

def StatsEvent.now : StatsEvent → ℤ
  | .send now | .recv now _ => now

namespace SimpleScenarioStats

def ignoreFirst : ℕ := 3

def rate (count elapsed : ℤ) : ℚ := if elapsed = 0 then 0 else 1000 * (count / elapsed)

def intervalAverageLatency (stats : SimpleScenarioStats) : ℤ :=
  stats.cumulativeLatencyInterval.tdiv (1000 * stats.latencyCountInterval)

def overallAverageLatency (stats : SimpleScenarioStats) : ℤ :=
  stats.cumulativeLatencyTotal.tdiv (1000 * stats.latencyCountTotal)

def dropTotals (stats : SimpleScenarioStats) : SimpleScenarioStats :=
  if stats.samples.length = ignoreFirst then
    { stats with
      cumulativeLatencyTotal := 0
      latencyCountTotal := 0
      sendCountTotal := 0
      recvCountTotal := 0
      elapsedTotalToIgnore := stats.elapsedTotal }
  else stats

def sample (stats : SimpleScenarioStats) : StatsSample :=
  let elapsedTime := Java.toMillis stats.elapsedInterval
  { sendMsgRate := rate stats.sendCountInterval elapsedTime
    sendBytesRate := rate stats.sendCountInterval elapsedTime * stats.minMsgSize
    recvMsgRate := rate stats.recvCountInterval elapsedTime
    recvBytesRate := rate stats.recvCountInterval elapsedTime * stats.minMsgSize
    elapsed := stats.elapsedTotal.tdiv 1000000
    latency := if 0 < stats.latencyCountInterval then
      some ⟨stats.intervalAverageLatency, stats.minLatency.tdiv 1000, stats.maxLatency.tdiv 1000⟩ else none }

def report (stats : SimpleScenarioStats) : SimpleScenarioStats :=
  { stats.dropTotals with samples := stats.samples ++ [stats.dropTotals.sample] }

def getSendRate (stats : SimpleScenarioStats) : ℚ :=
  rate stats.sendCountTotal (stats.elapsedTotal - stats.elapsedTotalToIgnore)

def getRecvRate (stats : SimpleScenarioStats) : ℚ :=
  rate stats.recvCountTotal (stats.elapsedTotal - stats.elapsedTotalToIgnore)

def results (stats : SimpleScenarioStats) : ScenarioResults :=
  { sendMsgRate := stats.getSendRate
    sendBytesRate := stats.getSendRate * stats.minMsgSize
    recvMsgRate := stats.getRecvRate
    recvBytesRate := stats.getRecvRate * stats.minMsgSize
    avgLatency := if 0 < stats.latencyCountTotal then some stats.overallAverageLatency else none
    samples := stats.samples }

end SimpleScenarioStats

namespace Stats

def reset (now : ℤ) (stats : SimpleScenarioStats) : SimpleScenarioStats :=
  { stats with
    lastStatsTime := now
    sendCountInterval := 0
    recvCountInterval := 0
    minLatency := Java.longMaxValue
    maxLatency := Java.longMinValue
    latencyCountInterval := 0
    cumulativeLatencyInterval := 0 }

def report (now : ℤ) (stats : SimpleScenarioStats) : SimpleScenarioStats :=
  let elapsed : SimpleScenarioStats := { stats with elapsedInterval := now - stats.lastStatsTime }
  if elapsed.intervalInNanoSeconds ≤ elapsed.elapsedInterval then
    reset now { elapsed with elapsedTotal := elapsed.elapsedTotal + elapsed.elapsedInterval }.report
  else elapsed

def countSend (stats : SimpleScenarioStats) : SimpleScenarioStats :=
  { stats with
    sendCountInterval := stats.sendCountInterval + 1
    sendCountTotal := stats.sendCountTotal + 1 }

def handleSend (now : ℤ) (stats : SimpleScenarioStats) : SimpleScenarioStats := report now (countSend stats)

def countRecv (stats : SimpleScenarioStats) : SimpleScenarioStats :=
  { stats with
    recvCountInterval := stats.recvCountInterval + 1
    recvCountTotal := stats.recvCountTotal + 1 }

def updateLatency (latency : ℤ) (stats : SimpleScenarioStats) : SimpleScenarioStats :=
  if 0 ≤ latency then
    { stats with
      minLatency := min stats.minLatency latency
      maxLatency := max stats.maxLatency latency
      cumulativeLatencyInterval := stats.cumulativeLatencyInterval + latency
      cumulativeLatencyTotal := stats.cumulativeLatencyTotal + latency
      latencyCountInterval := stats.latencyCountInterval + 1
      latencyCountTotal := stats.latencyCountTotal + 1 }
  else stats

def handleRecv (now latency : ℤ) (stats : SimpleScenarioStats) : SimpleScenarioStats :=
  report now (updateLatency latency (countRecv stats))

end Stats

namespace SimpleScenarioStats

def create (interval minMsgSize startTime : ℤ) : SimpleScenarioStats :=
  Stats.reset startTime ⟨interval * 1000000, minMsgSize, 0, 0, 0, 0, 0, 0, 0, 0, 0, 0, 0, 0, 0, 0, []⟩

def handle (stats : SimpleScenarioStats) : StatsEvent → SimpleScenarioStats
  | .send now => Stats.handleSend now stats
  | .recv now latency => Stats.handleRecv now latency stats

def handled (stats : SimpleScenarioStats) (events : List StatsEvent) : SimpleScenarioStats :=
  events.foldl handle stats

end SimpleScenarioStats

/-- `maxRate` of RateVsLatencyScenario: the cast to `int` comes before the division. -/
def maxRate (stats : SimpleScenarioStats) : ℤ := (Java.intOf (stats.getRecvRate + stats.getSendRate)).tdiv 2

end PerfTestModel

namespace PerfTestProof

open PerfTestModel SimpleScenarioStats

inductive Traffic where
  | sent
  | received
  deriving DecidableEq, Repr

namespace Traffic

def counts : Traffic → StatsEvent → Bool
  | .sent, .send _ | .received, .recv _ _ => true
  | .sent, .recv _ _ | .received, .send _ => false

def total (stats : SimpleScenarioStats) : Traffic → ℤ
  | .sent => stats.sendCountTotal
  | .received => stats.recvCountTotal

def interval (stats : SimpleScenarioStats) : Traffic → ℤ
  | .sent => stats.sendCountInterval
  | .received => stats.recvCountInterval

def overallRate (stats : SimpleScenarioStats) : Traffic → ℚ
  | .sent => stats.getSendRate
  | .received => stats.getRecvRate

def sampleRate (sample : StatsSample) : Traffic → ℚ
  | .sent => sample.sendMsgRate
  | .received => sample.recvMsgRate

end Traffic

def Reports (stats : SimpleScenarioStats) (event : StatsEvent) : Prop :=
  stats.intervalInNanoSeconds ≤ event.now - stats.lastStatsTime

def reportedSince (stats : SimpleScenarioStats) : List StatsEvent → List (ℤ × StatsSample)
  | [] => []
  | event :: events =>
    ((stats.handle event).samples.drop stats.samples.length).map
        (fun sample => (event.now - stats.lastStatsTime, sample)) ++
      reportedSince (stats.handle event) events

def timeWeightedMean (traffic : Traffic) (samples : List (ℤ × StatsSample)) : ℚ :=
  (samples.map fun sample => sample.1 * traffic.sampleRate sample.2).sum /
    (samples.map fun sample => (sample.1 : ℚ)).sum

structure RateAgrees (traffic : Traffic) (dropped : SimpleScenarioStats) (since : List StatsEvent) (elapsed : ℤ) :
    Prop where
  counted : traffic.overallRate (dropped.handled since) =
    (since.countP traffic.counts : ℕ) / ((elapsed : ℚ) / 1000000000)
  mean : traffic.overallRate (dropped.handled since) = timeWeightedMean traffic (reportedSince dropped since)

structure Dropped (dropTime : ℤ) (since : List StatsEvent) (stats : SimpleScenarioStats) : Prop where
  more : ignoreFirst < stats.samples.length
  elapsed : stats.elapsedTotal - stats.elapsedTotalToIgnore = stats.lastStatsTime - dropTime
  total : ∀ traffic : Traffic, traffic.total stats = (since.countP traffic.counts : ℕ)

section

variable {stats : SimpleScenarioStats} {event : StatsEvent} {traffic : Traffic} {dropTime : ℤ}
  {since : List StatsEvent}

structure EventCounted (event : StatsEvent) (stats after : SimpleScenarioStats) : Prop where
  total : ∀ traffic : Traffic, traffic.total after = traffic.total stats + (traffic.counts event).toNat
  interval : ∀ traffic : Traffic, traffic.interval after = traffic.interval stats + (traffic.counts event).toNat
  same : after.intervalInNanoSeconds = stats.intervalInNanoSeconds ∧ after.lastStatsTime = stats.lastStatsTime ∧
    after.elapsedTotal = stats.elapsedTotal ∧ after.elapsedTotalToIgnore = stats.elapsedTotalToIgnore ∧
    after.samples = stats.samples

theorem updateLatency_counted {counted : SimpleScenarioStats} (counts : EventCounted event stats counted)
    (latency : ℤ) :
    EventCounted event stats (Stats.updateLatency latency counted) := by
  unfold Stats.updateLatency
  split
  · refine ⟨fun traffic => ?_, fun traffic => ?_, counts.same⟩
    · have total := counts.total traffic
      cases traffic with
      | sent => exact total
      | received => exact total
    · have interval := counts.interval traffic
      cases traffic with
      | sent => exact interval
      | received => exact interval
  · exact counts

theorem handle_counted (stats : SimpleScenarioStats) (event : StatsEvent) :
    ∃ counted, EventCounted event stats counted ∧ stats.handle event = Stats.report event.now counted := by
  cases event with
  | send now =>
    refine ⟨Stats.countSend stats, ⟨fun traffic => ?_, fun traffic => ?_, ⟨rfl, rfl, rfl, rfl, rfl⟩⟩, rfl⟩
    · cases traffic with
      | sent => rfl
      | received => exact (add_zero _).symm
    · cases traffic with
      | sent => rfl
      | received => exact (add_zero _).symm
  | recv now latency =>
    refine ⟨Stats.updateLatency latency (Stats.countRecv stats), updateLatency_counted ?_ latency, rfl⟩
    refine ⟨fun traffic => ?_, fun traffic => ?_, ⟨rfl, rfl, rfl, rfl, rfl⟩⟩
    · cases traffic with
      | sent => exact (add_zero _).symm
      | received => rfl
    · cases traffic with
      | sent => exact (add_zero _).symm
      | received => rfl

structure Unreported (event : StatsEvent) (stats after : SimpleScenarioStats) : Prop where
  total : ∀ traffic : Traffic, traffic.total after = traffic.total stats + (traffic.counts event).toNat
  interval : ∀ traffic : Traffic, traffic.interval after = traffic.interval stats + (traffic.counts event).toNat
  samples : after.samples = stats.samples
  lastStatsTime : after.lastStatsTime = stats.lastStatsTime
  elapsed : after.elapsedTotal = stats.elapsedTotal ∧ after.elapsedTotalToIgnore = stats.elapsedTotalToIgnore

structure Reported (event : StatsEvent) (stats after : SimpleScenarioStats) : Prop where
  total : ∀ traffic : Traffic, traffic.total after =
    if stats.samples.length = ignoreFirst then 0 else traffic.total stats + (traffic.counts event).toNat
  interval : ∀ traffic : Traffic, traffic.interval after = 0
  samples : ∃ sample, after.samples = stats.samples ++ [sample] ∧ ∀ traffic : Traffic, traffic.sampleRate sample =
    rate (traffic.interval stats + (traffic.counts event).toNat) (Java.toMillis (event.now - stats.lastStatsTime))
  lastStatsTime : after.lastStatsTime = event.now
  elapsed : after.elapsedTotal = stats.elapsedTotal + (event.now - stats.lastStatsTime)
  ignored : after.elapsedTotalToIgnore =
    if stats.samples.length = ignoreFirst then after.elapsedTotal else stats.elapsedTotalToIgnore

theorem handle_unreported (quiet : ¬ Reports stats event) : Unreported event stats (stats.handle event) := by
  obtain ⟨counted, ⟨total, interval, duration, lastStatsTime, elapsedTotal, ignored, samples⟩, handled⟩ :=
    handle_counted stats event
  have early : ¬ counted.intervalInNanoSeconds ≤ event.now - counted.lastStatsTime := by
    rw [duration, lastStatsTime]
    exact quiet
  rw [handled, Stats.report, if_neg early]
  refine ⟨fun traffic => ?_, fun traffic => ?_, samples, lastStatsTime, elapsedTotal, ignored⟩
  · rw [← total traffic]
    cases traffic <;> rfl
  · rw [← interval traffic]
    cases traffic <;> rfl

theorem handle_reported (reports : Reports stats event) : Reported event stats (stats.handle event) := by
  obtain ⟨counted, ⟨total, interval, duration, lastStatsTime, elapsedTotal, ignored, samples⟩, handled⟩ :=
    handle_counted stats event
  have due : counted.intervalInNanoSeconds ≤ event.now - counted.lastStatsTime := by
    rw [duration, lastStatsTime]
    exact reports
  rw [handled, Stats.report, if_pos due]
  unfold SimpleScenarioStats.report dropTotals
  simp only [samples]
  refine ⟨fun traffic => ?_, fun traffic => ?_, ⟨_, rfl, fun traffic => ?_⟩, rfl, ?_, ?_⟩
  · rw [← total traffic]
    split <;> cases traffic <;> rfl
  · cases traffic <;> rfl
  · rw [← interval traffic, ← lastStatsTime]
    split <;> cases traffic <;> rfl
  · show (if _ then _ else _ : SimpleScenarioStats).elapsedTotal = _
    rw [← elapsedTotal, ← lastStatsTime]
    split <;> rfl
  · show (if _ then _ else _ : SimpleScenarioStats).elapsedTotalToIgnore = _
    rw [← ignored]
    split <;> rfl

theorem stats_handled_append (stats : SimpleScenarioStats) (since : List StatsEvent) (event : StatsEvent) :
    stats.handled (since ++ [event]) = (stats.handled since).handle event := by
  simp [handled]

theorem countP_append_event (traffic : Traffic) (since : List StatsEvent) (event : StatsEvent) :
    (since ++ [event]).countP traffic.counts = since.countP traffic.counts + (traffic.counts event).toNat := by
  rw [List.countP_append]
  cases counts : traffic.counts event <;> simp [counts]

theorem dropped_of_report (third : stats.samples.length = ignoreFirst) (reports : Reports stats event) :
    Dropped event.now [] (stats.handle event) := by
  have reported := handle_reported reports
  obtain ⟨sample, samples, _⟩ := reported.samples
  refine ⟨?_, ?_, fun traffic => ?_⟩
  · rw [samples, List.length_append, third]
    exact Nat.lt_succ_self _
  · rw [reported.ignored, if_pos third, reported.lastStatsTime]
    omega
  · rw [reported.total, if_pos third]
    rfl

/-- After the drop an event only adds to the totals, and the elapsed time is that of the last report. -/
theorem Dropped.handle (dropped : Dropped dropTime since stats) (event : StatsEvent) :
    Dropped dropTime (since ++ [event]) (stats.handle event) := by
  have elapsed := dropped.elapsed
  have more := dropped.more
  by_cases reports : Reports stats event
  · have reported := handle_reported reports
    have later : stats.samples.length ≠ ignoreFirst := ne_of_gt more
    obtain ⟨sample, samples, _⟩ := reported.samples
    refine ⟨?_, ?_, fun traffic => ?_⟩
    · rw [samples, List.length_append]
      exact Nat.lt_add_right _ more
    · rw [reported.ignored, if_neg later, reported.elapsed, reported.lastStatsTime]
      omega
    · rw [reported.total, if_neg later, dropped.total, countP_append_event]
      exact (Nat.cast_add _ _).symm
  · have unreported := handle_unreported reports
    refine ⟨?_, ?_, fun traffic => ?_⟩
    · rw [unreported.samples]
      exact more
    · rw [unreported.elapsed.1, unreported.elapsed.2, unreported.lastStatsTime]
      exact elapsed
    · rw [unreported.total, dropped.total, countP_append_event]
      exact (Nat.cast_add _ _).symm

theorem dropped_handled (dropped : Dropped dropTime [] stats) (since : List StatsEvent) :
    Dropped dropTime since (stats.handled since) := by
  induction since using List.reverseRecOn with
  | nil => exact dropped
  | append_singleton since event ih =>
    rw [stats_handled_append]
    exact ih.handle event

structure SizedRates (minMsgSize : ℤ) (stats : SimpleScenarioStats) : Prop where
  size : stats.minMsgSize = minMsgSize
  samples : ∀ sample ∈ stats.samples, sample.sendBytesRate = sample.sendMsgRate * minMsgSize ∧
    sample.recvBytesRate = sample.recvMsgRate * minMsgSize

theorem SizedRates.report {minMsgSize : ℤ} (sized : SizedRates minMsgSize stats) (now : ℤ) :
    SizedRates minMsgSize (Stats.report now stats) := by
  obtain ⟨rfl, samples⟩ := sized
  by_cases due : stats.intervalInNanoSeconds ≤ now - stats.lastStatsTime
  · rw [Stats.report, if_pos due]
    by_cases third : stats.samples.length = ignoreFirst
    · rw [SimpleScenarioStats.report, dropTotals, if_pos third]
      exact ⟨rfl, List.forall_mem_append.mpr ⟨samples, List.forall_mem_singleton.mpr ⟨rfl, rfl⟩⟩⟩
    · rw [SimpleScenarioStats.report, dropTotals, if_neg third]
      exact ⟨rfl, List.forall_mem_append.mpr ⟨samples, List.forall_mem_singleton.mpr ⟨rfl, rfl⟩⟩⟩
  · rw [Stats.report, if_neg due]
    exact ⟨rfl, samples⟩

theorem SizedRates.handle {minMsgSize : ℤ} (sized : SizedRates minMsgSize stats) (event : StatsEvent) :
    SizedRates minMsgSize (stats.handle event) := by
  cases event with
  | send now =>
    have counted : SizedRates minMsgSize (Stats.countSend stats) := ⟨sized.size, sized.samples⟩
    exact counted.report now
  | recv now latency =>
    have counted : SizedRates minMsgSize (Stats.updateLatency latency (Stats.countRecv stats)) := by
      unfold Stats.updateLatency
      split <;> exact ⟨sized.size, sized.samples⟩
    exact counted.report now

theorem sizedRates_handled (interval minMsgSize startTime : ℤ) (events : List StatsEvent) :
    SizedRates minMsgSize ((create interval minMsgSize startTime).handled events) := by
  induction events using List.reverseRecOn with
  | nil => exact ⟨rfl, List.forall_mem_nil _⟩
  | append_singleton events event ih =>
    rw [stats_handled_append]
    exact ih.handle event

theorem SizedRates.results {minMsgSize : ℤ} (sized : SizedRates minMsgSize stats) :
    stats.results.sendBytesRate = stats.results.sendMsgRate * minMsgSize ∧
      stats.results.recvBytesRate = stats.results.recvMsgRate * minMsgSize ∧
      ∀ sample ∈ stats.results.samples, sample.sendBytesRate = sample.sendMsgRate * minMsgSize ∧
        sample.recvBytesRate = sample.recvMsgRate * minMsgSize := by
  obtain ⟨rfl, samples⟩ := sized
  exact ⟨rfl, rfl, samples⟩

theorem rate_zero (elapsed : ℤ) : rate 0 elapsed = 0 := by simp [rate]

theorem reportedSince_quiet (none : ∀ event ∈ since, traffic.counts event = false) (still : traffic.interval stats = 0)
    (sample : ℤ × StatsSample) (shown : sample ∈ reportedSince stats since) : traffic.sampleRate sample.2 = 0 := by
  induction since generalizing stats with
  | nil => cases shown
  | cons event since ih =>
    have quiet := none event List.mem_cons_self
    have rest := fun later member => none later (List.mem_cons_of_mem event member)
    by_cases reports : Reports stats event
    · have reported := handle_reported reports
      obtain ⟨new, samples, rates⟩ := reported.samples
      rw [reportedSince, samples, List.drop_left] at shown
      rcases List.mem_append.mp shown with now | later
      · rw [List.map_singleton, List.mem_singleton] at now
        rw [now, rates, still, quiet]
        exact rate_zero _
      · exact ih rest (reported.interval traffic) later
    · have unreported := handle_unreported reports
      rw [reportedSince, unreported.samples, List.drop_length] at shown
      refine ih rest ?_ shown
      rw [unreported.interval, still, quiet]
      rfl

theorem timeWeightedMean_zero {samples : List (ℤ × StatsSample)}
    (zero : ∀ sample ∈ samples, traffic.sampleRate sample.2 = 0) : timeWeightedMean traffic samples = 0 := by
  have products : (samples.map fun sample => (sample.1 : ℚ) * traffic.sampleRate sample.2).sum = 0 := by
    refine List.sum_eq_zero fun product member => ?_
    obtain ⟨sample, shown, rfl⟩ := List.mem_map.mp member
    rw [zero sample shown, mul_zero]
  rw [timeWeightedMean, products, zero_div]

theorem overallRate_eq (dropped : Dropped dropTime since stats) (traffic : Traffic) :
    traffic.overallRate stats = rate (since.countP traffic.counts : ℕ) (stats.lastStatsTime - dropTime) := by
  rw [← dropped.elapsed, ← dropped.total traffic]
  cases traffic <;> rfl

/-- Below two million messages a second, the maximum rate of RateVsLatencyScenario is 0. -/
theorem maxRate_slow (dropped : Dropped dropTime since stats)
    (slow : 500 * (since.length : ℤ) < stats.lastStatsTime - dropTime) : maxRate stats = 0 := by
  have both : since.countP Traffic.received.counts + since.countP Traffic.sent.counts = since.length := by
    rw [List.length_eq_countP_add_countP Traffic.received.counts]
    congr 1
    refine List.countP_congr fun event _ => ?_
    cases event <;> simp [Traffic.counts]
  have elapsed : stats.lastStatsTime - dropTime ≠ 0 := by omega
  have positive : (0 : ℚ) < (stats.lastStatsTime - dropTime : ℤ) := by
    exact_mod_cast (by omega : 0 < stats.lastStatsTime - dropTime)
  have sum : stats.getRecvRate + stats.getSendRate =
      1000 * since.length / ((stats.lastStatsTime - dropTime : ℤ) : ℚ) := by
    have received := overallRate_eq dropped .received
    have sent := overallRate_eq dropped .sent
    rw [rate, if_neg elapsed] at received sent
    change stats.getRecvRate = _ at received
    change stats.getSendRate = _ at sent
    rw [received, sent, ← both]
    push_cast
    ring
  have nonneg : 0 ≤ stats.getRecvRate + stats.getSendRate := by
    rw [sum]
    exact div_nonneg (by positivity) positive.le
  have below : stats.getRecvRate + stats.getSendRate < 2 := by
    rw [sum, div_lt_iff₀ positive]
    have slower : (500 * since.length : ℚ) < (stats.lastStatsTime - dropTime : ℤ) := by exact_mod_cast slow
    linarith
  have belowTwo : stats.getRecvRate + stats.getSendRate < (2 : ℤ) := by exact_mod_cast below
  have bounds := Java.intOf_between nonneg belowTwo
  exact Int.tdiv_eq_zero_of_lt bounds.1 bounds.2

/-- The overall rate is taken over nanoseconds as if they were milliseconds, so it is right only where it
    is 0. -/
theorem rateAgrees_iff {last : StatsEvent} (dropped : Dropped dropTime [] stats)
    (silent : ∀ traffic : Traffic, traffic.interval stats = 0) (later : dropTime < last.now)
    (reports : Reports (stats.handled since) last) (traffic : Traffic) :
    RateAgrees traffic stats (since ++ [last]) (last.now - dropTime) ↔
      ∀ event ∈ since ++ [last], traffic.counts event = false := by
  have after := dropped_handled dropped (since ++ [last])
  have now : (stats.handled (since ++ [last])).lastStatsTime = last.now := by
    rw [stats_handled_append]
    exact (handle_reported reports).lastStatsTime
  have overall := overallRate_eq after traffic
  have elapsed : last.now - dropTime ≠ 0 := by omega
  have positive : ((last.now - dropTime : ℤ) : ℚ) ≠ 0 := by exact_mod_cast elapsed
  have none_iff : (since ++ [last]).countP traffic.counts = 0 ↔
      ∀ event ∈ since ++ [last], traffic.counts event = false := by
    simp only [List.countP_eq_zero, Bool.not_eq_true]
  rw [now] at overall
  constructor
  · intro agrees
    have counted := agrees.counted
    rw [overall, rate, if_neg elapsed, div_div_eq_mul_div, mul_div_assoc', div_left_inj' positive] at counted
    rw [← none_iff]
    have zero : (((since ++ [last]).countP traffic.counts : ℕ) : ℚ) = 0 := by
      push_cast at counted
      linarith
    exact_mod_cast zero
  · intro none
    have zero := none_iff.mpr none
    rw [zero] at overall
    refine ⟨?_, ?_⟩
    · rw [overall, zero]
      simp [rate_zero]
    · rw [overall, timeWeightedMean_zero (reportedSince_quiet none (silent traffic))]
      exact rate_zero _

end

/-- After any report later than the one that drops the totals, an overall rate is right exactly if no such
    message came since the drop. As every report is made by a message, never both are. -/
theorem scenario_rates_iff (interval minMsgSize startTime : ℤ) (before : List StatsEvent) (drop : StatsEvent)
    (since : List StatsEvent) (last : StatsEvent)
    (third : ((create interval minMsgSize startTime).handled before).samples.length = ignoreFirst)
    (drops : Reports ((create interval minMsgSize startTime).handled before) drop)
    (increasing : ((drop :: since ++ [last]).map StatsEvent.now).Pairwise (· < ·))
    (reports : Reports ((create interval minMsgSize startTime).handled (before ++ drop :: since)) last) :
    (∀ traffic, RateAgrees traffic ((create interval minMsgSize startTime).handled (before ++ [drop])) (since ++ [last])
        (last.now - drop.now) ↔ ∀ event ∈ since ++ [last], traffic.counts event = false) ∧
      ¬ ∀ traffic, RateAgrees traffic ((create interval minMsgSize startTime).handled (before ++ [drop]))
        (since ++ [last]) (last.now - drop.now) := by
  have later : drop.now < last.now := by
    rw [List.cons_append, List.map_cons, List.pairwise_cons] at increasing
    exact increasing.1 _ (List.mem_map_of_mem (List.mem_append_right since (List.mem_singleton_self last)))
  have dropped : Dropped drop.now [] ((create interval minMsgSize startTime).handled (before ++ [drop])) := by
    rw [stats_handled_append]
    exact dropped_of_report third drops
  have silent (traffic : Traffic) :
      traffic.interval ((create interval minMsgSize startTime).handled (before ++ [drop])) = 0 := by
    rw [stats_handled_append]
    exact (handle_reported drops).interval traffic
  have lastReports : Reports (((create interval minMsgSize startTime).handled (before ++ [drop])).handled since)
      last := by
    rwa [List.append_cons, handled, List.foldl_append] at reports
  have agrees := rateAgrees_iff dropped silent later lastReports
  refine ⟨agrees, fun all => ?_⟩
  have member : last ∈ since ++ [last] := List.mem_append_right since (List.mem_singleton_self last)
  cases last with
  | send now => exact absurd ((agrees .sent).mp (all .sent) _ member) (by simp [Traffic.counts])
  | recv now latency => exact absurd ((agrees .received).mp (all .received) _ member) (by simp [Traffic.counts])

def secondMessages (count : ℕ) : List StatsEvent := (List.range count).map fun index => .send (1000000000 * (index + 1))

theorem scenario_rates_quiet :
    RateAgrees .received ((create 1000 12 0).handled (secondMessages 3 ++ [.send 4000000000])) [.send 5000000000]
      (5000000000 - 4000000000) := by
  obtain ⟨agrees, _⟩ := scenario_rates_iff 1000 12 0 (secondMessages 3) (.send 4000000000) [] (.send 5000000000)
    (by decide) (by unfold Reports; decide) (by decide) (by unfold Reports; decide)
  exact (agrees .received).mpr (by decide)

/-- One message a second is shown as a millionth of a message a second. -/
theorem scenario_rate_in_nanoseconds :
    ¬ RateAgrees .sent ((create 1000 12 0).handled (secondMessages 3 ++ [.send 4000000000])) [.send 5000000000]
      (5000000000 - 4000000000) := by
  intro agrees
  have counted := agrees.counted
  revert counted
  decide +kernel

end PerfTestProof
