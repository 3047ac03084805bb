import PerfTest.Java.Numbers
import PerfTest.Systems.Runs

open Systems (run run_cons run_nil)

namespace PerfTestModel

def nanoTime (origin moment : ℤ) : ℤ := Java.long (moment - origin)

/-- The IllegalStateException of `checkState` is `none`. -/
structure Stopwatch where
  isRunning : Bool
  elapsedNanos : ℤ
  startTick : ℤ
  deriving Repr

namespace Stopwatch

def createUnstarted : Stopwatch := ⟨false, 0, 0⟩

def start (stopwatch : Stopwatch) (tick : ℤ) : Option Stopwatch :=
  if stopwatch.isRunning then none else some { stopwatch with isRunning := true, startTick := tick }

def stop (stopwatch : Stopwatch) (tick : ℤ) : Option Stopwatch :=
  if stopwatch.isRunning then
    some { stopwatch with
      isRunning := false
      elapsedNanos := Java.long (stopwatch.elapsedNanos + Java.long (tick - stopwatch.startTick)) }
  else none

def reset (stopwatch : Stopwatch) : Stopwatch := { stopwatch with elapsedNanos := 0, isRunning := false }

def readNanos (stopwatch : Stopwatch) (tick : ℤ) : ℤ :=
  if stopwatch.isRunning then Java.long (Java.long (tick - stopwatch.startTick) + stopwatch.elapsedNanos)
  else stopwatch.elapsedNanos

def elapsedMicros (stopwatch : Stopwatch) (tick : ℤ) : ℤ := (stopwatch.readNanos tick).tdiv 1000

inductive Call
  | start (moment : ℤ)
  | stop (moment : ℤ)
  | reset
  deriving Repr

def step (origin : ℤ) (stopwatch : Stopwatch) : Call → Option Stopwatch
  | .start moment => stopwatch.start (nanoTime origin moment)
  | .stop moment => stopwatch.stop (nanoTime origin moment)
  | .reset => some stopwatch.reset

end Stopwatch

structure RunningTime where
  since : Option ℤ
  total : ℤ
  deriving DecidableEq, Repr

namespace RunningTime

def zero : RunningTime := ⟨none, 0⟩

def step (time : RunningTime) : Stopwatch.Call → Option RunningTime
  | .start moment => if time.since.isSome then none else some { time with since := some moment }
  | .stop moment => time.since.map fun since => ⟨none, time.total + (moment - since)⟩
  | .reset => some zero

def elapsed (time : RunningTime) (moment : ℤ) : ℤ :=
  match time.since with
  | none => time.total
  | some since => time.total + (moment - since)

end RunningTime

end PerfTestModel

open PerfTestModel

namespace PerfTestProof

theorem long_add_long (first second : ℤ) : Java.long (first + Java.long second) = Java.long (first + second) :=
  Int.add_bmod_bmod

theorem long_sub_nanoTime (origin first second : ℤ) :
    Java.long (nanoTime origin second - nanoTime origin first) = Java.long (second - first) := by
  unfold nanoTime Java.long
  rw [Int.bmod_sub_bmod, Int.sub_bmod_bmod]
  congr 1
  omega

structure ShowsTime (origin : ℤ) (stopwatch : Stopwatch) (time : RunningTime) : Prop where
  isRunning : stopwatch.isRunning = time.since.isSome
  elapsedNanos : stopwatch.elapsedNanos = Java.long time.total
  startTick : ∀ since, time.since = some since → stopwatch.startTick = nanoTime origin since

theorem ShowsTime.step {origin : ℤ} {stopwatch : Stopwatch} {time : RunningTime} (call : Stopwatch.Call)
    (shown : ShowsTime origin stopwatch time) :
    Option.Rel (ShowsTime origin) (stopwatch.step origin call) (time.step call) := by
  obtain ⟨isRunning, elapsedNanos, startTick⟩ := shown
  obtain ⟨since, total⟩ := time
  cases call with
  | start moment =>
    simp only [Stopwatch.step, Stopwatch.start, RunningTime.step, isRunning]
    cases since with
    | none => exact .some ⟨rfl, elapsedNanos, fun since same => by cases same; rfl⟩
    | some since => exact .none
  | stop moment =>
    simp only [Stopwatch.step, Stopwatch.stop, RunningTime.step, isRunning]
    cases since with
    | none => exact .none
    | some since =>
      refine .some ⟨rfl, ?_, fun since none => by cases none⟩
      dsimp only at elapsedNanos ⊢
      rw [startTick since rfl, long_sub_nanoTime, elapsedNanos, long_add_long, Int.add_comm, long_add_long,
        Int.add_comm]
  | reset => exact .some ⟨rfl, rfl, fun since none => by cases none⟩

theorem ShowsTime.readNanos {origin : ℤ} {stopwatch : Stopwatch} {time : RunningTime}
    (shown : ShowsTime origin stopwatch time) (moment : ℤ) :
    stopwatch.readNanos (nanoTime origin moment) = Java.long (time.elapsed moment) := by
  obtain ⟨isRunning, elapsedNanos, startTick⟩ := shown
  obtain ⟨since, total⟩ := time
  rw [Stopwatch.readNanos, isRunning, elapsedNanos]
  cases since with
  | none => rfl
  | some since =>
    rw [startTick since rfl, long_sub_nanoTime, long_add_long, Int.add_comm, long_add_long]
    rfl

/-- Whatever the origin of `System.nanoTime()`, and also where that overflows between a start and a stop, a stopwatch
    takes the calls that its state allows and reads the time between the starts and the stops. -/
theorem stopwatch_reads_running_time (origin : ℤ) (calls : List Stopwatch.Call) :
    (run (Stopwatch.step origin) Stopwatch.createUnstarted calls = none ↔
      run RunningTime.step RunningTime.zero calls = none) ∧
    ∀ stopwatch, run (Stopwatch.step origin) Stopwatch.createUnstarted calls = some stopwatch →
      ∃ time, run RunningTime.step RunningTime.zero calls = some time ∧
        ∀ moment, stopwatch.readNanos (nanoTime origin moment) = Java.long (time.elapsed moment) := by
  have new : ShowsTime origin Stopwatch.createUnstarted RunningTime.zero :=
    ⟨rfl, rfl, fun since none => by cases none⟩
  have together := Systems.run_rel (fun _ _ => ShowsTime.step) calls new
  generalize run (Stopwatch.step origin) Stopwatch.createUnstarted calls = final,
    run RunningTime.step RunningTime.zero calls = finalTime at together
  cases together with
  | none => exact ⟨iff_of_true rfl rfl, fun stopwatch none => by cases none⟩
  | some shown =>
    refine ⟨iff_of_false (by simp) (by simp), ?_⟩
    intro stopwatch same
    cases same
    exact ⟨_, rfl, shown.readNanos⟩

end PerfTestProof
