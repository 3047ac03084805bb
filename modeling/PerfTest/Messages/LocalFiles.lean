import Mathlib.Algebra.Ring.Divisibility.Basic
import PerfTest.Messages.TimeSequence
import PerfTest.Producer.Thread
import PerfTest.Systems.Runs

namespace PerfTestModel

open Java Systems

structure LocalFilesMessageBodySource where
  bodies : List (List Byte)
  contentType : Option String
  deriving DecidableEq, Repr

namespace LocalFilesMessageBodySource

/-- `%` has the sign of the sequence number. -/
def create (sequenceNumber : ℤ) (source : LocalFilesMessageBodySource) : Except ProducerException MessageEnvelope :=
  if source.bodies = [] then .error (.runtimeException "/ by zero" false)
  else
    let index := sequenceNumber.tmod source.bodies.length
    if index < 0 then
      .error (.runtimeException
        ("Index " ++ toString index ++ " out of bounds for length " ++ toString source.bodies.length) false)
    else .ok ⟨.message index.toNat, source.contentType, 0⟩

def cycled (source : LocalFilesMessageBodySource) (turn : ℕ) : MessageEnvelope :=
  ⟨.message (turn % source.bodies.length), source.contentType, 0⟩

end LocalFilesMessageBodySource

structure FileProducer where
  msgCount : ℤ
  created : List MessageEnvelope
  deriving DecidableEq, Repr

/-- `resetStats` comes with a variable rate, whenever more than 1000 ns have passed since the last one. -/
inductive FileStep where
  | publish
  | resetStats
  deriving DecidableEq, Repr

namespace FileProducer

def initial : FileProducer := ⟨0, []⟩

/-- Both states of a producer count with an `int`. An exception of `create` ends the producer. -/
def step (source : LocalFilesMessageBodySource) (variableRate : Bool) (producer : FileProducer) :
    FileStep → Option FileProducer
  | .publish =>
    match source.create producer.msgCount with
    | .error _ => none
    | .ok envelope => some ⟨Java.int (producer.msgCount + 1), producer.created ++ [envelope]⟩
  | .resetStats => if variableRate then some { producer with msgCount := 0 } else none

end FileProducer

end PerfTestModel

namespace PerfTestProof

open PerfTestModel Systems

structure CyclesThroughFiles (source : LocalFilesMessageBodySource) (producer : FileProducer) : Prop where
  earlier : producer.created = (List.range producer.created.length).map source.cycled
  next : source.create producer.msgCount = .ok (source.cycled producer.created.length)

/-- The count of several files does not leave the positive numbers, and starts again with the first file only. At the
    largest int, that takes a number of files that divides 2^31. -/
def KeepsCycle (source : LocalFilesMessageBodySource) (producer : FileProducer) : FileStep → Bool
  | .publish => source.bodies.length = 1 ∨
      0 ≤ producer.msgCount ∧ (producer.msgCount < 2 ^ 31 - 1 ∨ (source.bodies.length : ℤ) ∣ 2 ^ 31)
  | .resetStats => source.bodies.length ∣ producer.created.length

structure InCycle (source : LocalFilesMessageBodySource) (producer : FileProducer) : Prop where
  lower : -2 ^ 31 ≤ producer.msgCount
  upper : producer.msgCount < 2 ^ 31
  cycles : CyclesThroughFiles source producer

def OutOfCycle (source : LocalFilesMessageBodySource) (producer : FileProducer) : Prop :=
  producer.created ≠ (List.range producer.created.length).map source.cycled ∨
    ¬ source.bodies.length ∣ producer.created.length ∧
      source.create producer.msgCount ≠ .ok (source.cycled producer.created.length)

section

variable {source : LocalFilesMessageBodySource} {variableRate : Bool} {producer next : FileProducer} {label : FileStep}
  {count : ℤ} {turn : ℕ}

theorem create_cycled_iff (some_ : source.bodies ≠ []) : source.create count = .ok (source.cycled turn) ↔
    count.tmod source.bodies.length = (turn % source.bodies.length : ℕ) := by
  unfold LocalFilesMessageBodySource.create LocalFilesMessageBodySource.cycled
  rw [if_neg some_]
  dsimp only
  split
  · rename_i negative
    simp only [reduceCtorEq, false_iff]
    omega
  · rename_i nonneg
    simp only [Except.ok.injEq, MessageEnvelope.mk.injEq, MessageBody.message.injEq, and_true]
    omega

theorem cycled_append {envelope : MessageEnvelope} {created : List MessageEnvelope} :
    created ++ [envelope] = (List.range (created ++ [envelope]).length).map source.cycled ↔
      created = (List.range created.length).map source.cycled ∧ envelope = source.cycled created.length := by
  rw [List.length_append, List.length_singleton, List.range_succ, List.map_append, List.map_singleton]
  constructor
  · intro same
    obtain ⟨earlier, last⟩ := List.append_inj' same rfl
    exact ⟨earlier, List.singleton_inj.mp last⟩
  · rintro ⟨earlier, last⟩
    rw [← earlier, ← last]

theorem publish_some (published : producer.step source variableRate .publish = some next) :
    ∃ envelope, source.create producer.msgCount = .ok envelope ∧
      next = ⟨Java.int (producer.msgCount + 1), producer.created ++ [envelope]⟩ := by
  unfold FileProducer.step at published
  dsimp only at published
  split at published
  · cases published
  · rename_i envelope created
    exact ⟨envelope, created, (Option.some.inj published).symm⟩

theorem reset_some (reset : producer.step source variableRate .resetStats = some next) :
    variableRate = true ∧ next = { producer with msgCount := 0 } := by
  unfold FileProducer.step at reset
  dsimp only at reset
  split at reset
  · rename_i varies
    exact ⟨varies, (Option.some.inj reset).symm⟩
  · cases reset

theorem create_zero_iff (some_ : source.bodies ≠ []) :
    source.create 0 = .ok (source.cycled turn) ↔ source.bodies.length ∣ turn := by
  rw [create_cycled_iff some_, Int.zero_tmod]
  constructor
  · intro first
    exact Nat.dvd_of_mod_eq_zero (Int.ofNat_eq_zero.mp first.symm)
  · intro divides
    rw [Nat.mod_eq_zero_of_dvd divides]
    rfl

theorem tmod_nonpos (size : ℤ) (nonpos : count ≤ 0) : count.tmod size ≤ 0 := by
  have opposite := Int.tmod_nonneg size (Int.neg_nonneg_of_nonpos nonpos)
  rw [Int.neg_tmod] at opposite
  omega

/-- The count and the number of messages differ by whole rounds. -/
theorem rounds_between {size : ℕ} (aligned : count.tmod size = (turn % size : ℕ)) : (size : ℤ) ∣ turn - count := by
  have whole := Int.mul_tdiv_add_tmod count size
  have rounds : (size : ℤ) * (turn / size : ℕ) + (turn % size : ℕ) = turn := by exact_mod_cast Nat.div_add_mod turn size
  refine ⟨(turn / size : ℕ) - count.tdiv size, ?_⟩
  rw [Int.mul_sub]
  omega

theorem dvd_turn_iff {size : ℕ} (between : (size : ℤ) ∣ turn - count) : size ∣ turn + 1 ↔ (size : ℤ) ∣ count + 1 := by
  have sum : ((turn + 1 : ℕ) : ℤ) = (turn - count) + (count + 1) := by omega
  rw [← Int.natCast_dvd_natCast, sum]
  exact Int.dvd_add_right between

theorem int_after_max : Java.int (2 ^ 31 - 1 + 1) = -2 ^ 31 := by decide

theorem keeps_aligned {size : ℕ} (upper : count < 2 ^ 31) (aligned : count.tmod size = (turn % size : ℕ))
    (keeps : size = 1 ∨ 0 ≤ count ∧ (count < 2 ^ 31 - 1 ∨ (size : ℤ) ∣ 2 ^ 31)) :
    (Java.int (count + 1)).tmod size = ((turn + 1) % size : ℕ) := by
  have between := rounds_between aligned
  rcases keeps with rfl | ⟨nonneg, room⟩
  · rw [Nat.cast_one, Int.tmod_one, Nat.mod_one]
    rfl
  · by_cases below : count < 2 ^ 31 - 1
    · have next : Java.int (count + 1) = count + 1 := (Java.int_succ (by omega) upper).mpr (by omega)
      have back : -(count + 1 - (turn + 1)) = turn - count := by omega
      rw [next, Int.tmod_eq_emod_of_nonneg (by omega), Int.natCast_emod, Int.natCast_succ]
      refine Int.emod_eq_emod_iff_emod_sub_eq_zero.mpr (Int.emod_eq_zero_of_dvd ?_)
      rwa [← Int.dvd_neg, back]
    · have max : count = 2 ^ 31 - 1 := by omega
      have divides := room.resolve_left below
      have rounds : size ∣ turn + 1 := (dvd_turn_iff between).mpr (max ▸ divides)
      rw [max, int_after_max, Int.neg_tmod, Int.tmod_eq_zero_of_dvd divides, Nat.mod_eq_zero_of_dvd rounds]
      rfl

theorem loses_alignment {size : ℕ} (lower : -2 ^ 31 ≤ count) (upper : count < 2 ^ 31)
    (aligned : count.tmod size = (turn % size : ℕ))
    (loses : ¬ (size = 1 ∨ 0 ≤ count ∧ (count < 2 ^ 31 - 1 ∨ (size : ℤ) ∣ 2 ^ 31))) :
    ¬ size ∣ turn + 1 ∧ (Java.int (count + 1)).tmod size ≠ ((turn + 1) % size : ℕ) := by
  obtain ⟨several, outside⟩ := not_or.mp loses
  have rest : Java.int (count + 1) ≤ 0 ∧ ¬ (size : ℤ) ∣ count + 1 := by
    by_cases negative : count < 0
    · have next : Java.int (count + 1) = count + 1 := (Java.int_succ lower upper).mpr (by omega)
      refine ⟨by omega, fun divides => several ?_⟩
      have whole : count.tmod size = 0 := by
        have sign := tmod_nonpos (size : ℤ) (Int.le_of_lt negative)
        omega
      have one := (Int.dvd_add_right (Int.dvd_iff_tmod_eq_zero.mpr whole)).mp divides
      exact Nat.dvd_one.mp (Int.natCast_dvd_natCast.mp one)
    · obtain ⟨atMax, undivided⟩ := not_or.mp fun room => outside ⟨Int.not_lt.mp negative, room⟩
      have max : count = 2 ^ 31 - 1 := by omega
      rw [max, int_after_max]
      exact ⟨by decide, undivided⟩
  have undivided : ¬ size ∣ turn + 1 := fun divides => rest.2 ((dvd_turn_iff (rounds_between aligned)).mp divides)
  refine ⟨undivided, fun same => undivided (Nat.dvd_of_mod_eq_zero ?_)⟩
  have sign := tmod_nonpos (size : ℤ) rest.1
  omega

theorem inCycle_zero (some_ : source.bodies ≠ []) {created : List MessageEnvelope}
    (earlier : created = (List.range created.length).map source.cycled)
    (rounds : source.bodies.length ∣ created.length) : InCycle source ⟨0, created⟩ where
  lower := by
    show (-2 ^ 31 : ℤ) ≤ 0
    decide
  upper := by
    show (0 : ℤ) < 2 ^ 31
    decide
  cycles := ⟨earlier, (create_zero_iff some_).mpr rounds⟩

theorem inCycle_step (some_ : source.bodies ≠ []) (sound : InCycle source producer)
    (stepped : producer.step source variableRate label = some next) (keeps : KeepsCycle source producer label = true) :
    InCycle source next := by
  cases label with
  | publish =>
    obtain ⟨envelope, created, rfl⟩ := publish_some stepped
    have own := Except.ok.inj (created.symm.trans sound.cycles.next)
    have range := Java.int_range (producer.msgCount + 1)
    refine ⟨range.1, range.2, cycled_append.mpr ⟨sound.cycles.earlier, own⟩, ?_⟩
    rw [List.length_append, List.length_singleton, create_cycled_iff some_]
    exact keeps_aligned sound.upper ((create_cycled_iff some_).mp sound.cycles.next) (of_decide_eq_true keeps)
  | resetStats =>
    obtain ⟨-, rfl⟩ := reset_some stepped
    exact inCycle_zero some_ sound.cycles.earlier (of_decide_eq_true keeps)

theorem outOfCycle_of_lost (some_ : source.bodies ≠ []) (sound : InCycle source producer)
    (stepped : producer.step source variableRate label = some next) (loses : KeepsCycle source producer label = false) :
    OutOfCycle source next := by
  right
  cases label with
  | publish =>
    obtain ⟨envelope, created, rfl⟩ := publish_some stepped
    rw [List.length_append, List.length_singleton, ne_eq, create_cycled_iff some_]
    have aligned := (create_cycled_iff some_).mp sound.cycles.next
    exact loses_alignment sound.lower sound.upper aligned (of_decide_eq_false loses)
  | resetStats =>
    obtain ⟨-, rfl⟩ := reset_some stepped
    have undivided := of_decide_eq_false loses
    exact ⟨undivided, fun first => undivided ((create_zero_iff some_).mp first)⟩

theorem outOfCycle_step (some_ : source.bodies ≠ []) (lost : OutOfCycle source producer)
    (stepped : producer.step source variableRate label = some next) : OutOfCycle source next := by
  cases label with
  | publish =>
    obtain ⟨envelope, created, rfl⟩ := publish_some stepped
    refine .inl fun same => ?_
    obtain ⟨earlier, own⟩ := cycled_append.mp same
    rcases lost with wrong | ⟨-, wrong⟩
    · exact wrong earlier
    · exact wrong (own ▸ created)
  | resetStats =>
    obtain ⟨-, rfl⟩ := reset_some stepped
    rcases lost with wrong | ⟨undivided, -⟩
    · exact .inl wrong
    · exact .inr ⟨undivided, fun first => undivided ((create_zero_iff some_).mp first)⟩

theorem OutOfCycle.fails (lost : OutOfCycle source producer) : ¬ CyclesThroughFiles source producer := by
  intro cycles
  rcases lost with wrong | ⟨-, wrong⟩
  · exact wrong cycles.earlier
  · exact wrong cycles.next

end

/-- After any number of messages, exactly if the steps keep the count in the cycle. -/
theorem cycles_through_files_iff (source : LocalFilesMessageBodySource) (some_ : source.bodies ≠ [])
    (variableRate : Bool) (labels : List FileStep) (final : FileProducer)
    (executed : run (FileProducer.step source variableRate) .initial labels = some final) :
    CyclesThroughFiles source final ↔
      run (restrict (KeepsCycle source) (FileProducer.step source variableRate)) .initial labels = some final := by
  refine run_restrict_iff _ (InCycle source) (OutOfCycle source) (fun _ _ _ => inCycle_step some_)
    (fun _ _ _ => outOfCycle_of_lost some_) (fun _ _ _ => outOfCycle_step some_) (fun _ sound => sound.cycles)
    (fun _ => OutOfCycle.fails) ?_ executed
  exact inCycle_zero some_ rfl (Nat.dvd_zero _)

theorem publishes_run (source : LocalFilesMessageBodySource) (some_ : source.bodies ≠ []) (variableRate : Bool)
    (count : ℕ) (fits : count ≤ 2 ^ 31) :
    run (FileProducer.step source variableRate) .initial (List.replicate count .publish) =
      some ⟨Java.int count, (List.range count).map source.cycled⟩ := by
  induction count with
  | zero => rfl
  | succ count ih =>
    have same : Java.int count = count := Java.int_eq_self.mpr ⟨by omega, by omega⟩
    have created : source.create (Java.int count) = .ok (source.cycled count) := by
      rw [create_cycled_iff some_, same, Int.tmod_eq_emod_of_nonneg (Int.natCast_nonneg count)]
      rfl
    rw [List.replicate_succ', run_append, ih (Nat.le_of_succ_le fits), Option.bind_some, run, FileProducer.step]
    dsimp only
    rw [created]
    dsimp only
    rw [same, List.range_succ, List.map_append, List.map_singleton, Int.natCast_succ]
    rfl

def threeFiles : LocalFilesMessageBodySource := ⟨[[97], [98], [99]], none⟩

/-- The message after 2^31 ones cannot be created. With a variable rate, the second one may have the first file, too. -/
theorem no_file_at_negative_index :
    (∃ final, run (FileProducer.step threeFiles false) .initial (List.replicate (2 ^ 31) .publish) = some final ∧
      threeFiles.create final.msgCount = .error (.runtimeException "Index -2 out of bounds for length 3" false) ∧
      ¬ CyclesThroughFiles threeFiles final) ∧
    ∃ final, run (FileProducer.step threeFiles true) .initial [.publish, .resetStats, .publish] = some final ∧
      final.created = [threeFiles.cycled 0, threeFiles.cycled 0] ∧ ¬ CyclesThroughFiles threeFiles final := by
  constructor
  · have fails : threeFiles.create (Java.int (2 ^ 31 : ℕ)) =
        .error (.runtimeException "Index -2 out of bounds for length 3" false) := by decide +kernel
    refine ⟨_, publishes_run threeFiles (by decide) false (2 ^ 31) le_rfl, fails, fun cycles => ?_⟩
    cases fails.symm.trans cycles.next
  · refine ⟨_, rfl, rfl, fun cycles => ?_⟩
    have earlier := cycles.earlier
    revert earlier
    decide

theorem reset_after_round :
    CyclesThroughFiles threeFiles ⟨1, [0, 1, 2, 3].map threeFiles.cycled⟩ :=
  (cycles_through_files_iff threeFiles (by decide) true [.publish, .publish, .publish, .resetStats, .publish] _
    (by decide +kernel)).mpr (by decide +kernel)

end PerfTestProof
