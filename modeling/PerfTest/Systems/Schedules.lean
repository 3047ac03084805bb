import Mathlib.Algebra.Order.BigOperators.Group.List
import Mathlib.Algebra.BigOperators.Group.List.Basic
import Mathlib.Order.CompletePartialOrder
import Mathlib.Order.Interval.Set.Disjoint

namespace Systems

section Chained

variable {G S : Type} [AddCommGroup G] {first last : S → G}

def Chained (first last : S → G) (start : G) : List G → List S → Prop
  | [], [] => True
  | length :: lengths, segment :: segments =>
    first segment = start ∧ last segment = start + length ∧ Chained first last (start + length) lengths segments
  | _, _ => False

namespace Chained

theorem length_eq {start : G} {lengths : List G} {segments : List S}
    (chained : Chained first last start lengths segments) : segments.length = lengths.length := by
  induction lengths generalizing start segments with
  | nil =>
    cases segments with
    | nil => rfl
    | cons segment segments => exact chained.elim
  | cons length lengths ih =>
    cases segments with
    | nil => exact chained.elim
    | cons segment segments => exact congrArg (· + 1) (ih chained.2.2)

theorem getLast {start : G} {lengths : List G} {segments : List S} (chained : Chained first last start lengths segments)
    {segment : S} (final : segments.getLast? = some segment) : last segment = start + lengths.sum := by
  induction lengths generalizing start segments with
  | nil =>
    cases segments with
    | nil => cases final
    | cons head segments => exact chained.elim
  | cons length lengths ih =>
    cases segments with
    | nil => exact chained.elim
    | cons head segments =>
      obtain ⟨-, lastEq, tail⟩ := chained
      rw [List.sum_cons, ← add_assoc]
      cases segments with
      | nil =>
        cases lengths with
        | nil =>
          rw [List.getLast?_singleton, Option.some.injEq] at final
          rw [← final, lastEq, List.sum_nil, add_zero]
        | cons next lengths => exact tail.elim
      | cons next segments =>
        rw [List.getLast?_cons_cons] at final
        exact ih tail final

theorem concat {start : G} {lengths : List G} {segments : List S} (chained : Chained first last start lengths segments)
    {segment : S} {length : G} (begins : first segment = start + lengths.sum)
    (ends : last segment = first segment + length) :
    Chained first last start (lengths ++ [length]) (segments ++ [segment]) := by
  induction lengths generalizing start segments with
  | nil =>
    cases segments with
    | nil =>
      rw [List.sum_nil, add_zero] at begins
      exact ⟨begins, begins ▸ ends, trivial⟩
    | cons head segments => exact chained.elim
  | cons own lengths ih =>
    cases segments with
    | nil => exact chained.elim
    | cons head segments =>
      obtain ⟨firstEq, lastEq, tail⟩ := chained
      rw [List.sum_cons, ← add_assoc] at begins
      exact ⟨firstEq, lastEq, ih tail begins⟩

variable [LinearOrder G] [IsOrderedAddMonoid G]

theorem start_le {start : G} {lengths : List G} {segments : List S}
    (chained : Chained first last start lengths segments) (nonneg : ∀ length ∈ lengths, 0 ≤ length) {segment : S}
    (inside : segment ∈ segments) : start ≤ first segment := by
  induction lengths generalizing start segments with
  | nil =>
    cases segments with
    | nil => exact absurd inside List.not_mem_nil
    | cons head segments => exact chained.elim
  | cons length lengths ih =>
    have later : ∀ length ∈ lengths, 0 ≤ length := fun length inside => nonneg length (List.mem_cons_of_mem _ inside)
    have own : 0 ≤ length := nonneg length List.mem_cons_self
    cases segments with
    | nil => exact chained.elim
    | cons head segments =>
      obtain ⟨firstEq, -, tail⟩ := chained
      rcases List.mem_cons.mp inside with rfl | behind
      · exact firstEq.ge
      · exact (le_add_of_nonneg_right own).trans (ih tail later behind)

theorem disjoint {start : G} {lengths : List G} {segments : List S}
    (chained : Chained first last start lengths segments) (nonneg : ∀ length ∈ lengths, 0 ≤ length) :
    segments.Pairwise fun earlier later =>
      Disjoint (Set.Ioc (first earlier) (last earlier)) (Set.Ioc (first later) (last later)) := by
  induction lengths generalizing start segments with
  | nil =>
    cases segments with
    | nil => exact List.Pairwise.nil
    | cons head segments => exact chained.elim
  | cons length lengths ih =>
    have later : ∀ length ∈ lengths, 0 ≤ length := fun length inside => nonneg length (List.mem_cons_of_mem _ inside)
    cases segments with
    | nil => exact chained.elim
    | cons head segments =>
      obtain ⟨-, lastEq, tail⟩ := chained
      refine List.Pairwise.cons ?_ (ih tail later)
      intro segment behind
      exact Set.Ioc_disjoint_Ioc_of_le (lastEq ▸ tail.start_le later behind)

theorem bounds {start : G} {lengths : List G} {segments : List S} (chained : Chained first last start lengths segments)
    (positive : ∀ length ∈ lengths, 0 < length) {segment : S} (inside : segment ∈ segments) :
    start ≤ first segment ∧ first segment < last segment ∧ last segment ≤ start + lengths.sum := by
  induction lengths generalizing start segments with
  | nil =>
    cases segments with
    | nil => exact absurd inside List.not_mem_nil
    | cons segment segments => exact chained.elim
  | cons length lengths ih =>
    have later : ∀ length ∈ lengths, 0 < length := fun length inside => positive length (List.mem_cons_of_mem _ inside)
    have own : 0 < length := positive length List.mem_cons_self
    have rest : 0 ≤ lengths.sum := List.sum_nonneg fun length inside => (later length inside).le
    cases segments with
    | nil => exact chained.elim
    | cons head segments =>
      obtain ⟨firstEq, lastEq, tail⟩ := chained
      rw [List.sum_cons, ← add_assoc]
      rcases List.mem_cons.mp inside with rfl | behind
      · rw [firstEq, lastEq]
        exact ⟨le_refl start, lt_add_of_pos_right start own, le_add_of_nonneg_right rest⟩
      · obtain ⟨lower, nonempty, upper⟩ := ih tail later behind
        exact ⟨(le_add_of_nonneg_right own.le).trans lower, nonempty, upper⟩

/-- Every point between the start and the end lies in exactly one of the segments. -/
theorem existsUnique {start : G} {lengths : List G} {segments : List S}
    (chained : Chained first last start lengths segments) (positive : ∀ length ∈ lengths, 0 < length) {point : G}
    (lower : start ≤ point) (upper : point < start + lengths.sum) :
    ∃! segment, segment ∈ segments ∧ first segment ≤ point ∧ point < last segment := by
  induction lengths generalizing start segments with
  | nil =>
    rw [List.sum_nil, add_zero] at upper
    exact absurd upper lower.not_gt
  | cons length lengths ih =>
    have later : ∀ length ∈ lengths, 0 < length := fun length inside => positive length (List.mem_cons_of_mem _ inside)
    cases segments with
    | nil => exact chained.elim
    | cons head segments =>
      obtain ⟨firstEq, lastEq, tail⟩ := chained
      rcases lt_or_ge point (start + length) with within | beyond
      · refine ⟨head, ⟨List.mem_cons_self, firstEq ▸ lower, lastEq ▸ within⟩, ?_⟩
        rintro other ⟨inside, otherLower, -⟩
        rcases List.mem_cons.mp inside with same | behind
        · exact same
        · have after := (tail.bounds later behind).1
          exact absurd (after.trans otherLower) within.not_ge
      · rw [List.sum_cons, ← add_assoc] at upper
        obtain ⟨segment, ⟨inside, contains⟩, unique⟩ := ih tail later beyond upper
        refine ⟨segment, ⟨List.mem_cons_of_mem head inside, contains⟩, ?_⟩
        rintro other ⟨otherInside, otherContains⟩
        rcases List.mem_cons.mp otherInside with rfl | behind
        · exact absurd (lastEq ▸ otherContains.2) beyond.not_gt
        · exact unique other ⟨behind, otherContains⟩

end Chained

end Chained

section Periods

variable {S : Type} {first last : S → ℤ} {period : ℤ}

/-- Every boundary is a multiple of what divides the start and all lengths. -/
theorem Chained.boundaries {start : ℤ} {lengths : List ℤ} {segments : List S}
    (chained : Chained first last start lengths segments) (startDivided : period ∣ start)
    (divided : ∀ length ∈ lengths, period ∣ length) {segment : S} (inside : segment ∈ segments) :
    period ∣ first segment ∧ period ∣ last segment := by
  induction lengths generalizing start segments with
  | nil =>
    cases segments with
    | nil => exact absurd inside List.not_mem_nil
    | cons head segments => exact chained.elim
  | cons length lengths ih =>
    cases segments with
    | nil => exact chained.elim
    | cons head segments =>
      obtain ⟨firstEq, lastEq, tail⟩ := chained
      have nextDivided : period ∣ start + length := Int.dvd_add startDivided (divided length List.mem_cons_self)
      rcases List.mem_cons.mp inside with rfl | behind
      · exact ⟨firstEq ▸ startDivided, lastEq ▸ nextDivided⟩
      · exact ih tail nextDivided (fun length later => divided length (List.mem_cons_of_mem _ later)) behind

def roundDown (period time : ℤ) : ℤ := period * (time / period)

theorem le_roundDown (positive : 0 < period) {bound : ℤ} (divided : period ∣ bound) (time : ℤ) :
    bound ≤ roundDown period time ↔ bound ≤ time := by
  obtain ⟨factor, rfl⟩ := divided
  unfold roundDown
  rw [Int.mul_le_mul_left positive, Int.le_ediv_iff_mul_le positive, mul_comm]

theorem roundDown_lt (positive : 0 < period) {bound : ℤ} (divided : period ∣ bound) (time : ℤ) :
    roundDown period time < bound ↔ time < bound := by
  rw [← not_le, ← not_le, le_roundDown positive divided]

theorem dvd_roundDown (time : ℤ) : period ∣ roundDown period time := Int.dvd_mul_right period (time / period)

theorem roundDown_le (positive : 0 < period) (time : ℤ) : roundDown period time ≤ time :=
  (le_roundDown positive (dvd_roundDown time) time).mp (le_refl (roundDown period time))

theorem roundDown_succ (positive : 0 < period) {time : ℤ} (notMultiple : ¬ period ∣ time + 1) :
    roundDown period (time + 1) = roundDown period time := by
  apply le_antisymm
  · rw [le_roundDown positive (dvd_roundDown (time + 1))]
    have upper := roundDown_le positive (time + 1)
    have different : roundDown period (time + 1) ≠ time + 1 := fun same => notMultiple (same ▸ dvd_roundDown (time + 1))
    omega
  · rw [le_roundDown positive (dvd_roundDown time)]
    have upper := roundDown_le positive time
    omega

theorem roundDown_emod (positive : 0 < period) {cycle : ℤ} (cyclePositive : 0 < cycle) (divided : period ∣ cycle)
    (time : ℤ) : roundDown period time % cycle = roundDown period (time % cycle) := by
  have lower := Int.emod_nonneg time cyclePositive.ne'
  have upper := Int.emod_lt_of_pos time cyclePositive
  have whole := Int.emod_add_mul_ediv time cycle
  generalize time % cycle = rest at lower upper whole ⊢
  generalize time / cycle = cycles at whole
  obtain ⟨factor, rfl⟩ := divided
  have quotient : time / period = rest / period + factor * cycles := by
    rw [← whole, mul_assoc, Int.add_mul_ediv_left _ _ positive.ne']
  have below : rest / period < factor := Int.ediv_lt_of_lt_mul positive (by rw [mul_comm]; exact upper)
  have nonneg : 0 ≤ rest / period := Int.ediv_nonneg lower positive.le
  unfold roundDown
  rw [quotient, Int.mul_emod_mul_of_pos _ _ positive, Int.add_mul_emod_self_left, Int.emod_eq_of_lt nonneg below]

end Periods

end Systems
