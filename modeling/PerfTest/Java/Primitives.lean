import Mathlib.Algebra.Group.Nat.Defs
import Mathlib.Algebra.Ring.Int.Defs

namespace Java

/-- The value of an `int` expression: the result modulo 2^32, between -2^31 and 2^31 - 1. -/
def int (value : ℤ) : ℤ := value.bmod (2 ^ 32)

theorem int_succ {value : ℤ} (lower : -2 ^ 31 ≤ value) (upper : value < 2 ^ 31) :
    int (value + 1) = value + 1 ↔ value ≠ 2 ^ 31 - 1 := by
  unfold int
  constructor
  · rintro same rfl
    revert same
    decide
  · intro fits
    exact Int.bmod_eq_of_le (by omega) (by omega)

theorem int_range (value : ℤ) : -2 ^ 31 ≤ int value ∧ int value < 2 ^ 31 := by
  have lower := Int.le_bmod (x := value) (m := 2 ^ 32) (by decide)
  have upper := Int.bmod_lt (x := value) (m := 2 ^ 32) (by decide)
  exact ⟨lower, upper⟩

theorem int_eq_self {value : ℤ} : int value = value ↔ -2 ^ 31 ≤ value ∧ value < 2 ^ 31 := by
  constructor
  · intro fits
    exact fits ▸ int_range value
  · rintro ⟨lower, upper⟩
    exact Int.bmod_eq_of_le (by omega) (by omega)

def long (value : ℤ) : ℤ := value.bmod (2 ^ 64)

def longMaxValue : ℤ := 2 ^ 63 - 1

def longMinValue : ℤ := -2 ^ 63

def toMillis (nanoseconds : ℤ) : ℤ := nanoseconds.tdiv 1000000

structure Semaphore where
  availablePermits : ℕ
  deriving DecidableEq, Repr

namespace Semaphore

def tryAcquire (pool : Semaphore) : Option Semaphore :=
  if 0 < pool.availablePermits then some ⟨pool.availablePermits - 1⟩ else none

/-- A negative number of permits is an IllegalArgumentException, here `none`. -/
def release (pool : Semaphore) (permits : ℤ) : Option Semaphore :=
  if permits < 0 then none else some ⟨pool.availablePermits + permits.toNat⟩

theorem tryAcquire_some {pool result : Semaphore} :
    pool.tryAcquire = some result ↔ result.availablePermits + 1 = pool.availablePermits := by
  obtain ⟨permits⟩ := pool
  obtain ⟨left⟩ := result
  unfold tryAcquire
  split <;> rename_i positive <;> dsimp only at positive ⊢
  · simp only [Option.some.injEq, Semaphore.mk.injEq]
    omega
  · simp only [reduceCtorEq, false_iff]
    omega

theorem release_some {pool result : Semaphore} {permits : ℤ} :
    pool.release permits = some result ↔
      0 ≤ permits ∧ (result.availablePermits : ℤ) = pool.availablePermits + permits := by
  obtain ⟨available⟩ := pool
  obtain ⟨after⟩ := result
  unfold release
  split <;> dsimp only
  · simp only [reduceCtorEq, false_iff]
    omega
  · simp only [Option.some.injEq, Semaphore.mk.injEq]
    omega

end Semaphore

end Java
