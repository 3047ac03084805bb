import Mathlib.Algebra.BigOperators.Group.Finset.Basic
import Mathlib.Algebra.BigOperators.Fin
import Mathlib.Data.Fintype.Basic
import PerfTest.Systems.Runs

namespace Systems.Ledger

variable {Account : Type*} [DecidableEq Account]

structure Transfer (Account : Type*) where
  source : Account
  target : Account
  amount : ℕ

def transfer (balance : Account → ℕ) (entry : Transfer Account) : Option (Account → ℕ) :=
  if entry.source ≠ entry.target ∧ entry.amount ≤ balance entry.source then
    some fun account =>
      if account = entry.source then balance account - entry.amount
      else if account = entry.target then balance account + entry.amount
      else balance account
  else none

theorem transfer_of {balance result : Account → ℕ} (source target : Account) (amount : ℕ)
    (distinct : source ≠ target) (paid : result source + amount = balance source)
    (received : result target = balance target + amount)
    (others : ∀ account, account ≠ source → account ≠ target → result account = balance account) :
    transfer balance ⟨source, target, amount⟩ = some result := by
  unfold transfer
  rw [if_pos ⟨distinct, by dsimp only; omega⟩]
  congr 1
  funext account
  dsimp only
  split
  · rename_i atSource
    subst atSource
    omega
  · rename_i notSource
    split
    · rename_i atTarget
      subst atTarget
      omega
    · rename_i notTarget
      exact (others account notSource notTarget).symm

theorem run_single {balance result : Account → ℕ} {entry : Transfer Account}
    (moved : transfer balance entry = some result) : run transfer balance [entry] = some result := by
  simp only [run, moved, Option.bind_some]

def total [Fintype Account] (balance : Account → ℕ) : ℕ := ∑ account, balance account

theorem transfer_total [Fintype Account] {balance result : Account → ℕ} {entry : Transfer Account}
    (moved : transfer balance entry = some result) : total result = total balance := by
  unfold transfer at moved
  split at moved
  · rename_i allowed
    obtain ⟨distinct, funded⟩ := allowed
    cases moved
    have target : entry.target ∈ Finset.univ.erase entry.source :=
      Finset.mem_erase.mpr ⟨Ne.symm distinct, Finset.mem_univ _⟩
    unfold total
    rw [← Finset.add_sum_erase _ _ (Finset.mem_univ entry.source),
      ← Finset.add_sum_erase _ balance (Finset.mem_univ entry.source),
      ← Finset.add_sum_erase _ _ target, ← Finset.add_sum_erase _ balance target]
    set others := (Finset.univ.erase entry.source).erase entry.target
    have rest : ∀ account ∈ others,
        (if account = entry.source then balance account - entry.amount
          else if account = entry.target then balance account + entry.amount
          else balance account) = balance account := by
      intro account member
      simp only [others, Finset.mem_erase] at member
      simp only [member.1, member.2.1, if_false]
    have same : ∑ account ∈ others, balance account = others.sum balance := rfl
    rw [Finset.sum_congr rfl rest]
    simp only [if_true, Ne.symm distinct, if_false]
    omega
  · cases moved

/-- Whatever is moved around, nothing appears and nothing is lost. -/
theorem run_total [Fintype Account] {balance result : Account → ℕ}
    {entries : List (Transfer Account)} (executed : run transfer balance entries = some result) :
    total result = total balance :=
  run_invariant (fun current => total current = total balance)
    (fun _ _ _ same moved => (transfer_total moved).trans same) rfl executed

end Systems.Ledger
