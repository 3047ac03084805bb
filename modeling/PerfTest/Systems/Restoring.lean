import Mathlib.Data.List.Induction
import Mathlib.Data.Set.Lattice

namespace Systems

structure Restoring (Holder Resource Claim : Type) where
  provides : Holder → Set Resource
  holds : Holder → Set Claim
  needs : Claim → Set Resource

structure Restored (Resource Claim : Type) where
  available : Set Resource
  made : Set Claim

namespace Restoring

variable {Holder Resource Claim : Type} (system : Restoring Holder Resource Claim)

def restore (state : Restored Resource Claim) (holder : Holder) : Restored Resource Claim :=
  ⟨state.available ∪ system.provides holder,
    state.made ∪ {claim ∈ system.holds holder |
      system.needs claim ⊆ state.available ∪ system.provides holder}⟩

def restoreAll (kept : Set Resource) (order : List Holder) : Restored Resource Claim :=
  order.foldl system.restore ⟨kept, ∅⟩

def Supported (kept : Set Resource) (holders : List Holder) (claim : Claim) : Prop :=
  ∀ resource ∈ system.needs claim, resource ∈ kept ∨
    ∃ holder ∈ holders, claim ∈ system.holds holder ∧ resource ∈ system.provides holder

variable {system} {kept : Set Resource} {order : List Holder} {holder : Holder} {resource : Resource}
  {claim : Claim}

theorem restoreAll_concat :
    system.restoreAll kept (order ++ [holder]) = system.restore (system.restoreAll kept order) holder := by
  rw [restoreAll, List.foldl_append]
  rfl

theorem mem_available : resource ∈ (system.restoreAll kept order).available ↔
    resource ∈ kept ∨ ∃ holder ∈ order, resource ∈ system.provides holder := by
  induction order using List.reverseRecOn with
  | nil => simp [restoreAll]
  | append_singleton order holder ih =>
    rw [restoreAll_concat, restore, Set.mem_union, ih]
    simp [or_and_right, exists_or, or_assoc]

theorem mem_made_concat : claim ∈ (system.restoreAll kept (order ++ [holder])).made ↔
    claim ∈ (system.restoreAll kept order).made ∨
      claim ∈ system.holds holder ∧
        system.needs claim ⊆ (system.restoreAll kept (order ++ [holder])).available := by
  rw [restoreAll_concat]
  rfl

theorem needs_of_made (made : claim ∈ (system.restoreAll kept order).made) :
    system.needs claim ⊆ (system.restoreAll kept order).available := by
  induction order using List.reverseRecOn with
  | nil => exact absurd made (Set.notMem_empty claim)
  | append_singleton order last ih =>
    rcases mem_made_concat.mp made with earlier | ⟨_, needs⟩
    · intro resource needed
      rw [restoreAll_concat]
      exact Set.mem_union_left _ (ih earlier needed)
    · exact needs

/-- Those that do not hold the claim do not make it. -/
theorem made_of_append {others : List Holder} (without : ∀ holder ∈ others, claim ∉ system.holds holder)
    (made : claim ∈ (system.restoreAll kept (order ++ others)).made) :
    claim ∈ (system.restoreAll kept order).made := by
  induction others using List.reverseRecOn with
  | nil => rwa [List.append_nil] at made
  | append_singleton others last ih =>
    rw [← List.append_assoc] at made
    rcases mem_made_concat.mp made with earlier | ⟨held, _⟩
    · exact ih (fun holder member => without holder (List.mem_append_left _ member)) earlier
    · exact absurd held (without last (List.mem_append_right _ (List.mem_singleton_self last)))

/-- The last holder without which the claim is not supported makes it. -/
theorem made_of_supported (held : ∃ holder ∈ order, claim ∈ system.holds holder)
    (supported : system.Supported kept order claim) : claim ∈ (system.restoreAll kept order).made := by
  induction order using List.reverseRecOn with
  | nil =>
    obtain ⟨_, member, _⟩ := held
    exact absurd member List.not_mem_nil
  | append_singleton order last ih =>
    rw [mem_made_concat]
    by_cases here : claim ∈ system.holds last
    · right
      refine ⟨here, fun resource needed => mem_available.mpr ?_⟩
      apply (supported resource needed).imp id
      rintro ⟨holder, member, _, provided⟩
      exact ⟨holder, member, provided⟩
    · left
      have elsewhere : ∀ holder ∈ order ++ [last], claim ∈ system.holds holder → holder ∈ order := by
        intro holder member holds
        rcases List.mem_append.mp member with earlier | final
        · exact earlier
        · rw [List.mem_singleton.mp final] at holds
          exact absurd holds here
      apply ih
      · obtain ⟨holder, member, holds⟩ := held
        exact ⟨holder, elsewhere holder member holds, holds⟩
      · intro resource needed
        apply (supported resource needed).imp id
        rintro ⟨holder, member, holds, provided⟩
        exact ⟨holder, elsewhere holder member holds, holds, provided⟩

/-- A claim is made again in every order exactly if those that hold it bring back what it needs: with
    them first, nothing else is there. -/
theorem made_in_every_order_iff {holders : List Holder} (held : ∃ holder ∈ holders, claim ∈ system.holds holder) :
    (∀ order, order.Perm holders → claim ∈ (system.restoreAll kept order).made) ↔
      system.Supported kept holders claim := by
  classical
  constructor
  · intro always
    have made := made_of_append
      (fun holder member => by simpa using (List.mem_filter.mp member).2)
      (always _ (List.filter_append_perm (fun holder => decide (claim ∈ system.holds holder)) holders))
    intro resource needed
    apply (mem_available.mp (needs_of_made made needed)).imp id
    rintro ⟨holder, member, provided⟩
    obtain ⟨listed, holds⟩ := List.mem_filter.mp member
    exact ⟨holder, listed, of_decide_eq_true holds, provided⟩
  · intro supported order perm
    apply made_of_supported
    · obtain ⟨holder, member, holds⟩ := held
      exact ⟨holder, perm.mem_iff.mpr member, holds⟩
    · intro resource needed
      apply (supported resource needed).imp id
      rintro ⟨holder, member, rest⟩
      exact ⟨holder, perm.mem_iff.mpr member, rest⟩

end Restoring

end Systems
