import Mathlib.Data.List.Basic

namespace Systems

section

variable {Event Handle : Type*} (handle : Event → Handle) (failed : Event → Bool) (opened : ℕ → Handle)

/-- Operations issued one after the other on the handle in use, where one that fails has the handle
    replaced by a newly opened one. The numbers count the handles opened so far. -/
inductive Threaded : Handle → ℕ → List Event → Handle → ℕ → Prop where
  | done (current : Handle) (count : ℕ) : Threaded current count [] current count
  | passed {current last : Handle} {count total : ℕ} {event : Event} {events : List Event}
      (used : handle event = current) (fine : failed event = false)
      (rest : Threaded current count events last total) :
      Threaded current count (event :: events) last total
  | replaced {current last : Handle} {count total : ℕ} {event : Event} {events : List Event}
      (used : handle event = current) (broken : failed event = true)
      (rest : Threaded (opened count) (count + 1) events last total) :
      Threaded current count (event :: events) last total

end

namespace Threaded

variable {Event Handle : Type*} {handle : Event → Handle} {failed : Event → Bool} {opened : ℕ → Handle}
  {current middle last : Handle} {count midway total : ℕ} {events more : List Event}

theorem append (first : Threaded handle failed opened current count events middle midway)
    (second : Threaded handle failed opened middle midway more last total) :
    Threaded handle failed opened current count (events ++ more) last total := by
  induction first with
  | done => exact second
  | passed used fine _ ih => exact .passed used fine (ih second)
  | replaced used broken _ ih => exact .replaced used broken (ih second)

theorem handles (threaded : Threaded handle failed opened current count events last total) :
    ∀ event ∈ events, handle event = current ∨ ∃ number, count ≤ number ∧ handle event = opened number := by
  induction threaded with
  | done => intro event member; cases member
  | passed used _ _ ih =>
    intro event member
    rcases List.mem_cons.mp member with rfl | later
    · exact .inl used
    · exact ih event later
  | replaced used _ _ ih =>
    intro event member
    rcases List.mem_cons.mp member with rfl | later
    · exact .inl used
    · rcases ih event later with fresh | ⟨number, above, fresh⟩
      · exact .inr ⟨_, Nat.le_refl _, fresh⟩
      · exact .inr ⟨number, by omega, fresh⟩

/-- No operation is issued on a handle on which an earlier one failed. -/
theorem failed_not_reused (threaded : Threaded handle failed opened current count events last total)
    (distinct : Function.Injective opened) (known : ∃ number < count, current = opened number) :
    events.Pairwise fun earlier later => failed earlier = true → handle later ≠ handle earlier := by
  induction threaded with
  | done => exact .nil
  | passed used fine _ ih =>
    refine .cons (fun later _ broken => ?_) (ih known)
    rw [fine] at broken
    cases broken
  | replaced used _ rest ih =>
    obtain ⟨number, below, rfl⟩ := known
    refine .cons (fun later member _ same => ?_) (ih ⟨_, Nat.lt_succ_self _, rfl⟩)
    rw [used] at same
    rcases rest.handles later member with fresh | ⟨other, above, fresh⟩
    · have := distinct (same.symm.trans fresh)
      omega
    · have := distinct (same.symm.trans fresh)
      omega

end Threaded

end Systems
