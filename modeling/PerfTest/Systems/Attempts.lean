import Mathlib.Data.List.Basic

namespace Systems

variable {Item : Type}

def tryInTurn (succeeds : ℕ → Item → Bool) : ℕ → List Item → List (Item × Bool)
  | _, [] => []
  | turn, item :: rest =>
    if succeeds turn item then (item, true) :: tryInTurn succeeds (turn + 1) rest else [(item, false)]

def StopsAt (succeeds : ℕ → Item → Bool) (passed failed : Item → Prop) (turn : ℕ) (items : List Item) : Prop :=
  ∃ before item after, items = before ++ item :: after ∧ succeeds (turn + before.length) item = false ∧
    (∀ earlier ∈ before, passed earlier) ∧ failed item

section

variable {succeeds : ℕ → Item → Bool} {passed failed : Item → Prop} {turn : ℕ} {item : Item} {items : List Item}

theorem stopsAt_cons : StopsAt succeeds passed failed turn (item :: items) ↔
    succeeds turn item = false ∧ failed item ∨ passed item ∧ StopsAt succeeds passed failed (turn + 1) items := by
  constructor
  · rintro ⟨before, stop, after, split, fails, meet, meets⟩
    cases before with
    | nil =>
      cases split
      exact .inl ⟨fails, meets⟩
    | cons first before =>
      cases split
      rw [List.length_cons, ← Nat.add_assoc, Nat.add_right_comm] at fails
      exact .inr ⟨meet item List.mem_cons_self, before, stop, after, rfl, fails,
        fun earlier listed => meet earlier (List.mem_cons_of_mem _ listed), meets⟩
  · rintro (⟨fails, meets⟩ | ⟨first, before, stop, after, rfl, fails, meet, meets⟩)
    · exact ⟨[], item, items, rfl, fails, fun _ listed => absurd listed List.not_mem_nil, meets⟩
    · refine ⟨item :: before, stop, after, rfl, ?_, List.forall_mem_cons.mpr ⟨first, meet⟩, meets⟩
      rw [List.length_cons, ← Nat.add_assoc, Nat.add_right_comm]
      exact fails

/-- What holds of all attempts: the items pass, or one fails in time. -/
theorem tryInTurn_iff (weaker : ∀ item, passed item → failed item) :
    (∀ attempt ∈ tryInTurn succeeds turn items, if attempt.2 then passed attempt.1 else failed attempt.1) ↔
      (∀ item ∈ items, passed item) ∨ StopsAt succeeds passed failed turn items := by
  induction items generalizing turn with
  | nil => simp [tryInTurn]
  | cons item items ih =>
    rw [tryInTurn, stopsAt_cons, List.forall_mem_cons]
    cases outcome : succeeds turn item with
    | true =>
      simp only [if_true, List.forall_mem_cons, ih, reduceCtorEq, false_and, false_or]
      exact and_or_left
    | false =>
      simp only [Bool.false_eq_true, if_false, List.mem_singleton, forall_eq, true_and]
      constructor
      · exact fun fails => .inr (.inl fails)
      · rintro (⟨passes, _⟩ | fails | ⟨passes, _⟩)
        · exact weaker item passes
        · exact fails
        · exact weaker item passes

theorem tryInTurn_of_succeed (all : ∀ attempt ∈ tryInTurn succeeds turn items, attempt.2 = true) :
    (tryInTurn succeeds turn items).map Prod.fst = items := by
  induction items generalizing turn with
  | nil => rfl
  | cons item items ih =>
    rw [tryInTurn] at all ⊢
    split at all
    · rename_i outcome
      rw [if_pos outcome, List.map_cons, ih fun attempt listed => all attempt (List.mem_cons_of_mem _ listed)]
    · exact absurd (all _ (List.mem_singleton_self _)) nofun

end

end Systems
