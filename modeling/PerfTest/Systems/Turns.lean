import Mathlib.Data.Int.CardIntervalMod
import Mathlib.Data.List.Induction

namespace Systems

variable {Item : Type}

theorem getElem?_concat_iff {items : List Item} {last item : Item} {position : ℕ} :
    (items ++ [last])[position]? = some item ↔
      items[position]? = some item ∨ position = items.length ∧ item = last := by
  rcases Nat.lt_trichotomy position items.length with earlier | rfl | later
  · rw [List.getElem?_append_left earlier, or_iff_left (by omega)]
  · rw [List.getElem?_concat_length, List.getElem?_eq_none (Nat.le_refl _)]
    simp [eq_comm]
  · have absent : items[position]? = none := List.getElem?_eq_none (Nat.le_of_lt later)
    have beyond : (items ++ [last])[position]? = none := by
      apply List.getElem?_eq_none
      rw [List.length_append, List.length_singleton]
      omega
    rw [absent, beyond]
    simp [Nat.ne_of_gt later]

def InTurn (items given : List Item) : Prop :=
  ∀ position item, given[position]? = some item → items[position % items.length]? = some item

namespace InTurn

variable {items given : List Item} {item other : Item}

theorem nil : InTurn items [] := fun _ _ found => by cases found

theorem concat (inTurn : InTurn items given) (next : items[given.length % items.length]? = some item) :
    InTurn items (given ++ [item]) := by
  intro position found present
  rcases getElem?_concat_iff.mp present with before | ⟨rfl, rfl⟩
  · exact inTurn position found before
  · exact next

theorem of_concat (inTurn : InTurn items (given ++ [item])) : InTurn items given :=
  fun position found present => inTurn position found (getElem?_concat_iff.mpr (.inl present))

variable [DecidableEq Item]

theorem count_eq (inTurn : InTurn items given) (distinct : items.Nodup) {turn : ℕ}
    (at_turn : items[turn]? = some item) :
    given.count item = Nat.count (· ≡ turn [MOD items.length]) given.length := by
  have less : turn < items.length := (List.getElem?_eq_some_iff.mp at_turn).1
  induction given using List.reverseRecOn with
  | nil => rfl
  | append_singleton given last ih =>
    have here := inTurn given.length last List.getElem?_concat_length
    have same : last = item ↔ given.length ≡ turn [MOD items.length] := by
      rw [Nat.ModEq, Nat.mod_eq_of_lt less]
      constructor
      · rintro rfl
        have within : given.length % items.length < items.length := Nat.mod_lt _ (Nat.zero_lt_of_lt less)
        exact (List.getElem?_inj within distinct).mp (here.trans at_turn.symm)
      · intro turns
        rw [turns, at_turn] at here
        exact (Option.some.inj here).symm
    rw [List.count_append, List.length_append, List.length_singleton, Nat.count_succ, ih inTurn.of_concat,
      List.count_singleton]
    simp only [beq_iff_eq, same]

theorem count_le (inTurn : InTurn items given) (distinct : items.Nodup) (member : item ∈ items)
    (otherMember : other ∈ items) : given.count item ≤ given.count other + 1 := by
  obtain ⟨turn, at_turn⟩ := List.mem_iff_getElem?.mp member
  obtain ⟨otherTurn, at_otherTurn⟩ := List.mem_iff_getElem?.mp otherMember
  have several : 0 < items.length := List.length_pos_of_mem member
  rw [inTurn.count_eq distinct at_turn, inTurn.count_eq distinct at_otherTurn,
    Nat.count_modEq_card _ several, Nat.count_modEq_card _ several]
  split <;> split <;> omega

end InTurn

theorem flatMap_eq_of_others {Other : Type} {items : List Item} {brings : Item → List Other} {item : Item}
    (distinct : items.Nodup) (member : item ∈ items) (others : ∀ other ∈ items, other ≠ item → brings other = []) :
    items.flatMap brings = brings item := by
  obtain ⟨before, after, rfl⟩ := List.append_of_mem member
  have absent := (List.nodup_cons.mp (List.nodup_middle.mp distinct)).1
  have nothing : ∀ other ∈ before ++ after, brings other = [] := by
    intro other held
    refine others other ?_ fun same => absent (same ▸ held)
    exact (List.perm_middle.mem_iff).mpr (List.mem_cons_of_mem _ held)
  rw [List.flatMap_append, List.flatMap_cons, List.flatMap_eq_nil_iff.mpr, List.flatMap_eq_nil_iff.mpr, List.nil_append,
    List.append_nil]
  · exact fun other held => nothing other (List.mem_append_right _ held)
  · exact fun other held => nothing other (List.mem_append_left _ held)

section Hands

variable {Other : Type} {count turn : ℕ} {items : List Item}

def hand (count turn : ℕ) (items : List Item) : List Item :=
  (items.zipIdx.filter fun numbered => numbered.2 % count = turn).map Prod.fst

theorem hand_concat (count turn : ℕ) (items : List Item) (last : Item) :
    hand count turn (items ++ [last]) =
      hand count turn items ++ if items.length % count = turn then [last] else [] := by
  rw [hand, List.zipIdx_append, List.filter_append, List.map_append, hand, List.zipIdx_singleton,
    List.filter_singleton, Nat.zero_add]
  by_cases here : items.length % count = turn
  · simp [here]
  · simp [here]

theorem hand_getElem? (less : turn < count) (items : List Item) (round : ℕ) :
    (hand count turn items)[round]? = items[round * count + turn]? := by
  induction items using List.reverseRecOn generalizing round with
  | nil => rfl
  | append_singleton items last ih =>
    have several : 0 < count := Nat.zero_lt_of_lt less
    have turns : (round * count + turn) % count = turn := by
      rw [Nat.mul_add_mod_self_right, Nat.mod_eq_of_lt less]
    rw [hand_concat]
    split
    · rename_i here
      have rounds : items.length / count * count + turn = items.length := by
        rw [← here, Nat.div_add_mod']
      have length : (hand count turn items).length = items.length / count := by
        apply eq_of_forall_ge_iff
        intro round
        rw [← List.getElem?_eq_none_iff, ih, List.getElem?_eq_none_iff, ← rounds, Nat.add_le_add_iff_right,
          Nat.mul_le_mul_right_iff several, rounds]
      have last_round : round = items.length / count ↔ round * count + turn = items.length := by
        rw [← rounds, Nat.add_right_cancel_iff, Nat.mul_left_inj (Nat.ne_of_gt several), rounds]
      apply Option.ext
      intro item
      rw [getElem?_concat_iff, getElem?_concat_iff, ih, length, last_round]
    · rename_i other
      have another : round * count + turn ≠ items.length := by
        intro same
        rw [← same] at other
        exact other turns
      apply Option.ext
      intro item
      rw [List.append_nil, ih, getElem?_concat_iff, or_iff_left fun last => another last.1]

/-- What the items bring to one of several, when those of the others bring nothing. -/
theorem flatMap_hand {brings kept : Item → List Other}
    (each : ∀ position item, items[position]? = some item →
      brings item = if position % count = turn then kept item else []) :
    items.flatMap brings = (hand count turn items).flatMap kept := by
  induction items using List.reverseRecOn with
  | nil => rfl
  | append_singleton items last ih =>
    have earlier := ih fun position item found => each position item (getElem?_concat_iff.mpr (.inl found))
    have final := each items.length last (getElem?_concat_iff.mpr (.inr ⟨rfl, rfl⟩))
    rw [List.flatMap_append, List.flatMap_singleton, earlier, final, hand_concat, List.flatMap_append]
    split
    · rw [List.flatMap_singleton]
    · rfl

theorem nodup_of_hands {hands : List (List Item)} (several : 0 < hands.length)
    (dealt : ∀ turn held, hands[turn]? = some held → held = hand hands.length turn items)
    (distinct : hands.flatten.Nodup) : items.Nodup := by
  obtain ⟨each, apart⟩ := List.nodup_flatten.mp distinct
  have at_turn : ∀ position item, items[position]? = some item →
      ∃ held, hands[position % hands.length]? = some held ∧ held[position / hands.length]? = some item := by
    intro position item found
    have less : position % hands.length < hands.length := Nat.mod_lt _ several
    refine ⟨_, List.getElem?_eq_getElem less, ?_⟩
    rw [dealt _ _ (List.getElem?_eq_getElem less), hand_getElem? less, Nat.div_add_mod']
    exact found
  rw [List.nodup_iff_getElem?_ne_getElem?]
  intro first second less inside same
  obtain ⟨item, found⟩ : ∃ item, items[second]? = some item := ⟨_, List.getElem?_eq_getElem inside⟩
  obtain ⟨held, at_first, in_first⟩ := at_turn first item (same.trans found)
  obtain ⟨otherHeld, at_second, in_second⟩ := at_turn second item found
  by_cases turn : first % hands.length = second % hands.length
  · rw [turn, at_second, Option.some.injEq] at at_first
    subst at_first
    have round := (List.getElem?_inj (List.getElem?_eq_some_iff.mp in_first).1
      (each otherHeld (List.mem_of_getElem? at_second))).mp (in_first.trans in_second.symm)
    have positions := Nat.div_add_mod first hands.length
    rw [round, turn, Nat.div_add_mod] at positions
    exact absurd positions (Nat.ne_of_gt less)
  · have disjoint : List.Disjoint held otherHeld := by
      obtain ⟨firstInside, rfl⟩ := List.getElem?_eq_some_iff.mp at_first
      obtain ⟨secondInside, rfl⟩ := List.getElem?_eq_some_iff.mp at_second
      rcases Nat.lt_or_gt_of_ne turn with before | after
      · exact List.pairwise_iff_getElem.mp apart _ _ firstInside secondInside before
      · exact (List.pairwise_iff_getElem.mp apart _ _ secondInside firstInside after).symm
    exact disjoint (List.mem_of_getElem? in_first) (List.mem_of_getElem? in_second)

end Hands

end Systems
