import Mathlib.Data.List.Basic
import Mathlib.Data.List.Forall2
import Mathlib.Data.List.Nodup
import Mathlib.Data.List.Pairwise

namespace Systems

variable {Item Other State : Type}

def combinations : List (List Item) → List (List Item)
  | [] => [[]]
  | items :: rest => items.flatMap fun item => (combinations rest).map (item :: ·)

def Precedes : List (List Item) → List Item → List Item → Prop
  | items :: rest, first :: firsts, second :: seconds =>
    [first, second].Sublist items ∨ first = second ∧ Precedes rest firsts seconds
  | _, _, _ => False

theorem mem_combinations {lists : List (List Item)} {choice : List Item} :
    choice ∈ combinations lists ↔ List.Forall₂ (· ∈ ·) choice lists := by
  induction lists generalizing choice with
  | nil => simp [combinations]
  | cons items rest ih =>
    simp only [combinations, List.mem_flatMap, List.mem_map]
    constructor
    · rintro ⟨item, member, others, chosen, rfl⟩
      exact .cons member (ih.mp chosen)
    · intro chosen
      cases chosen with
      | cons member others => exact ⟨_, member, _, ih.mpr others, rfl⟩

theorem length_of_mem_combinations {lists : List (List Item)} {choice : List Item}
    (chosen : choice ∈ combinations lists) : choice.length = lists.length :=
  (mem_combinations.mp chosen).length_eq

theorem combinations_ne_nil {lists : List (List Item)} (some : ∀ items ∈ lists, items ≠ []) :
    combinations lists ≠ [] := by
  induction lists with
  | nil => exact List.cons_ne_nil _ _
  | cons items rest ih =>
    obtain ⟨item, member⟩ := List.exists_mem_of_ne_nil items (some items List.mem_cons_self)
    obtain ⟨choice, chosen⟩ := List.exists_mem_of_ne_nil _ (ih fun later listed =>
      some later (List.mem_cons_of_mem _ listed))
    refine List.ne_nil_of_mem (a := item :: choice) ?_
    exact List.mem_flatMap.mpr ⟨item, member, List.mem_map_of_mem chosen⟩

theorem listed_of_mem_combinations {lists : List (List Item)} {choice : List Item} {item : Item}
    (chosen : choice ∈ combinations lists) (member : item ∈ choice) : ∃ items ∈ lists, item ∈ items := by
  have each := mem_combinations.mp chosen
  induction each with
  | nil => cases member
  | cons here _ ih =>
    rcases List.mem_cons.mp member with rfl | later
    · exact ⟨_, List.mem_cons_self, here⟩
    · obtain ⟨items, listed, found⟩ := ih (mem_combinations.mpr ‹_›) later
      exact ⟨items, List.mem_cons_of_mem _ listed, found⟩

theorem exists_combination {lists : List (List Item)} (some : ∀ items ∈ lists, items ≠ []) {items : List Item}
    (listed : items ∈ lists) {item : Item} (member : item ∈ items) : ∃ choice ∈ combinations lists, item ∈ choice := by
  induction lists with
  | nil => cases listed
  | cons first rest ih =>
    have others := fun later found => some later (List.mem_cons_of_mem _ found)
    have build (head : Item) (inFirst : head ∈ first) (choice : List Item) (chosen : choice ∈ combinations rest) :
        head :: choice ∈ combinations (first :: rest) :=
      List.mem_flatMap.mpr ⟨head, inFirst, List.mem_map_of_mem chosen⟩
    rcases List.mem_cons.mp listed with rfl | later
    · obtain ⟨choice, chosen⟩ := List.exists_mem_of_ne_nil _ (combinations_ne_nil others)
      exact ⟨item :: choice, build item member choice chosen, List.mem_cons_self⟩
    · obtain ⟨choice, chosen, found⟩ := ih others later
      obtain ⟨head, inFirst⟩ := List.exists_mem_of_ne_nil first (some first List.mem_cons_self)
      exact ⟨head :: choice, build head inFirst choice chosen, List.mem_cons_of_mem _ found⟩

theorem map_combinations (change : Item → Other) (lists : List (List Item)) :
    (combinations lists).map (List.map change) = combinations (lists.map (List.map change)) := by
  induction lists with
  | nil => rfl
  | cons items rest ih =>
    simp only [combinations, List.map_cons, List.map_flatMap, List.flatMap_map, List.map_map, ← ih]
    rfl

theorem nodup_combinations {lists : List (List Item)} (nodup : ∀ items ∈ lists, items.Nodup) :
    (combinations lists).Nodup := by
  induction lists with
  | nil => exact List.nodup_singleton []
  | cons items rest ih =>
    have others := ih fun later listed => nodup later (List.mem_cons_of_mem _ listed)
    refine List.nodup_flatMap.mpr ⟨fun item _ => others.map (List.cons_injective), ?_⟩
    refine List.Pairwise.imp ?_ (nodup items List.mem_cons_self)
    intro first second differ choice inFirst inSecond
    obtain ⟨_, _, rfl⟩ := List.mem_map.mp inFirst
    obtain ⟨_, _, same⟩ := List.mem_map.mp inSecond
    exact differ (List.cons.inj same).1.symm

/-- The combinations come in the order of their first choices, then of the second ones, and so on. -/
theorem combinations_pairwise (lists : List (List Item)) : (combinations lists).Pairwise (Precedes lists) := by
  induction lists with
  | nil => exact List.pairwise_singleton _ _
  | cons items rest ih =>
    refine List.pairwise_flatMap.mpr ⟨fun item _ => ?_, ?_⟩
    · refine List.pairwise_map.mpr (ih.imp fun precedes => ?_)
      exact .inr ⟨rfl, precedes⟩
    · refine List.pairwise_iff_forall_sublist.mpr fun {first second} ordered => ?_
      intro choice inFirst other inSecond
      obtain ⟨_, _, rfl⟩ := List.mem_map.mp inFirst
      obtain ⟨_, _, rfl⟩ := List.mem_map.mp inSecond
      exact .inl ordered

def nestedLoop (body : List Item → State → State) : List (List Item) → List Item → State → State
  | [], chosen, state => body chosen state
  | items :: rest, chosen, state =>
    items.foldl (fun state item => nestedLoop body rest (chosen ++ [item]) state) state

theorem nestedLoop_eq (body : List Item → State → State) (lists : List (List Item)) (chosen : List Item)
    (state : State) : nestedLoop body lists chosen state =
      (combinations lists).foldl (fun state choice => body (chosen ++ choice) state) state := by
  induction lists generalizing chosen state with
  | nil => simp [nestedLoop, combinations]
  | cons items rest ih =>
    simp only [nestedLoop, combinations, List.foldl_flatMap, List.foldl_map, ih, List.append_assoc,
      List.singleton_append]

end Systems
