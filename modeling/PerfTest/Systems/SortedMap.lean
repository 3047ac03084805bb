import Mathlib.Data.Finset.Card
import Mathlib.Data.Finset.Image
import Mathlib.Data.List.Nodup
import Mathlib.Order.Defs.LinearOrder

namespace Systems

structure SortedMap (Key Value : Type*) [LinearOrder Key] where
  entries : List (Key × Value)
  sorted : entries.Pairwise fun left right => left.1 < right.1

namespace SortedMap

variable {Key Value : Type*} [LinearOrder Key]

def empty : SortedMap Key Value := ⟨[], List.Pairwise.nil⟩

def get? (map : SortedMap Key Value) (key : Key) : Option Value :=
  (map.entries.find? fun entry => entry.1 = key).map Prod.snd

def put (map : SortedMap Key Value) (key : Key) (value : Value) : SortedMap Key Value where
  entries := map.entries.filter (fun entry => entry.1 < key) ++
    (key, value) :: map.entries.filter (fun entry => key < entry.1)
  sorted := by
    rw [List.pairwise_append, List.pairwise_cons]
    refine ⟨map.sorted.filter _, ⟨?_, map.sorted.filter _⟩, ?_⟩
    · intro entry member
      simpa using (List.mem_filter.mp member).2
    · intro left leftMember right rightMember
      have below : left.1 < key := by simpa using (List.mem_filter.mp leftMember).2
      rcases List.mem_cons.mp rightMember with rfl | rightMember
      · exact below
      · exact below.trans (by simpa using (List.mem_filter.mp rightMember).2)

def remove (map : SortedMap Key Value) (key : Key) : SortedMap Key Value :=
  ⟨map.entries.filter (fun entry => entry.1 ≠ key), map.sorted.filter _⟩

def headMap (map : SortedMap Key Value) (key : Key) : SortedMap Key Value :=
  ⟨map.entries.filter (fun entry => entry.1 ≤ key), map.sorted.filter _⟩

def size (map : SortedMap Key Value) : ℕ := map.entries.length

def firstKey? (map : SortedMap Key Value) : Option Key := map.entries.head?.map Prod.fst

def values (map : SortedMap Key Value) : List Value := map.entries.map Prod.snd

def isEmpty (map : SortedMap Key Value) : Bool := map.entries.isEmpty

def keys (map : SortedMap Key Value) : Finset Key := (map.entries.map Prod.fst).toFinset

theorem mem_keys {map : SortedMap Key Value} {key : Key} :
    key ∈ map.keys ↔ ∃ value, (key, value) ∈ map.entries := by
  simp [keys]

theorem get?_eq_none {map : SortedMap Key Value} {key : Key} : map.get? key = none ↔ key ∉ map.keys := by
  rw [get?, Option.map_eq_none_iff, List.find?_eq_none, mem_keys, not_exists]
  simp only [decide_eq_true_eq]
  constructor
  · exact fun none value member => none _ member rfl
  · rintro absent ⟨_, value⟩ member rfl
    exact absent value member

theorem keys_nodup (map : SortedMap Key Value) : (map.entries.map Prod.fst).Nodup :=
  List.pairwise_map.mpr (map.sorted.imp fun below => ne_of_lt below)

theorem size_eq_card (map : SortedMap Key Value) : map.size = map.keys.card := by
  rw [keys, List.toFinset_card_of_nodup map.keys_nodup, List.length_map, size]

@[simp] theorem keys_empty : (empty : SortedMap Key Value).keys = ∅ := rfl

@[simp] theorem keys_put (map : SortedMap Key Value) (key : Key) (value : Value) :
    (map.put key value).keys = insert key map.keys := by
  ext other
  simp only [keys, put, List.map_append, List.map_cons, List.toFinset_append, List.toFinset_cons,
    Finset.mem_union, Finset.mem_insert, List.mem_toFinset, List.mem_map, List.mem_filter,
    decide_eq_true_eq]
  constructor
  · rintro (⟨entry, ⟨member, _⟩, rfl⟩ | rfl | ⟨entry, ⟨member, _⟩, rfl⟩)
    · exact Or.inr ⟨entry, member, rfl⟩
    · exact Or.inl rfl
    · exact Or.inr ⟨entry, member, rfl⟩
  · rintro (rfl | ⟨entry, member, rfl⟩)
    · exact Or.inr (Or.inl rfl)
    · rcases lt_trichotomy entry.1 key with below | rfl | above
      · exact Or.inl ⟨entry, ⟨member, below⟩, rfl⟩
      · exact Or.inr (Or.inl rfl)
      · exact Or.inr (Or.inr ⟨entry, ⟨member, above⟩, rfl⟩)

@[simp] theorem keys_remove (map : SortedMap Key Value) (key : Key) :
    (map.remove key).keys = map.keys.erase key := by
  ext other
  simp only [mem_keys, remove, List.mem_filter, Finset.mem_erase, decide_eq_true_eq]
  constructor
  · rintro ⟨value, member, different⟩
    exact ⟨different, value, member⟩
  · rintro ⟨different, value, member⟩
    exact ⟨value, member, different⟩

@[simp] theorem keys_headMap (map : SortedMap Key Value) (key : Key) :
    (map.headMap key).keys = map.keys.filter (· ≤ key) := by
  ext other
  simp only [mem_keys, headMap, List.mem_filter, Finset.mem_filter, decide_eq_true_eq]
  constructor
  · rintro ⟨value, member, bound⟩
    exact ⟨⟨value, member⟩, bound⟩
  · rintro ⟨⟨value, member⟩, bound⟩
    exact ⟨value, member, bound⟩

theorem isEmpty_iff (map : SortedMap Key Value) : map.isEmpty = true ↔ map.keys = ∅ := by
  rw [isEmpty, List.isEmpty_iff, keys, List.toFinset_eq_empty_iff, List.map_eq_nil_iff]

theorem values_length (map : SortedMap Key Value) : map.values.length = map.size := List.length_map _

/-- A map has a first key unless it is empty, and the first key is one of its keys. -/
theorem firstKey?_some {map : SortedMap Key Value} {key : Key} (first : map.firstKey? = some key) :
    key ∈ map.keys := by
  unfold firstKey? at first
  obtain ⟨entry, head, rfl⟩ := Option.map_eq_some_iff.mp first
  exact mem_keys.mpr ⟨entry.2, List.mem_of_mem_head? head⟩

theorem firstKey?_none {map : SortedMap Key Value} : map.firstKey? = none ↔ map.keys = ∅ := by
  rw [firstKey?, Option.map_eq_none_iff, List.head?_eq_none_iff, keys, List.toFinset_eq_empty_iff,
    List.map_eq_nil_iff]

end SortedMap

end Systems
