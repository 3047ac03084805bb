import Mathlib.Data.List.Induction
import Mathlib.Data.List.Nodup

namespace Systems

section FirstOccurrences

variable {Key : Type*} [DecidableEq Key]

theorem eraseDups_snoc (keys : List Key) (key : Key) :
    (keys ++ [key]).eraseDups = if key ∈ keys then keys.eraseDups else keys.eraseDups ++ [key] := by
  rw [List.eraseDups_append, List.cons_removeAll]
  by_cases known : key ∈ keys
  · rw [if_pos known, if_neg (by simpa using known), List.nil_removeAll, List.eraseDups_nil, List.append_nil]
  · rw [if_neg known, if_pos (by simpa using known), List.nil_removeAll]
    rfl

theorem eraseDups_append_eraseDups (before after : List Key) :
    (before ++ after.eraseDups).eraseDups = (before ++ after).eraseDups := by
  induction after using List.reverseRecOn with
  | nil => rfl
  | append_singleton after key ih =>
    rw [eraseDups_snoc, ← List.append_assoc, eraseDups_snoc]
    by_cases again : key ∈ after
    · rw [if_pos again, if_pos (List.mem_append_right before again), ih]
    · rw [if_neg again, ← List.append_assoc, eraseDups_snoc, ih]
      simp only [List.mem_append, List.mem_eraseDups]

theorem eraseDups_of_nodup {keys : List Key} (distinct : keys.Nodup) : keys.eraseDups = keys := by
  induction keys using List.reverseRecOn with
  | nil => rfl
  | append_singleton keys key ih =>
    obtain ⟨before, -, apart⟩ := List.nodup_append.mp distinct
    have fresh : key ∉ keys := fun known => apart key known key (List.mem_singleton_self key) rfl
    rw [eraseDups_snoc, if_neg fresh, ih before]

end FirstOccurrences

structure LinkedMap (Key Value : Type*) where
  entries : List (Key × Value)
  distinct : (entries.map Prod.fst).Nodup
  deriving DecidableEq

namespace LinkedMap

variable {Key Value : Type*}

def empty : LinkedMap Key Value := ⟨[], List.nodup_nil⟩

def keys (map : LinkedMap Key Value) : List Key := map.entries.map Prod.fst

variable [DecidableEq Key]

def lastValue (entries : List (Key × Value)) (key : Key) : Option Value :=
  (entries.reverse.find? fun entry => entry.1 = key).map Prod.snd

def get? (map : LinkedMap Key Value) (key : Key) : Option Value :=
  (map.entries.find? fun entry => entry.1 = key).map Prod.snd

theorem keys_replaced (entries : List (Key × Value)) (key : Key) (value : Value) :
    (entries.map fun entry => if entry.1 = key then (key, value) else entry).map Prod.fst = entries.map Prod.fst := by
  rw [List.map_map]
  refine List.map_congr_left fun entry _ => ?_
  by_cases same : entry.1 = key
  · exact (congrArg Prod.fst (if_pos same)).trans same.symm
  · exact congrArg Prod.fst (if_neg same)

def put (map : LinkedMap Key Value) (key : Key) (value : Value) : LinkedMap Key Value :=
  if known : key ∈ map.keys then
    ⟨map.entries.map fun entry => if entry.1 = key then (key, value) else entry,
      (keys_replaced map.entries key value).symm ▸ map.distinct⟩
  else
    ⟨map.entries ++ [(key, value)], by
      rw [List.map_append]
      exact map.distinct.append (List.nodup_singleton key) (List.disjoint_singleton.mpr known)⟩

def putEntries (map : LinkedMap Key Value) (entries : List (Key × Value)) : LinkedMap Key Value :=
  entries.foldl (fun map entry => map.put entry.1 entry.2) map

def putAll (map other : LinkedMap Key Value) : LinkedMap Key Value := map.putEntries other.entries

def remove (map : LinkedMap Key Value) (key : Key) : LinkedMap Key Value :=
  ⟨map.entries.filter fun entry => entry.1 ≠ key, (List.filter_sublist.map Prod.fst).nodup map.distinct⟩

variable {map other : LinkedMap Key Value} {key another : Key} {value : Value}

theorem get?_none : map.get? key = none ↔ key ∉ map.keys := by
  unfold get? keys
  rw [Option.map_eq_none_iff, List.find?_eq_none]
  constructor
  · intro absent known
    obtain ⟨entry, inside, same⟩ := List.mem_map.mp known
    exact absent entry inside (decide_eq_true same)
  · intro absent entry inside same
    exact absent (List.mem_map.mpr ⟨entry, inside, of_decide_eq_true same⟩)

@[simp]
theorem keys_put (map : LinkedMap Key Value) (key : Key) (value : Value) :
    (map.put key value).keys = if key ∈ map.keys then map.keys else map.keys ++ [key] := by
  unfold put
  by_cases known : key ∈ map.keys
  · rw [dif_pos known, if_pos known]
    exact keys_replaced map.entries key value
  · rw [dif_neg known, if_neg known]
    exact List.map_append

theorem find?_replaced (entries : List (Key × Value)) (key another : Key) (value : Value) :
    (entries.map fun entry => if entry.1 = key then (key, value) else entry).find? (fun entry => entry.1 = another) =
      (entries.find? fun entry => entry.1 = another).map
        fun entry => if another = key then (key, value) else entry := by
  induction entries with
  | nil => rfl
  | cons entry entries ih =>
    rw [List.map_cons, List.find?_cons, List.find?_cons, ih]
    by_cases found : entry.1 = another
    · subst found
      by_cases same : entry.1 = key
      · simp [same]
      · simp [same]
    · by_cases same : entry.1 = key
      · simp [same, same ▸ found]
      · simp [found, same]

@[simp]
theorem get?_put_self (map : LinkedMap Key Value) (key : Key) (value : Value) :
    (map.put key value).get? key = some value := by
  unfold put
  by_cases known : key ∈ map.keys
  · rw [dif_pos known]
    have present : map.get? key ≠ none := fun absent => get?_none.mp absent known
    unfold get? at present ⊢
    rw [find?_replaced]
    cases found : map.entries.find? fun entry => entry.1 = key with
    | none => exact absurd (congrArg (Option.map Prod.snd) found) present
    | some entry => simp
  · rw [dif_neg known]
    have absent : map.entries.find? (fun entry => entry.1 = key) = none :=
      Option.map_eq_none_iff.mp (get?_none.mpr known)
    unfold get?
    rw [List.find?_append, absent, Option.none_or]
    simp

theorem get?_put_of_ne (different : another ≠ key) : (map.put key value).get? another = map.get? another := by
  unfold put
  by_cases known : key ∈ map.keys
  · rw [dif_pos known]
    unfold get?
    rw [find?_replaced, Option.map_map]
    simp only [if_neg different, Function.comp_def]
  · rw [dif_neg known]
    unfold get?
    rw [List.find?_append, List.find?_cons_of_neg (by simpa using different.symm), List.find?_nil, Option.or_none]

@[simp]
theorem get?_remove_self (map : LinkedMap Key Value) (key : Key) : (map.remove key).get? key = none := by
  unfold get? remove
  rw [Option.map_eq_none_iff, List.find?_eq_none]
  intro entry inside same
  exact of_decide_eq_true (List.mem_filter.mp inside).2 (of_decide_eq_true same)

theorem get?_remove_of_ne (different : another ≠ key) : (map.remove key).get? another = map.get? another := by
  unfold get? remove
  dsimp only
  induction map.entries with
  | nil => rfl
  | cons entry entries ih =>
    by_cases removed : entry.1 = key
    · rw [List.filter_cons_of_neg (by simpa using removed),
        List.find?_cons_of_neg (by simpa using fun same => different (same.symm.trans removed)), ih]
    · rw [List.filter_cons_of_pos (by simpa using removed)]
      by_cases found : entry.1 = another
      · rw [List.find?_cons_of_pos (by simpa using found), List.find?_cons_of_pos (by simpa using found)]
      · rw [List.find?_cons_of_neg (by simpa using found), List.find?_cons_of_neg (by simpa using found), ih]

theorem eq_of_keys_of_get? (sameKeys : map.keys = other.keys) (sameValues : ∀ key, map.get? key = other.get? key) :
    map = other := by
  obtain ⟨entries, distinct⟩ := map
  obtain ⟨others, distinct'⟩ := other
  unfold keys at sameKeys
  unfold get? at sameValues
  dsimp only at sameKeys sameValues
  rw [LinkedMap.mk.injEq]
  induction entries generalizing others with
  | nil => exact (List.map_eq_nil_iff.mp sameKeys.symm).symm
  | cons entry entries ih =>
    cases others with
    | nil => cases sameKeys
    | cons entry' others =>
      obtain ⟨sameKey, sameRest⟩ := List.cons.inj sameKeys
      rw [List.map_cons, List.nodup_cons] at distinct distinct'
      have values := sameValues entry.1
      rw [List.find?_cons_of_pos (by simp), List.find?_cons_of_pos (by simpa using sameKey.symm)] at values
      have same : entry = entry' := Prod.ext sameKey (Option.some.inj values)
      subst same
      refine congrArg (entry :: ·) (ih distinct.2 others distinct'.2 sameRest fun key => ?_)
      by_cases first : entry.1 = key
      · subst first
        have absent : ∀ rest : List (Key × Value), entry.1 ∉ rest.map Prod.fst →
            rest.find? (fun other => other.1 = entry.1) = none := by
          intro rest fresh
          rw [List.find?_eq_none]
          intro other inside equal
          exact fresh (List.mem_map.mpr ⟨other, inside, of_decide_eq_true equal⟩)
        rw [absent _ distinct.1, absent _ distinct'.1]
      · have both := sameValues key
        rwa [List.find?_cons_of_neg (by simpa using first), List.find?_cons_of_neg (by simpa using first)] at both

theorem keys_putEntries (map : LinkedMap Key Value) (entries : List (Key × Value)) :
    (map.putEntries entries).keys = (map.keys ++ entries.map Prod.fst).eraseDups := by
  induction entries using List.reverseRecOn with
  | nil =>
    rw [List.map_nil, List.append_nil]
    exact (eraseDups_of_nodup map.distinct).symm
  | append_singleton entries entry ih =>
    have step : map.putEntries (entries ++ [entry]) = (map.putEntries entries).put entry.1 entry.2 := List.foldl_append
    have known : entry.1 ∈ (map.putEntries entries).keys ↔ entry.1 ∈ map.keys ++ entries.map Prod.fst := by
      rw [ih, List.mem_eraseDups]
    rw [step, keys_put, List.map_append, ← List.append_assoc, List.map_singleton, eraseDups_snoc, ih]
    simp only [List.mem_eraseDups]

theorem get?_putEntries (map : LinkedMap Key Value) (entries : List (Key × Value)) (key : Key) :
    (map.putEntries entries).get? key = (lastValue entries key).or (map.get? key) := by
  induction entries using List.reverseRecOn with
  | nil => rfl
  | append_singleton entries entry ih =>
    have step : map.putEntries (entries ++ [entry]) = (map.putEntries entries).put entry.1 entry.2 := List.foldl_append
    unfold lastValue
    rw [step, List.reverse_append, List.reverse_singleton, List.singleton_append]
    by_cases same : entry.1 = key
    · subst same
      rw [get?_put_self, List.find?_cons_of_pos (by simp)]
      rfl
    · rw [get?_put_of_ne (Ne.symm same), ih, List.find?_cons_of_neg (by simpa using same)]
      rfl

theorem lastValue_map {Other : Type*} (f : Key → Value → Other) (entries : List (Key × Value)) (key : Key) :
    lastValue (entries.map fun entry => (entry.1, f entry.1 entry.2)) key = (lastValue entries key).map (f key) := by
  unfold lastValue
  rw [← List.map_reverse]
  induction entries.reverse with
  | nil => rfl
  | cons entry entries ih =>
    rw [List.map_cons]
    by_cases same : entry.1 = key
    · subst same
      rw [List.find?_cons_of_pos (by simp), List.find?_cons_of_pos (by simp)]
      rfl
    · rw [List.find?_cons_of_neg (by simpa using same), List.find?_cons_of_neg (by simpa using same), ih]

theorem putEntries_entries (map : LinkedMap Key Value) : empty.putEntries map.entries = map := by
  obtain ⟨entries, distinct⟩ := map
  induction entries using List.reverseRecOn with
  | nil => rfl
  | append_singleton entries entry ih =>
    have apart := distinct
    rw [List.map_append, List.nodup_append] at apart
    obtain ⟨before, -, fresh⟩ := apart
    have absent : entry.1 ∉ (⟨entries, before⟩ : LinkedMap Key Value).keys := fun known =>
      fresh _ known _ (List.mem_singleton_self entry.1) rfl
    have step : empty.putEntries (entries ++ [entry]) = (empty.putEntries entries).put entry.1 entry.2 :=
      List.foldl_append
    rw [step, ih before]
    unfold put
    rw [dif_neg absent]

theorem lastValue_entries (map : LinkedMap Key Value) (key : Key) : lastValue map.entries key = map.get? key := by
  have put := get?_putEntries empty map.entries key
  rw [putEntries_entries] at put
  rw [put]
  exact Option.or_none.symm

/-- A map that has been made of entries can be put at once, or its entries one after the other. -/
theorem putAll_putEntries (map : LinkedMap Key Value) (entries : List (Key × Value)) :
    map.putAll (empty.putEntries entries) = map.putEntries entries := by
  have keysOfEntries : (empty.putEntries entries).keys = (entries.map Prod.fst).eraseDups :=
    keys_putEntries empty entries
  unfold putAll
  refine eq_of_keys_of_get? ?_ fun key => ?_
  · rw [keys_putEntries, keys_putEntries]
    exact (congrArg (fun keys => (map.keys ++ keys).eraseDups) keysOfEntries).trans
      (eraseDups_append_eraseDups map.keys (entries.map Prod.fst))
  · rw [get?_putEntries, get?_putEntries, lastValue_entries, get?_putEntries]
    exact congrArg (Option.or · (map.get? key)) Option.or_none

theorem putEntries_append (map : LinkedMap Key Value) (entries others : List (Key × Value)) :
    map.putEntries (entries ++ others) = (map.putEntries entries).putEntries others := List.foldl_append

end LinkedMap

end Systems
