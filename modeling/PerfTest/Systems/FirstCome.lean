import Mathlib.Data.List.Nodup
import Mathlib.Data.List.Pairwise

namespace Systems

structure Request (Resource Key : Type*) where
  resource : Resource
  key : Key

namespace FirstCome

variable {Resource Key : Type*} [DecidableEq Resource] [DecidableEq Key]
variable {requests earlier later : List (Request Resource Key)} {request : Request Resource Key} {key : Key}

def holder (requests : List (Request Resource Key)) (key : Key) : Option Resource :=
  (requests.find? fun request => request.key = key).map Request.resource

def Granted (requests : List (Request Resource Key)) (request : Request Resource Key) : Prop :=
  holder requests request.key = some request.resource

instance : Decidable (Granted requests request) := inferInstanceAs (Decidable (_ = _))

def returned (requests : List (Request Resource Key)) : List Resource :=
  (requests.filter fun request => ¬ Granted requests request).map Request.resource

structure Sound (requests : List (Request Resource Key)) : Prop where
  once : (returned requests).Nodup
  held : ∀ key resource, holder requests key = some resource → resource ∉ returned requests

omit [DecidableEq Resource] in
theorem holder_singleton (request : Request Resource Key) (key : Key) :
    holder [request] key = if request.key = key then some request.resource else none := by
  rw [holder, List.find?_singleton]
  split <;> simp_all

omit [DecidableEq Resource] in
theorem holder_append : holder (earlier ++ later) key = (holder earlier key).or (holder later key) := by
  rw [holder, List.find?_append, Option.map_or, holder, holder]

omit [DecidableEq Resource] in
theorem holder_append_of_some {resource : Resource} (held : holder earlier key = some resource)
    (later : List (Request Resource Key)) : holder (earlier ++ later) key = some resource := by
  rw [holder_append, held, Option.some_or]

omit [DecidableEq Resource] in
theorem holder_isSome (member : request ∈ requests) : (holder requests request.key).isSome = true := by
  rw [holder, Option.isSome_map, List.find?_isSome]
  exact ⟨request, member, decide_eq_true rfl⟩

omit [DecidableEq Resource] in
theorem exists_of_holder {resource : Resource} (held : holder requests key = some resource) :
    ∃ request ∈ requests, request.key = key ∧ request.resource = resource := by
  obtain ⟨request, found, rfl⟩ := Option.map_eq_some_iff.mp held
  have asked := List.find?_some found
  exact ⟨request, List.mem_of_find?_eq_some found, of_decide_eq_true asked, rfl⟩

omit [DecidableEq Resource] in
theorem granted_append (member : request ∈ earlier) :
    Granted (earlier ++ later) request ↔ Granted earlier request := by
  obtain ⟨resource, held⟩ := Option.isSome_iff_exists.mp (holder_isSome member)
  rw [Granted, Granted, holder_append_of_some held later, held]

theorem mem_returned {resource : Resource} :
    resource ∈ returned requests ↔
      ∃ request ∈ requests, ¬ Granted requests request ∧ request.resource = resource := by
  simp only [returned, List.mem_map, List.mem_filter, decide_eq_true_eq, and_assoc]

theorem returned_append :
    returned (earlier ++ later) = returned earlier ++
      (later.filter fun request => ¬ Granted (earlier ++ later) request).map Request.resource := by
  rw [returned, List.filter_append, List.map_append, returned]
  congr 2
  refine List.filter_congr fun request member => ?_
  rw [decide_eq_decide, granted_append member]

theorem returned_first (free : holder earlier request.key = none) :
    returned (earlier ++ [request]) = returned earlier := by
  have granted : Granted (earlier ++ [request]) request := by
    rw [Granted, holder_append, free, Option.none_or, holder_singleton, if_pos rfl]
  rw [returned_append, List.filter_singleton, decide_eq_false (not_not_intro granted)]
  exact List.append_nil _

theorem returned_later {resource : Resource} (held : holder earlier request.key = some resource) :
    returned (earlier ++ [request]) =
      if request.resource = resource then returned earlier else returned earlier ++ [request.resource] := by
  have granted : Granted (earlier ++ [request]) request ↔ request.resource = resource := by
    rw [Granted, holder_append_of_some held, Option.some_inj, eq_comm]
  rw [returned_append, List.filter_singleton]
  split
  · rename_i same
    rw [decide_eq_false (not_not_intro (granted.mpr same))]
    exact List.append_nil _
  · rename_i other
    rw [decide_eq_true (mt granted.mp other)]
    rfl

/-- A resource must not be returned unless it has made no other request. -/
theorem sound_iff :
    Sound requests ↔ requests.Pairwise fun first second =>
      first.resource = second.resource → Granted requests first ∧ Granted requests second := by
  constructor
  · intro sound
    refine List.pairwise_iff_forall_sublist.mpr fun {first second} both same => ?_
    have firstMember := both.subset List.mem_cons_self
    have secondMember := both.subset (List.mem_cons_of_mem _ List.mem_cons_self)
    by_cases firstGranted : Granted requests first <;> by_cases secondGranted : Granted requests second
    · exact ⟨firstGranted, secondGranted⟩
    · exact absurd (mem_returned.mpr ⟨second, secondMember, secondGranted, same.symm⟩)
        (sound.held first.key first.resource firstGranted)
    · exact absurd (mem_returned.mpr ⟨first, firstMember, firstGranted, same⟩)
        (sound.held second.key second.resource secondGranted)
    · have twice := (both.filter fun request => ¬ Granted requests request).map Request.resource
      rw [List.filter_eq_self.mpr (by simp [firstGranted, secondGranted])] at twice
      exact absurd same (List.pairwise_iff_forall_sublist.mp sound.once twice)
  · intro pairs
    refine ⟨List.pairwise_map.mpr ((pairs.filter _).imp_of_mem ?_), ?_⟩
    · intro first second firstMember _ served same
      exact of_decide_eq_true (List.mem_filter.mp firstMember).2 (served same).1
    · intro key resource held member
      obtain ⟨refused, refusedMember, notGranted, rfl⟩ := mem_returned.mp member
      obtain ⟨granted, grantedMember, rfl, same⟩ := exists_of_holder held
      rw [← same] at held
      have other : refused ≠ granted := fun equal => notGranted (equal ▸ held)
      have symmetric : Std.Symm fun first second : Request Resource Key =>
          first.resource = second.resource → Granted requests first ∧ Granted requests second :=
        ⟨fun _ _ served same => (served same.symm).symm⟩
      exact notGranted (pairs.forall refusedMember grantedMember other same.symm).1

theorem Sound.of_append (sound : Sound (earlier ++ later)) : Sound earlier := by
  rw [sound_iff] at sound ⊢
  refine (List.pairwise_append.mp sound).1.imp_of_mem ?_
  intro first second firstMember secondMember served same
  have both := served same
  rwa [granted_append firstMember, granted_append secondMember] at both

end FirstCome

end Systems
