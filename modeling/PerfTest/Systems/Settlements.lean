import Mathlib.Data.List.Induction
import Mathlib.Data.List.Perm.Basic
import Mathlib.Order.Lattice

namespace Systems

inductive Movement (Tag : Type*) where
  | delivered (tag : Tag)
  | settled (tag : Tag) (multiple : Bool)
  deriving DecidableEq, Repr

def Movement.deliveredTag {Tag : Type*} : Movement Tag → Option Tag
  | .delivered tag => some tag
  | .settled .. => none

structure Settlements (Tag : Type*) where
  unsettled : List Tag
  settled : List Tag
  failed : Bool
  deriving DecidableEq, Repr

namespace Settlements

variable {Tag : Type*} [LinearOrder Tag]

def isCovered (tag : Tag) (multiple : Bool) (other : Tag) : Bool :=
  if multiple then other ≤ tag else other = tag

def covers (account : Settlements Tag) (tag : Tag) (multiple : Bool) : List Tag :=
  account.unsettled.filter (isCovered tag multiple)

def record (account : Settlements Tag) : Movement Tag → Settlements Tag
  | .delivered tag => { account with unsettled := account.unsettled ++ [tag] }
  | .settled tag multiple =>
    { unsettled := account.unsettled.filter fun other => !isCovered tag multiple other
      settled := account.settled ++ account.covers tag multiple
      failed := account.failed || (account.covers tag multiple).isEmpty }

def ofMovements (movements : List (Movement Tag)) : Settlements Tag := movements.foldl record ⟨[], [], false⟩

structure SettledOnce (movements : List (Movement Tag)) : Prop where
  once : (ofMovements movements).settled.Nodup
  covers : (ofMovements movements).failed = false

@[simp] theorem ofMovements_nil : ofMovements ([] : List (Movement Tag)) = ⟨[], [], false⟩ := rfl

@[simp] theorem ofMovements_append (first second : List (Movement Tag)) :
    ofMovements (first ++ second) = second.foldl record (ofMovements first) := List.foldl_append

@[simp] theorem covers_self {tag : Tag} {multiple : Bool} : isCovered tag multiple tag = true := by
  cases multiple <;> simp [isCovered]

@[simp] theorem isCovered_multiple {tag other : Tag} : isCovered tag true other = true ↔ other ≤ tag := by
  simp [isCovered]

@[simp] theorem isCovered_single {tag other : Tag} : isCovered tag false other = true ↔ other = tag := by
  simp [isCovered]

theorem covers_of_mem {account : Settlements Tag} {tag : Tag} (multiple : Bool)
    (owed : tag ∈ account.unsettled) : account.covers tag multiple ≠ [] := by
  apply List.ne_nil_of_mem
  exact List.mem_filter.mpr ⟨owed, covers_self⟩

theorem covers_eq_nil {account : Settlements Tag} {tag : Tag} (above : ∀ other ∈ account.unsettled, tag < other) :
    account.covers tag true = [] := by
  apply List.filter_eq_nil_iff.mpr
  intro other member covered
  exact absurd (isCovered_multiple.mp covered) (not_le_of_gt (above other member))

theorem mem_record_settled {account : Settlements Tag} {tag other : Tag} {multiple : Bool} :
    other ∈ (account.record (.settled tag multiple)).unsettled ↔
      other ∈ account.unsettled ∧ isCovered tag multiple other = false := by
  simp [record, List.mem_filter]

theorem record_multiple_above {account : Settlements Tag} {tag other : Tag}
    (owed : other ∈ (account.record (.settled tag true)).unsettled) : tag < other := by
  have apart := (mem_record_settled.mp owed).2
  apply lt_of_not_ge
  intro below
  rw [isCovered_multiple.mpr below] at apart
  cases apart

/-- A frame moves what it covers from what is owed to what is settled. -/
theorem record_perm (account : Settlements Tag) (movement : Movement Tag) :
    ((account.record movement).settled ++ (account.record movement).unsettled).Perm
      (account.settled ++ account.unsettled ++ movement.deliveredTag.toList) := by
  cases movement with
  | delivered tag =>
    show (account.settled ++ (account.unsettled ++ [tag])).Perm _
    rw [← List.append_assoc]
    exact .refl _
  | settled tag multiple =>
    show (account.settled ++ account.covers tag multiple ++
      account.unsettled.filter fun other => !isCovered tag multiple other).Perm
        (account.settled ++ account.unsettled ++ [])
    rw [List.append_nil, List.append_assoc]
    apply List.Perm.append_left
    exact List.filter_append_perm (isCovered tag multiple) account.unsettled

theorem ofMovements_perm (movements : List (Movement Tag)) :
    ((ofMovements movements).settled ++ (ofMovements movements).unsettled).Perm
      (movements.filterMap Movement.deliveredTag) := by
  induction movements using List.reverseRecOn with
  | nil => exact .refl _
  | append_singleton movements movement ih =>
    rw [ofMovements_append, List.foldl_cons, List.foldl_nil, List.filterMap_append]
    apply (record_perm _ movement).trans
    have last : [movement].filterMap Movement.deliveredTag = movement.deliveredTag.toList := by
      cases movement <;> rfl
    rw [last]
    exact ih.append_right _

theorem settled_nodup {movements : List (Movement Tag)}
    (distinct : (movements.filterMap Movement.deliveredTag).Nodup) :
    (ofMovements movements).settled.Nodup := by
  have all := (ofMovements_perm movements).nodup_iff.mpr distinct
  exact (List.nodup_append.mp all).1

end Settlements

end Systems
