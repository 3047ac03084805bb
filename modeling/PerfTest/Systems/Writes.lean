import Mathlib.Logic.Function.Basic
import Mathlib.Data.List.Perm.Basic

namespace Systems

section

variable {State Entry : Type} {step : State → Entry → Option State} {entries others : List Entry}

theorem foldl_bind_none (entries : List Entry) :
    entries.foldl (fun reached entry => reached.bind (step · entry)) none = none := by
  induction entries with
  | nil => rfl
  | cons entry entries ih => exact ih

theorem foldlM_eq_foldl (entries : List Entry) (state : State) :
    entries.foldlM step state = entries.foldl (fun reached entry => reached.bind (step · entry)) (some state) := by
  induction entries generalizing state with
  | nil => rfl
  | cons entry entries ih =>
    rw [List.foldlM_cons, List.foldl_cons, Option.bind_some]
    cases next : step state entry with
    | none => exact (foldl_bind_none entries).symm
    | some after => exact ih after

/-- Steps that commute may be taken in any order, also where some of them fail. -/
theorem foldlM_perm (same : entries.Perm others)
    (commute : ∀ first ∈ entries, ∀ second ∈ entries, ∀ state,
      (step state first).bind (step · second) = (step state second).bind (step · first)) (state : State) :
    entries.foldlM step state = others.foldlM step state := by
  rw [foldlM_eq_foldl, foldlM_eq_foldl]
  refine same.foldl_eq' (fun first inFirst second inSecond reached => ?_) _
  cases reached with
  | none => rfl
  | some state => exact (commute second inSecond first inFirst state).symm

end

section

variable {Key Value Entry : Type} [DecidableEq Key] {map other : Key → Option Value}

def write (map : Key → Option Value) (written : Key × Value) : Key → Option Value :=
  Function.update map written.1 (some written.2)

def writeAll (map : Key → Option Value) (writes : List (Key × Value)) : Key → Option Value := writes.foldl write map

theorem writeAll_unwritten {writes : List (Key × Value)} {key : Key} (unwritten : ∀ written ∈ writes, written.1 ≠ key) :
    writeAll map writes key = map key := by
  induction writes generalizing map with
  | nil => rfl
  | cons written writes ih =>
    rw [List.forall_mem_cons] at unwritten
    rw [writeAll, List.foldl_cons]
    exact (ih unwritten.2).trans (Function.update_of_ne unwritten.1.symm _ _)

/-- What there is under a key depends only on what there was under it. -/
theorem writeAll_congr {writes : List (Key × Value)} {key : Key} (same : map key = other key) :
    writeAll map writes key = writeAll other writes key := by
  induction writes generalizing map other with
  | nil => exact same
  | cons written writes ih =>
    apply ih
    by_cases here : key = written.1
    · rw [here, write, write, Function.update_self, Function.update_self]
    · rw [write, write, Function.update_of_ne here, Function.update_of_ne here, same]

theorem writeAll_comm {first second : List (Key × Value)}
    (apart : ∀ written ∈ first, ∀ later ∈ second, written.1 ≠ later.1) (map : Key → Option Value) :
    writeAll (writeAll map first) second = writeAll (writeAll map second) first := by
  funext key
  by_cases inFirst : ∃ written ∈ first, written.1 = key
  · obtain ⟨written, listed, rfl⟩ := inFirst
    have notSecond : ∀ later ∈ second, later.1 ≠ written.1 := fun later inSecond =>
      (apart written listed later inSecond).symm
    rw [writeAll_unwritten notSecond]
    exact writeAll_congr (writeAll_unwritten notSecond).symm
  · have notFirst : ∀ written ∈ first, written.1 ≠ key := fun written listed same => inFirst ⟨written, listed, same⟩
    rw [writeAll_unwritten notFirst]
    exact writeAll_congr (writeAll_unwritten notFirst)

variable (effect : Entry → Option (List (Key × Value)))

def performWrites (map : Key → Option Value) (entry : Entry) : Option (Key → Option Value) :=
  (effect entry).map (writeAll map)

def Apart (first second : Entry) : Prop :=
  ∀ writes ∈ effect first, ∀ laterWrites ∈ effect second, ∀ written ∈ writes, ∀ later ∈ laterWrites,
    written.1 ≠ later.1

variable {effect} {entries others : List Entry}

theorem performWrites_comm {first second : Entry} (apart : Apart effect first second) (map : Key → Option Value) :
    (performWrites effect map first).bind (performWrites effect · second) =
      (performWrites effect map second).bind (performWrites effect · first) := by
  unfold performWrites
  cases writes : effect first with
  | none => cases effect second <;> rfl
  | some writes =>
    cases laterWrites : effect second with
    | none => rfl
    | some laterWrites => exact congrArg some (writeAll_comm (apart _ ‹_› _ ‹_›) map)

theorem performWrites_perm (same : entries.Perm others)
    (apart : ∀ first ∈ entries, ∀ second ∈ entries, first = second ∨ Apart effect first second)
    (map : Key → Option Value) :
    entries.foldlM (performWrites effect) map = others.foldlM (performWrites effect) map := by
  refine foldlM_perm same (fun first inFirst second inSecond map => ?_) map
  rcases apart first inFirst second inSecond with rfl | apart
  · rfl
  · exact performWrites_comm apart map

theorem performWrites_unwritten {key : Key} {after : Key → Option Value}
    (unwritten : ∀ entry ∈ entries, ∀ writes ∈ effect entry, ∀ written ∈ writes, written.1 ≠ key)
    (performed : entries.foldlM (performWrites effect) map = some after) : after key = map key := by
  induction entries generalizing map with
  | nil =>
    cases performed
    rfl
  | cons entry entries ih =>
    rw [List.forall_mem_cons] at unwritten
    rw [List.foldlM_cons] at performed
    obtain ⟨middle, first, later⟩ := Option.bind_eq_some_iff.mp performed
    obtain ⟨writes, said, rfl⟩ := Option.map_eq_some_iff.mp first
    rw [ih unwritten.2 later, writeAll_unwritten (unwritten.1 writes said)]

/-- Under a key that the others do not write, there is what there is when an entry is performed alone. -/
theorem performWrites_alone {before later : List Entry} {entry : Entry} {after : Key → Option Value}
    (performed : (before ++ entry :: later).foldlM (performWrites effect) map = some after) :
    ∃ alone, performWrites effect map entry = some alone ∧
      ∀ key, (∀ other ∈ before ++ later, ∀ writes ∈ effect other, ∀ written ∈ writes, written.1 ≠ key) →
        after key = alone key := by
  rw [List.foldlM_append] at performed
  obtain ⟨middle, first, rest⟩ := Option.bind_eq_some_iff.mp performed
  rw [List.foldlM_cons] at rest
  obtain ⟨next, own, rest⟩ := Option.bind_eq_some_iff.mp rest
  obtain ⟨writes, said, rfl⟩ := Option.map_eq_some_iff.mp own
  refine ⟨_, Option.map_eq_some_iff.mpr ⟨writes, said, rfl⟩, fun key unwritten => ?_⟩
  rw [List.forall_mem_append] at unwritten
  rw [performWrites_unwritten unwritten.2 rest]
  exact writeAll_congr (performWrites_unwritten unwritten.1 first)

end

end Systems
