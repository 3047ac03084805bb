import Mathlib.Data.List.Induction
import Mathlib.Data.List.Nodup

namespace Systems

/-- Maps of maps. The latest entry of a map with a key is the one that counts. -/
inductive Document (Key Value : Type) where
  | value (value : Value)
  | map (entries : List (Key × Document Key Value))

section

variable {Key Content : Type} [DecidableEq Key]

theorem lookup_put (entries : List (Key × Content)) (key other : Key) (child : Content) :
    ((key, child) :: entries).lookup other = if other = key then some child else entries.lookup other := by
  rw [List.lookup_cons]
  by_cases same : other = key
  · rw [if_pos same, same, beq_self_eq_true]
  · rw [if_neg same, beq_false_of_ne same]

theorem lookup_of_nodup {Key : Type} [BEq Key] [LawfulBEq Key] {entries : List (Key × Content)}
    (distinct : (entries.map Prod.fst).Nodup) {key : Key} {content : Content} (listed : (key, content) ∈ entries) :
    entries.lookup key = some content := by
  induction entries with
  | nil => cases listed
  | cons entry entries ih =>
    obtain ⟨first, firstContent⟩ := entry
    rw [List.map_cons, List.nodup_cons] at distinct
    rw [List.lookup_cons]
    rcases List.mem_cons.mp listed with same | later
    · cases same
      rw [beq_self_eq_true]
    · have other : key ≠ first := by
        rintro rfl
        exact distinct.1 (List.mem_map.mpr ⟨_, later, rfl⟩)
      rw [beq_false_of_ne other]
      exact ih distinct.2 later

end

namespace Document

variable {Key Value : Type} [DecidableEq Key]

def empty : Document Key Value := .map []

/-- Follows all but the last key, with new maps where there are none, and puts the content under the last
    one. It fails where it meets a value. -/
def putAt (content : Document Key Value) : List Key → Document Key Value → Option (Document Key Value)
  | [], document => some document
  | [key], .map entries => some (.map ((key, content) :: entries))
  | key :: next :: path, .map entries =>
    (putAt content (next :: path) ((entries.lookup key).getD empty)).map fun child => .map ((key, child) :: entries)
  | _ :: _, .value _ => none

def find : List Key → Document Key Value → Option (Document Key Value)
  | [], document => some document
  | key :: path, .map entries => (entries.lookup key).bind (find path)
  | _ :: _, .value _ => none

def Uniform : ℕ → Document Key Value → Prop
  | 0, _ => True
  | depth + 1, document => ∃ entries, document = .map entries ∧
      ∀ key child, entries.lookup key = some child → child.Uniform depth

variable {content document after : Document Key Value} {path : List Key}

theorem uniform_empty (depth : ℕ) : (empty : Document Key Value).Uniform depth := by
  cases depth with
  | zero => trivial
  | succ depth => exact ⟨[], rfl, nofun⟩

theorem uniform_lookup {entries : List (Key × Document Key Value)} {depth : ℕ}
    (uniform : (Document.map entries).Uniform (depth + 1)) (key : Key) :
    ((entries.lookup key).getD empty).Uniform depth := by
  obtain ⟨_, same, children⟩ := uniform
  cases same
  cases found : entries.lookup key with
  | none => exact uniform_empty depth
  | some child => exact children key child found

theorem uniform_put {entries : List (Key × Document Key Value)} {depth : ℕ} {child : Document Key Value}
    (uniform : (Document.map entries).Uniform (depth + 1)) (childUniform : child.Uniform depth) (key : Key) :
    (Document.map ((key, child) :: entries)).Uniform (depth + 1) := by
  obtain ⟨_, same, children⟩ := uniform
  cases same
  refine ⟨_, rfl, fun other found lookup => ?_⟩
  rw [lookup_put] at lookup
  split at lookup
  · cases lookup
    exact childUniform
  · exact children other found lookup

/-- A path of the depth of a uniform document can be put, and is found there, with all others as before. -/
theorem putAt_uniform (content : Document Key Value) {path : List Key} {document : Document Key Value}
    (uniform : document.Uniform path.length) (some_ : path ≠ []) :
    ∃ after, putAt content path document = some after ∧ after.Uniform path.length ∧
      ∀ other : List Key, other.length = path.length →
        find other after = if other = path then some content else find other document := by
  induction path generalizing document with
  | nil => exact absurd rfl some_
  | cons key path ih =>
    obtain ⟨entries, rfl, children⟩ := id uniform
    have lookups (child : Document Key Value) (changed : ∀ rest : List Key, rest.length = path.length →
        find rest child = if rest = path then some content else (entries.lookup key).bind (find rest))
        (other : List Key) (length : other.length = (key :: path).length) :
        find other (.map ((key, child) :: entries)) =
          if other = key :: path then some content else find other (.map entries) := by
      match other with
      | otherKey :: rest =>
        have shorter : rest.length = path.length := Nat.succ.inj length
        rw [find, find, lookup_put]
        by_cases same : otherKey = key
        · rw [if_pos same, same, Option.bind_some, changed rest shorter]
          simp
        · rw [if_neg same, if_neg fun equal => same (List.cons.inj equal).1]
    cases path with
    | nil =>
      refine ⟨_, rfl, uniform_put uniform trivial key, lookups content fun rest length => ?_⟩
      rw [List.eq_nil_of_length_eq_zero length, if_pos rfl]
      rfl
    | cons next path =>
      obtain ⟨child, put, childUniform, found⟩ := ih (uniform_lookup uniform key) (List.cons_ne_nil _ _)
      refine ⟨_, by rw [putAt, put, Option.map_some], uniform_put uniform childUniform key, lookups child ?_⟩
      intro rest length
      rw [found rest length]
      cases entries.lookup key with
      | none =>
        match rest with
        | first :: rest => rfl
      | some before => rfl

theorem find_empty (some_ : path ≠ []) : find path (empty : Document Key Value) = none := by
  match path with
  | key :: path => rfl

/-- Contents that are put at different paths of one depth are all found, and nothing else is. -/
theorem foldlM_putAt {depth : ℕ} (positive : depth ≠ 0) (contents : List (List Key × Document Key Value))
    (deep : ∀ content ∈ contents, content.1.length = depth) (distinct : (contents.map Prod.fst).Nodup) :
    ∃ after, contents.foldlM (fun document content => putAt content.2 content.1 document) empty = some after ∧
      after.Uniform depth ∧
      ∀ path content, path.length = depth → (find path after = some content ↔ (path, content) ∈ contents) := by
  induction contents using List.reverseRecOn with
  | nil =>
    refine ⟨empty, rfl, uniform_empty depth, fun path content length => ?_⟩
    rw [find_empty fun nothing => positive (length.symm.trans (congrArg List.length nothing))]
    simp
  | append_singleton contents last ih =>
    rw [List.map_append, List.nodup_append'] at distinct
    have earlier := fun content listed => deep content (List.mem_append_left _ listed)
    have length := deep last (List.mem_append_right _ List.mem_cons_self)
    obtain ⟨before, folded, uniform, found⟩ := ih earlier distinct.1
    have asDeep : before.Uniform last.1.length := length.symm ▸ uniform
    obtain ⟨after, put, afterUniform, changed⟩ := putAt_uniform last.2 asDeep fun nothing =>
      positive (length.symm.trans (congrArg List.length nothing))
    refine ⟨after, by simp [List.foldlM_append, folded, put], length ▸ afterUniform, fun path content same => ?_⟩
    rw [changed path (same.trans length.symm), List.mem_append, List.mem_singleton]
    split
    · rename_i here
      have new : (path, content) ∉ contents := fun listed =>
        distinct.2.2 (List.mem_map_of_mem listed) (List.mem_singleton.mpr here)
      rw [or_iff_right new, Option.some.injEq, Prod.ext_iff]
      exact ⟨fun equal => ⟨here, equal.symm⟩, fun equal => equal.2.symm⟩
    · rename_i elsewhere
      rw [found path content same]
      refine (or_iff_left fun equal => elsewhere ?_).symm
      rw [← equal]

end Document

end Systems
