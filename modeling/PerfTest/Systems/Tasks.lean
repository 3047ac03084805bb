import Mathlib.Data.List.Nodup
import Mathlib.Data.List.Perm.Subperm

namespace Systems

variable {Task Token : Type*}

def replace (tasks : List Task) (index : ℕ) (successors : List Task) : List Task :=
  tasks.take index ++ successors ++ tasks.drop (index + 1)

variable {tasks successors : List Task} {index : ℕ} {task : Task}

theorem mem_replace (member : task ∈ replace tasks index successors) : task ∈ tasks ∨ task ∈ successors := by
  rcases List.mem_append.mp member with front | later
  · rcases List.mem_append.mp front with earlier | new
    · exact .inl (List.mem_of_mem_take earlier)
    · exact .inr new
  · exact .inl (List.mem_of_mem_drop later)

theorem split_at (found : tasks[index]? = some task) :
    tasks = tasks.take index ++ task :: tasks.drop (index + 1) := by
  obtain ⟨bound, rfl⟩ := List.getElem?_eq_some_iff.mp found
  rw [← List.drop_eq_getElem_cons bound, List.take_append_drop]

/-- The tokens that the tasks hold, when a step hands some of those of its task to its successors and
    releases others. -/
theorem held_replace {held : Task → List Token} {released : List Token} (found : tasks[index]? = some task)
    (handed : (successors.flatMap held ++ released).Subperm (held task)) :
    ((replace tasks index successors).flatMap held ++ released).Subperm (tasks.flatMap held) := by
  have before : tasks.flatMap held =
      (tasks.take index).flatMap held ++ (held task ++ (tasks.drop (index + 1)).flatMap held) := by
    rw [← List.flatMap_cons, ← List.flatMap_append, ← split_at found]
  have moved : ((replace tasks index successors).flatMap held ++ released).Perm
      ((tasks.take index).flatMap held ++
        (successors.flatMap held ++ released ++ (tasks.drop (index + 1)).flatMap held)) := by
    rw [replace, List.flatMap_append, List.flatMap_append]
    simp only [List.append_assoc]
    exact .append_left _ (.append_left _ List.perm_append_comm)
  rw [before]
  refine moved.subperm.trans ((List.Subperm.refl _).append ?_)
  exact handed.append (List.Subperm.refl _)

end Systems
