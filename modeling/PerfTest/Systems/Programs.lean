import Mathlib.Data.List.Basic
import Mathlib.Order.Defs.Unbundled

namespace Systems

/-- A program that reads and changes a state, and either returns a value or throws. What it did to
    the state stays done when it throws. -/
def Program (State Failure Value : Type) := State → Except Failure Value × State

namespace Program

variable {State Part Failure Value Other Item : Type}

def andThen (program : Program State Failure Value) (next : Value → Program State Failure Other) :
    Program State Failure Other := fun state =>
  match program state with
  | (.ok value, after) => next value after
  | (.error failure, after) => (.error failure, after)

def handle (program : Program State Failure Value) (handler : Failure → Program State Failure Value) :
    Program State Failure Value := fun state =>
  match program state with
  | (.ok value, after) => (.ok value, after)
  | (.error failure, after) => handler failure after

instance : Monad (Program State Failure) where
  pure value := fun state => (.ok value, state)
  bind := andThen

instance : LawfulMonad (Program State Failure) := by
  have unchanged : ∀ {Value : Type} (program : Program State Failure Value), program.andThen pure = program :=
    fun program => funext fun state => by
      unfold andThen
      rcases program state with ⟨_ | _, _⟩ <;> rfl
  refine LawfulMonad.mk' _ unchanged (fun _ _ => rfl) fun program first second => funext fun state => ?_
  change ((program.andThen first).andThen second) state =
    program.andThen (fun value => (first value).andThen second) state
  unfold andThen
  rcases program state with ⟨_ | _, _⟩ <;> rfl

instance : MonadExceptOf Failure (Program State Failure) where
  throw failure := fun state => (.error failure, state)
  tryCatch := handle

instance : MonadStateOf State (Program State Failure) where
  get := fun state => (.ok state, state)
  set next := fun _ => (.ok ⟨⟩, next)
  modifyGet change := fun state => (.ok (change state).1, (change state).2)

/-- The resource is closed however the program ends. When the program has thrown, a failure to close is dropped. -/
def closing (program : Program State Failure Value) (close : Program State Failure Unit) :
    Program State Failure Value := do
  let value ← tryCatch program fun failure => do
    tryCatch close fun _ => pure ()
    throw failure
  close
  pure value

def within (read : State → Part) (write : Part → State → State) (program : Program Part Failure Value) :
    Program State Failure Value := fun state =>
  ((program (read state)).1, write (program (read state)).2 state)

/-- Started in this state, the program returns and the first assertion holds, or it throws and the
    second one does. -/
def ends (program : Program State Failure Value) (returned : Value → State → Prop)
    (thrown : Failure → State → Prop) (state : State) : Prop :=
  match program state with
  | (.ok value, after) => returned value after
  | (.error failure, after) => thrown failure after

variable {returned stronger : Value → State → Prop} {thrown : Failure → State → Prop} {state : State}

@[simp] theorem ends_pure (value : Value) :
    (pure value : Program State Failure Value).ends returned thrown state ↔ returned value state := Iff.rfl

@[simp] theorem ends_throw (failure : Failure) :
    (throw failure : Program State Failure Value).ends returned thrown state ↔ thrown failure state := Iff.rfl

@[simp] theorem ends_get {returned : State → State → Prop} :
    (get : Program State Failure State).ends returned thrown state ↔ returned state state := Iff.rfl

@[simp] theorem ends_set {returned : PUnit → State → Prop} (next : State) :
    (set next : Program State Failure PUnit).ends returned thrown state ↔ returned ⟨⟩ next := Iff.rfl

@[simp] theorem ends_modify {returned : PUnit → State → Prop} (change : State → State) :
    (modify change : Program State Failure PUnit).ends returned thrown state ↔
      returned ⟨⟩ (change state) := Iff.rfl

@[simp] theorem ends_bind {returned : Other → State → Prop} (program : Program State Failure Value)
    (next : Value → Program State Failure Other) :
    (program >>= next).ends returned thrown state ↔
      program.ends (fun value after => (next value).ends returned thrown after) thrown state := by
  change (program.andThen next).ends _ _ _ ↔ _
  unfold ends andThen
  rcases program state with ⟨_ | _, _⟩ <;> rfl

@[simp] theorem ends_tryCatch (program : Program State Failure Value)
    (handler : Failure → Program State Failure Value) :
    (tryCatch program handler).ends returned thrown state ↔
      program.ends returned (fun failure after => (handler failure).ends returned thrown after) state := by
  change (program.handle handler).ends _ _ _ ↔ _
  unfold ends handle
  rcases program state with ⟨_ | _, _⟩ <;> rfl

@[simp] theorem ends_closing (program : Program State Failure Value) (close : Program State Failure Unit) :
    (program.closing close).ends returned thrown state ↔
      program.ends (fun value after => close.ends (fun _ => returned value) thrown after)
        (fun failure after => close.ends (fun _ => thrown failure) (fun _ => thrown failure) after) state := by
  simp only [closing, ends_bind, ends_tryCatch, ends_pure, ends_throw]

@[simp] theorem ends_within {read : State → Part} {write : Part → State → State}
    (program : Program Part Failure Value) :
    (program.within read write).ends returned thrown state ↔
      program.ends (fun value part => returned value (write part state))
        (fun failure part => thrown failure (write part state)) (read state) := by
  unfold ends within
  rcases program (read state) with ⟨_ | _, _⟩ <;> rfl

@[simp] theorem ends_ite (condition : Prop) [Decidable condition]
    (first second : Program State Failure Value) :
    (if condition then first else second).ends returned thrown state ↔
      if condition then first.ends returned thrown state else second.ends returned thrown state := by
  split <;> rfl

theorem ends_mono {program : Program State Failure Value} {weaker : Value → State → Prop}
    {thrown' : Failure → State → Prop} (holds : program.ends returned thrown state)
    (onReturn : ∀ value after, returned value after → weaker value after)
    (onThrow : ∀ failure after, thrown failure after → thrown' failure after) :
    program.ends weaker thrown' state := by
  revert holds
  unfold ends
  rcases program state with ⟨failure | value, after⟩
  · exact onThrow failure after
  · exact onReturn value after

theorem ends_and {program : Program State Failure Value} {returned' : Value → State → Prop}
    {thrown' : Failure → State → Prop} (first : program.ends returned thrown state)
    (second : program.ends returned' thrown' state) :
    program.ends (fun value after => returned value after ∧ returned' value after)
      (fun failure after => thrown failure after ∧ thrown' failure after) state := by
  revert first second
  unfold ends
  rcases program state with ⟨failure | value, after⟩
  · exact And.intro
  · exact And.intro

theorem ends_of_return {program : Program State Failure Value} {value : Value} {after : State}
    (ran : program state = (.ok value, after)) :
    program.ends returned thrown state ↔ returned value after := by
  rw [ends, ran]

theorem ends_of_throw {program : Program State Failure Value} {failure : Failure} {after : State}
    (ran : program state = (.error failure, after)) :
    program.ends returned thrown state ↔ thrown failure after := by
  rw [ends, ran]

theorem ends_cases {program : Program State Failure Value} (holds : program.ends returned thrown state) :
    (∃ value after, program state = (.ok value, after) ∧ returned value after) ∨
      ∃ failure after, program state = (.error failure, after) ∧ thrown failure after := by
  revert holds
  unfold ends
  rcases program state with ⟨failure | value, after⟩
  · exact fun holds => .inr ⟨failure, after, rfl, holds⟩
  · exact fun holds => .inl ⟨value, after, rfl, holds⟩

theorem after_of_ends {program : Program State Failure Value} {left : State → Prop}
    (holds : program.ends (fun _ => left) (fun _ => left) state) : left (program state).2 := by
  rcases ends_cases holds with ⟨_, after, ran, reached⟩ | ⟨_, after, ran, reached⟩
  · rwa [ran]
  · rwa [ran]

def returns (program : Program State Failure Value) (state : State) : Prop :=
  program.ends (fun _ _ => True) (fun _ _ => False) state

/-- An assertion on how a program ends may use which of the two it was. -/
theorem ends_returns {program : Program State Failure Value} (holds : program.ends returned thrown state) :
    program.ends (fun value after => returned value after ∧ program.returns state)
      (fun failure after => thrown failure after ∧ ¬ program.returns state) state := by
  unfold returns
  rcases ends_cases holds with ⟨value, after, ran, reached⟩ | ⟨failure, after, ran, reached⟩
  · rw [ends_of_return ran, ends_of_return ran]
    exact ⟨reached, trivial⟩
  · rw [ends_of_throw ran, ends_of_throw ran]
    exact ⟨reached, id⟩

/-- A loop that threads a value through a list: the invariant speaks of the items already done. -/
theorem ends_foldlM {body : Value → Item → Program State Failure Value}
    (invariant : List Item → Value → State → Prop)
    (kept : ∀ earlier item value state, invariant earlier value state →
      (body value item).ends (invariant (earlier ++ [item])) thrown state)
    {value : Value} (initial : invariant [] value state) (items : List Item) :
    (items.foldlM body value).ends (invariant items) thrown state := by
  suffices rest : ∀ (earlier items : List Item) (value : Value) (state : State),
      invariant earlier value state →
      (items.foldlM body value).ends (invariant (earlier ++ items)) thrown state from
    rest [] items value state initial
  intro earlier items
  induction items generalizing earlier with
  | nil => intro value state holds; rwa [List.append_nil]
  | cons item items ih =>
    intro value state holds
    rw [List.foldlM_cons, ends_bind]
    refine ends_mono (kept earlier item value state holds) (fun next after reached => ?_) fun _ _ => id
    have rest := ih _ next after reached
    rwa [List.append_assoc] at rest

/-- A loop that counts: each round keeps what the next one needs. -/
theorem ends_foldlM_range {body : Value → ℕ → Program State Failure Value} {count : ℕ}
    (invariant : ℕ → Value → State → Prop)
    (kept : ∀ index < count, ∀ value state, invariant index value state →
      (body value index).ends (invariant (index + 1)) thrown state)
    {value : Value} (initial : invariant 0 value state) :
    ((List.range count).foldlM body value).ends (invariant count) thrown state := by
  induction count with
  | zero => exact initial
  | succ count ih =>
    rw [List.range_succ, List.foldlM_append, ends_bind]
    refine ends_mono (ih fun index below => kept index (Nat.lt_succ_of_lt below)) ?_ fun _ _ => id
    intro next after reached
    rw [List.foldlM_cons, ends_bind]
    exact ends_mono (kept count (Nat.lt_succ_self count) next after reached) (fun _ _ => id) fun _ _ => id

/-- The program leads to a related state. If it returns then its value is good there, and it throws
    only where it has an excuse. -/
def follows (relation : State → State → Prop) (excuse : State → Prop) (good : Value → State → Prop)
    (program : Program State Failure Value) (state : State) : Prop :=
  program.ends (fun value after => relation state after ∧ good value after)
    (fun _ after => relation state after ∧ excuse after) state

section

variable {relation : State → State → Prop} {excuse : State → Prop} {good : Value → State → Prop}

theorem follows_mono {program : Program State Failure Value} {excuse' : State → Prop}
    {weaker : Value → State → Prop} (followed : program.follows relation excuse good state)
    (onReturn : ∀ value after, relation state after → good value after → weaker value after)
    (onThrow : ∀ after, relation state after → excuse after → excuse' after) :
    program.follows relation excuse' weaker state :=
  ends_mono followed (fun value after ⟨related, held⟩ => ⟨related, onReturn value after related held⟩)
    fun _ after ⟨related, held⟩ => ⟨related, onThrow after related held⟩

variable [IsPreorder State relation]

theorem follows_pure {value : Value} (held : good value state) :
    (pure value : Program State Failure Value).follows relation excuse good state :=
  ⟨refl_of relation state, held⟩

theorem follows_throw {failure : Failure} (held : excuse state) :
    (throw failure : Program State Failure Value).follows relation excuse good state :=
  ⟨refl_of relation state, held⟩

theorem follows_bind {program : Program State Failure Value} {next : Value → Program State Failure Other}
    {goodLater : Other → State → Prop} (first : program.follows relation excuse good state)
    (second : ∀ value middle, relation state middle → good value middle →
      (next value).follows relation excuse goodLater middle) :
    (program >>= next).follows relation excuse goodLater state := by
  unfold follows
  rw [ends_bind]
  refine ends_mono first (fun value middle ⟨related, held⟩ => ?_) fun _ _ => id
  exact ends_mono (second value middle related held)
    (fun _ _ => And.imp_left (trans_of relation related)) fun _ _ => And.imp_left (trans_of relation related)

theorem follows_tryCatch {program : Program State Failure Value} {caught : State → Prop}
    {handler : Failure → Program State Failure Value} (first : program.follows relation caught good state)
    (second : ∀ failure middle, relation state middle → caught middle →
      (handler failure).follows relation excuse good middle) :
    (tryCatch program handler).follows relation excuse good state := by
  unfold follows
  rw [ends_tryCatch]
  refine ends_mono first (fun _ _ => id) fun failure middle ⟨related, held⟩ => ?_
  exact ends_mono (second failure middle related held)
    (fun _ _ => And.imp_left (trans_of relation related)) fun _ _ => And.imp_left (trans_of relation related)

theorem follows_forM {body : Item → Program State Failure PUnit} {items : List Item}
    (each : ∀ item ∈ items, ∀ middle, relation state middle →
      (body item).follows relation excuse (fun _ _ => True) middle) :
    (forM items body).follows relation excuse (fun _ _ => True) state := by
  induction items generalizing state with
  | nil => exact follows_pure trivial
  | cons item items ih =>
    rw [List.forM_cons]
    refine follows_bind (each item List.mem_cons_self state (refl_of relation state)) ?_
    exact fun _ middle related _ => ih fun later member after continued =>
      each later (List.mem_cons_of_mem _ member) after (trans_of relation related continued)

/-- What a loop keeps may depend on the state in which the loop started. -/
theorem follows_foldlM {body : Value → Item → Program State Failure Value} {items : List Item} {value : Value}
    (initial : good value state)
    (kept : ∀ item ∈ items, ∀ value middle, relation state middle → good value middle →
      (body value item).follows relation excuse good middle) :
    (items.foldlM body value).follows relation excuse good state := by
  induction items generalizing value state with
  | nil => exact follows_pure initial
  | cons item items ih =>
    rw [List.foldlM_cons]
    refine follows_bind (kept item List.mem_cons_self value state (refl_of relation state) initial) ?_
    intro next middle related held
    refine ih held fun later member value after continued => ?_
    exact kept later (List.mem_cons_of_mem _ member) value after (trans_of relation related continued)

/-- Where a program only has to lead to related states, its parts have no more to do either. -/
theorem follows.bind {program : Program State Failure Value} {next : Value → Program State Failure Other}
    (first : program.follows relation (fun _ => True) good state)
    (second : ∀ value middle, (next value).follows relation (fun _ => True) (fun _ _ => True) middle) :
    (program >>= next).follows relation (fun _ => True) (fun _ _ => True) state :=
  follows_bind first fun value middle _ _ => second value middle

theorem follows.tryCatch {program : Program State Failure Value} {handler : Failure → Program State Failure Value}
    (first : program.follows relation (fun _ => True) (fun _ _ => True) state)
    (second : ∀ failure middle, (handler failure).follows relation (fun _ => True) (fun _ _ => True) middle) :
    (tryCatch program handler).follows relation (fun _ => True) (fun _ _ => True) state :=
  follows_tryCatch first fun failure middle _ _ => second failure middle

theorem follows.foldlM {body : Value → Item → Program State Failure Value} {items : List Item} {value : Value}
    (each : ∀ item ∈ items, ∀ value middle,
      (body value item).follows relation (fun _ => True) (fun _ _ => True) middle) :
    (items.foldlM body value).follows relation (fun _ => True) (fun _ _ => True) state :=
  follows_foldlM trivial fun item member value middle _ _ => each item member value middle

end

end Program

end Systems
