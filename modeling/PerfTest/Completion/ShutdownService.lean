import PerfTest.Systems.Runs

open Systems (run run_invariant)

namespace PerfTestModel

inductive ClosePhase
  -- before `closeables.size() > 0`, and before the size that `i` starts from is read
  | entered
  | sized
  -- before `i >= 0`, where `i + 1` callbacks remain of those counted
  | loop (size remaining : ℕ)
  -- before `compareAndSet` of a callback and in its `run()`, within the loop or alone
  | closing (index : ℕ) (within : Option (ℕ × ℕ))
  | running (index : ℕ) (within : Option (ℕ × ℕ))
  | closed (size : ℕ)
  | callbackClosed
  deriving DecidableEq, Repr

structure CloseCall where
  registered : ℕ
  phase : ClosePhase
  deriving DecidableEq, Repr

/-- `closingOrAlreadyClosed` of each callback, the calls that were made, and the callbacks that were run with the call
    that ran them, in order. -/
structure ShutdownService where
  closeables : List Bool
  calls : List CloseCall
  started : List (ℕ × ℕ)
  deriving DecidableEq, Repr

inductive ShutdownEvent
  | wrap
  | close
  | closeCallback (index : ℕ)
  | advance (call : ℕ)
  deriving DecidableEq, Repr

namespace ShutdownService

def new : ShutdownService := ⟨[], [], []⟩

/-- In the loop an exception of the callback is logged. -/
def afterCallback : Option (ℕ × ℕ) → ClosePhase
  | some (size, remaining) => .loop size remaining
  | none => .callbackClosed

def setPhase (service : ShutdownService) (call : ℕ) (current : CloseCall) (phase : ClosePhase) : ShutdownService :=
  { service with calls := service.calls.set call { current with phase } }

def start (service : ShutdownService) (call index : ℕ) : ShutdownService :=
  { service with
    closeables := service.closeables.set index true
    started := service.started ++ [(call, index)] }

def advance (service : ShutdownService) (call : ℕ) (current : CloseCall) : Option ShutdownService :=
  match current.phase with
  | .entered => some (service.setPhase call current (if 0 < service.closeables.length then .sized else .closed 0))
  | .sized => some (service.setPhase call current (.loop service.closeables.length service.closeables.length))
  | .loop size 0 => some (service.setPhase call current (.closed size))
  | .loop size (remaining + 1) => some (service.setPhase call current (.closing remaining (some (size, remaining))))
  | .closing index within =>
    if service.closeables[index]? = some false then
      some ((service.setPhase call current (.running index within)).start call index)
    else some (service.setPhase call current (afterCallback within))
  | .running _ within => some (service.setPhase call current (afterCallback within))
  | .closed _ => none
  | .callbackClosed => none

def step (service : ShutdownService) : ShutdownEvent → Option ShutdownService
  | .wrap => some { service with closeables := service.closeables ++ [false] }
  | .close => some { service with calls := service.calls ++ [⟨service.closeables.length, .entered⟩] }
  | .closeCallback index =>
    if index < service.closeables.length then
      some { service with calls := service.calls ++ [⟨service.closeables.length, .closing index none⟩] }
    else none
  | .advance call => service.calls[call]?.bind (service.advance call)

def ran (service : ShutdownService) : List ℕ := service.started.map Prod.snd

def ranBy (service : ShutdownService) (call : ℕ) : List ℕ :=
  (service.started.filter fun entry => entry.1 = call).map Prod.snd

end ShutdownService

end PerfTestModel

open PerfTestModel PerfTestModel.ShutdownService

namespace PerfTestProof

structure LoopCovers (count : ℕ) (ran : ℕ → Prop) (registered size bound : ℕ) : Prop where
  registered_le : registered ≤ size
  size_le : size ≤ count
  ran_above : ∀ index, bound ≤ index → index < size → ran index

def CallSound (count : ℕ) (ran : ℕ → Prop) (own : List ℕ) (call : CloseCall) : Prop :=
  match call.phase with
  | .entered => call.registered ≤ count ∧ own = []
  | .sized => call.registered ≤ count ∧ own = []
  | .loop size remaining =>
    LoopCovers count ran call.registered size remaining ∧ remaining ≤ size ∧ ∀ index ∈ own, remaining ≤ index
  | .closing index none => index < count ∧ own = []
  | .closing index (some (size, remaining)) =>
    remaining = index ∧ LoopCovers count ran call.registered size (index + 1) ∧ index < size ∧
      ∀ other ∈ own, index < other
  | .running _ none => True
  | .running index (some (size, remaining)) =>
    remaining = index ∧ LoopCovers count ran call.registered size index ∧ index < size ∧ ∀ other ∈ own, index ≤ other
  | .closed size => LoopCovers count ran call.registered size 0
  | .callbackClosed => True

theorem LoopCovers.mono {count more registered size bound : ℕ} {ran ranMore : ℕ → Prop}
    (covers : LoopCovers count ran registered size bound) (grows : count ≤ more)
    (still : ∀ index, ran index → ranMore index) : LoopCovers more ranMore registered size bound :=
  ⟨covers.registered_le, covers.size_le.trans grows,
    fun index above less => still index (covers.ran_above index above less)⟩

theorem CallSound.mono {count more : ℕ} {ran ranMore : ℕ → Prop} {own : List ℕ} {call : CloseCall}
    (sound : CallSound count ran own call) (grows : count ≤ more) (still : ∀ index, ran index → ranMore index) :
    CallSound more ranMore own call := by
  obtain ⟨registered, phase⟩ := call
  match phase, sound with
  | .entered, ⟨less, empty⟩ => exact ⟨less.trans grows, empty⟩
  | .sized, ⟨less, empty⟩ => exact ⟨less.trans grows, empty⟩
  | .loop _ _, ⟨covers, rest⟩ => exact ⟨covers.mono grows still, rest⟩
  | .closing _ none, ⟨less, empty⟩ => exact ⟨less.trans_le grows, empty⟩
  | .closing _ (some _), ⟨same, covers, rest⟩ => exact ⟨same, covers.mono grows still, rest⟩
  | .running _ none, _ => trivial
  | .running _ (some _), ⟨same, covers, rest⟩ => exact ⟨same, covers.mono grows still, rest⟩
  | .closed _, covers => exact LoopCovers.mono covers grows still
  | .callbackClosed, _ => trivial

theorem CallSound.below {count index registered : ℕ} {ran : ℕ → Prop} {own : List ℕ} {within : Option (ℕ × ℕ)}
    (sound : CallSound count ran own ⟨registered, .closing index within⟩) : ∀ other ∈ own, index < other := by
  match within, sound with
  | none, ⟨_, empty⟩ => simp [empty]
  | some _, ⟨_, _, _, below⟩ => exact below

theorem CallSound.running {count index registered : ℕ} {ran : ℕ → Prop} {own : List ℕ} {within : Option (ℕ × ℕ)}
    (sound : CallSound count ran own ⟨registered, .closing index within⟩) :
    CallSound count (fun other => ran other ∨ other = index) (own ++ [index]) ⟨registered, .running index within⟩ := by
  match within, sound with
  | none, _ => trivial
  | some (size, remaining), ⟨same, covers, less, below⟩ =>
    refine ⟨same, ⟨covers.registered_le, covers.size_le, ?_⟩, less, ?_⟩
    · intro other above under
      rcases Nat.eq_or_lt_of_le above with rfl | above
      · exact .inr rfl
      · exact .inl (covers.ran_above other above under)
    · intro other member
      rcases List.mem_append.mp member with member | new
      · exact (below other member).le
      · exact (List.mem_singleton.mp new).ge

theorem ran_start (service : ShutdownService) (call index : ℕ) (current : CloseCall) (phase : ClosePhase) :
    ((service.setPhase call current phase).start call index).ran = service.ran ++ [index] := by
  simp [ShutdownService.start, ShutdownService.setPhase, ran]

theorem ranBy_start (service : ShutdownService) (call index : ℕ) (current : CloseCall) (phase : ClosePhase)
    (other : ℕ) : ((service.setPhase call current phase).start call index).ranBy other =
      service.ranBy other ++ if call = other then [index] else [] := by
  by_cases same : call = other <;> simp [ShutdownService.start, ShutdownService.setPhase, ranBy, same]

structure ShutdownSound (service : ShutdownService) : Prop where
  distinct : service.ran.Nodup
  flagged : ∀ index, service.closeables[index]? = some true ↔ index ∈ service.ran
  callers : ∀ entry ∈ service.started, entry.1 < service.calls.length
  descending : ∀ call, (service.ranBy call).Pairwise (· > ·)
  calls : ∀ call current, service.calls[call]? = some current →
    CallSound service.closeables.length (· ∈ service.ran) (service.ranBy call) current

namespace ShutdownSound

variable {service : ShutdownService} {call : ℕ} {current : CloseCall} {phase : ClosePhase}

theorem setPhase (sound : ShutdownSound service) (found : service.calls[call]? = some current)
    (own : CallSound service.closeables.length (· ∈ service.ran) (service.ranBy call) { current with phase }) :
    ShutdownSound (service.setPhase call current phase) where
  distinct := sound.distinct
  flagged := sound.flagged
  callers entry member := by
    rw [ShutdownService.setPhase, List.length_set]
    exact sound.callers entry member
  descending := sound.descending
  calls other another present := by
    rw [ShutdownService.setPhase] at present
    by_cases same : call = other
    · subst same
      rw [List.getElem?_set_self (List.getElem?_eq_some_iff.mp found).1] at present
      cases present
      exact own
    · rw [List.getElem?_set_ne same] at present
      exact sound.calls other another present

theorem wrap (sound : ShutdownSound service) :
    ShutdownSound { service with closeables := service.closeables ++ [false] } where
  distinct := sound.distinct
  flagged index := by
    rw [List.getElem?_append]
    split
    · exact sound.flagged index
    · rename_i beyond
      have absent : service.closeables[index]? = none := List.getElem?_eq_none (not_lt.mp beyond)
      refine Iff.trans ?_ (sound.flagged index)
      rw [absent]
      rcases Nat.eq_zero_or_pos (index - service.closeables.length) with zero | positive
      · simp [zero]
      · simp [List.getElem?_eq_none (show ([false] : List Bool).length ≤ _ from positive)]
  callers := sound.callers
  descending := sound.descending
  calls other another present :=
    (sound.calls other another present).mono (by simp) fun _ member => member

theorem ranBy_new (sound : ShutdownSound service) : service.ranBy service.calls.length = [] := by
  rw [ranBy, List.map_eq_nil_iff, List.filter_eq_nil_iff]
  intro entry member same
  exact absurd (sound.callers entry member) (by simp_all)

theorem called (sound : ShutdownSound service)
    (new : CallSound service.closeables.length (· ∈ service.ran) [] current) :
    ShutdownSound { service with calls := service.calls ++ [current] } where
  distinct := sound.distinct
  flagged := sound.flagged
  callers entry member := by
    have less := sound.callers entry member
    rw [List.length_append]
    omega
  descending := sound.descending
  calls other another present := by
    rw [List.getElem?_append] at present
    split at present
    · exact sound.calls other another present
    · rename_i beyond
      rcases Nat.eq_zero_or_pos (other - service.calls.length) with zero | positive
      · rw [zero] at present
        cases present
        have same : other = service.calls.length := by omega
        subst same
        change CallSound _ _ (service.ranBy service.calls.length) current
        rw [sound.ranBy_new]
        exact new
      · rw [List.getElem?_eq_none (show [current].length ≤ _ from positive)] at present
        cases present

theorem start {index : ℕ} {within : Option (ℕ × ℕ)} (sound : ShutdownSound service)
    (found : service.calls[call]? = some current) (closing : current.phase = .closing index within)
    (isOpen : service.closeables[index]? = some false) :
    ShutdownSound ((service.setPhase call current (.running index within)).start call index) := by
  obtain ⟨registered, phase⟩ := current
  obtain rfl : phase = .closing index within := closing
  have own := sound.calls call _ found
  have inside : index < service.closeables.length := (List.getElem?_eq_some_iff.mp isOpen).1
  have present : call < service.calls.length := (List.getElem?_eq_some_iff.mp found).1
  have unrun : index ∉ service.ran := by
    rw [← sound.flagged index, isOpen]
    simp
  constructor
  case distinct =>
    rw [ran_start, List.nodup_append]
    refine ⟨sound.distinct, List.nodup_cons.mpr ⟨List.not_mem_nil, List.nodup_nil⟩, ?_⟩
    intro other member last own same
    rw [List.mem_singleton.mp own] at same
    exact unrun (same ▸ member)
  case flagged =>
    intro other
    rw [ran_start, List.mem_append, List.mem_singleton]
    change (service.closeables.set index true)[other]? = some true ↔ other ∈ service.ran ∨ other = index
    rw [← sound.flagged other]
    by_cases same : index = other
    · subst same
      simp [List.getElem?_set_self inside]
    · rw [List.getElem?_set_ne same]
      simp [Ne.symm same]
  case callers =>
    intro entry member
    have length : (service.calls.set call ⟨registered, .running index within⟩).length = service.calls.length :=
      List.length_set
    refine lt_of_lt_of_eq ?_ length.symm
    rcases List.mem_append.mp member with member | new
    · exact sound.callers entry member
    · rw [List.mem_singleton.mp new]
      exact present
  case descending =>
    intro other
    rw [ranBy_start]
    split
    next same =>
      subst same
      rw [List.pairwise_append]
      exact ⟨sound.descending call, List.pairwise_singleton _ _, by simpa using own.below⟩
    next =>
      rw [List.append_nil]
      exact sound.descending other
  case calls =>
    intro other another listed
    have length : (service.closeables.set index true).length = service.closeables.length := List.length_set
    change CallSound (service.closeables.set index true).length _ _ another
    rw [ranBy_start, length, ran_start]
    change (service.calls.set call _)[other]? = some another at listed
    by_cases same : call = other
    · subst same
      rw [List.getElem?_set_self present] at listed
      cases listed
      rw [if_pos rfl]
      exact own.running.mono (le_refl _) fun _ => by simp
    · rw [List.getElem?_set_ne same] at listed
      rw [if_neg same, List.append_nil]
      exact (sound.calls other another listed).mono (le_refl _) fun _ => List.mem_append_left _

theorem advance {next : ShutdownService} (sound : ShutdownSound service)
    (found : service.calls[call]? = some current) (stepped : service.advance call current = some next) :
    ShutdownSound next := by
  obtain ⟨registered, phase⟩ := current
  have own := sound.calls call _ found
  match phase, own with
  | .entered, ⟨less, empty⟩ =>
    cases stepped
    refine sound.setPhase found ?_
    split
    · exact ⟨less, empty⟩
    · rename_i none
      dsimp only at less
      exact ⟨by dsimp only; omega, Nat.zero_le _, by intro _ _ _; omega⟩
  | .sized, ⟨less, empty⟩ =>
    cases stepped
    exact sound.setPhase found ⟨⟨less, le_refl _, by intro _ _ _; omega⟩, le_refl _, by simp [empty]⟩
  | .loop size 0, ⟨covers, _, _⟩ =>
    cases stepped
    exact sound.setPhase found covers
  | .loop size (remaining + 1), ⟨covers, less, below⟩ =>
    cases stepped
    exact sound.setPhase found ⟨rfl, covers, less, below⟩
  | .running index none, _ =>
    cases stepped
    exact sound.setPhase found trivial
  | .running index (some (size, remaining)), ⟨same, covers, less, below⟩ =>
    cases stepped
    subst same
    exact sound.setPhase found ⟨covers, less.le, below⟩
  | .closing index within, own =>
    change (if service.closeables[index]? = some false then _ else _) = some next at stepped
    split at stepped
    · rename_i isOpen
      cases stepped
      exact sound.start found rfl isOpen
    · rename_i isClosed
      cases stepped
      refine sound.setPhase found ?_
      match within, own with
      | none, _ => trivial
      | some (size, remaining), ⟨same, covers, less, below⟩ =>
        subst same
        have ran : remaining ∈ service.ran := by
          have inside := less.trans_le covers.size_le
          rw [← sound.flagged remaining, List.getElem?_eq_getElem inside]
          rw [List.getElem?_eq_getElem inside] at isClosed
          simpa using isClosed
        refine ⟨⟨covers.registered_le, covers.size_le, ?_⟩, less.le, fun other member => (below other member).le⟩
        intro other above under
        rcases Nat.eq_or_lt_of_le above with rfl | above
        · exact ran
        · exact covers.ran_above other above under
  | .closed size, _ => cases stepped
  | .callbackClosed, _ => cases stepped

theorem step {event : ShutdownEvent} {next : ShutdownService} (sound : ShutdownSound service)
    (stepped : service.step event = some next) : ShutdownSound next := by
  cases event with
  | wrap => cases stepped; exact sound.wrap
  | close => cases stepped; exact sound.called ⟨le_refl _, rfl⟩
  | closeCallback index =>
    simp only [ShutdownService.step] at stepped
    split at stepped
    · rename_i inside
      cases stepped
      exact sound.called ⟨inside, rfl⟩
    · cases stepped
  | advance call =>
    obtain ⟨current, found, stepped⟩ := Option.bind_eq_some_iff.mp stepped
    exact sound.advance found stepped

end ShutdownSound

theorem shutdownSound_new : ShutdownSound ShutdownService.new where
  distinct := List.nodup_nil
  flagged index := by simp [ShutdownService.new, ran]
  callers entry member := by cases member
  descending call := List.Pairwise.nil
  calls call current present := by cases present

/-- However the threads that close the service and single callbacks of it interleave with each other and with new
    registrations: no callback is run twice, each call runs its callbacks in the reverse order of their registration,
    and when `close()` is done, each callback that was registered when it was called has been run. -/
theorem shutdown_runs_each_once {events : List ShutdownEvent} {service : ShutdownService}
    (executed : run ShutdownService.step ShutdownService.new events = some service) :
    service.ran.Nodup ∧ (∀ call, (service.ranBy call).Pairwise (· > ·)) ∧
      ∀ (call : ℕ) (current : CloseCall) (size : ℕ), service.calls[call]? = some current →
        current.phase = .closed size → ∀ index < current.registered, index ∈ service.ran := by
  have sound := run_invariant ShutdownSound (fun _ _ _ sound => sound.step) shutdownSound_new executed
  refine ⟨sound.distinct, sound.descending, ?_⟩
  rintro call ⟨registered, phase⟩ size present rfl index less
  have covers : LoopCovers service.closeables.length (· ∈ service.ran) registered size 0 := sound.calls call _ present
  exact covers.ran_above index (Nat.zero_le _) (less.trans_le covers.registered_le)

/-- The callback of a registration is closed while `close()` runs the one after it, and is still running in the end. -/
theorem shutdown_runs_each_once_closing :
    ∃ service : ShutdownService, service.started = [(0, 1), (1, 0)] ∧ service.ran.Nodup ∧
      (∀ call, (service.ranBy call).Pairwise (· > ·)) ∧
      ∀ (call : ℕ) (current : CloseCall) (size : ℕ), service.calls[call]? = some current →
        current.phase = .closed size → ∀ index < current.registered, index ∈ service.ran := by
  have executed : run ShutdownService.step ShutdownService.new [.wrap, .wrap, .close, .advance 0, .advance 0,
      .closeCallback 0, .advance 0, .advance 0, .advance 1, .advance 0, .advance 0, .advance 0, .advance 0] =
        some ⟨[true, true], [⟨2, .closed 2⟩, ⟨2, .running 0 none⟩], [(0, 1), (1, 0)]⟩ := by decide
  exact ⟨_, rfl, shutdown_runs_each_once executed⟩

section Alone

variable {service : ShutdownService} {call registered size : ℕ}

theorem run_advance {current : CloseCall} {next final : ShutdownService} {count : ℕ}
    (found : service.calls[call]? = some current) (stepped : service.advance call current = some next)
    (rest : run ShutdownService.step next (List.replicate count (.advance call)) = some final) :
    run ShutdownService.step service (List.replicate (count + 1) (.advance call)) = some final := by
  rw [List.replicate_succ]
  refine Systems.run_cons.mpr ⟨next, ?_, rest⟩
  rw [ShutdownService.step, found, Option.bind_some, stepped]

theorem setPhase_found {current : CloseCall} (found : service.calls[call]? = some current) (phase : ClosePhase) :
    (service.setPhase call current phase).calls[call]? = some { current with phase } :=
  List.getElem?_set_self (List.getElem?_eq_some_iff.mp found).1

theorem loop_alone {remaining : ℕ} (found : service.calls[call]? = some ⟨registered, .loop size remaining⟩) :
    ∃ count final, run ShutdownService.step service (List.replicate count (.advance call)) = some final ∧
      final.calls[call]? = some ⟨registered, .closed size⟩ ∧
      final.ran = service.ran ++
        (List.range remaining).reverse.filter fun index => service.closeables[index]? = some false := by
  induction remaining generalizing service with
  | zero =>
    refine ⟨1, service.setPhase call _ (.closed size), ?_, setPhase_found found _, ?_⟩
    · exact run_advance found rfl rfl
    · simp [ShutdownService.setPhase, ran]
  | succ remaining ih =>
    have closing := setPhase_found found (.closing remaining (some (size, remaining)))
    set entering := service.setPhase call ⟨registered, .loop size (remaining + 1)⟩
      (.closing remaining (some (size, remaining)))
    rw [List.range_succ, List.reverse_append, List.reverse_singleton, List.singleton_append, List.filter_cons]
    by_cases isOpen : service.closeables[remaining]? = some false
    · set started := (entering.setPhase call ⟨registered, .closing remaining (some (size, remaining))⟩
        (.running remaining (some (size, remaining)))).start call remaining
      have running : started.calls[call]? = some ⟨registered, .running remaining (some (size, remaining))⟩ :=
        setPhase_found closing _
      have stepped : entering.advance call ⟨registered, .closing remaining (some (size, remaining))⟩ = some started :=
        if_pos isOpen
      obtain ⟨count, final, executed, done, ran_eq⟩ := ih (setPhase_found running (.loop size remaining))
      refine ⟨count + 3, final, run_advance found rfl (run_advance closing stepped
        (run_advance running rfl executed)), done, ?_⟩
      have others : ((List.range remaining).reverse.filter fun index => started.closeables[index]? = some false) =
          (List.range remaining).reverse.filter fun index => service.closeables[index]? = some false := by
        apply List.filter_congr
        intro index member
        have less : index < remaining := by simpa using member
        change decide ((service.closeables.set remaining true)[index]? = some false) = _
        rw [List.getElem?_set_ne (by omega)]
      rw [ran_eq]
      change started.ran ++ ((List.range remaining).reverse.filter fun index =>
        started.closeables[index]? = some false) = _
      have begun : started.ran = service.ran ++ [remaining] := ran_start entering call remaining ..
      rw [others, begun, if_pos (by simpa using isOpen), List.append_assoc, List.singleton_append]
    · have stepped : entering.advance call ⟨registered, .closing remaining (some (size, remaining))⟩ =
          some (entering.setPhase call ⟨registered, .closing remaining (some (size, remaining))⟩
            (.loop size remaining)) := if_neg isOpen
      obtain ⟨count, final, executed, done, ran_eq⟩ := ih (setPhase_found closing (.loop size remaining))
      refine ⟨count + 2, final, run_advance found rfl (run_advance closing stepped executed), done, ?_⟩
      rw [ran_eq, if_neg (by simpa using isOpen)]
      rfl

/-- Left alone, `close()` ends, and it runs the callbacks that were not yet run, the last one first. -/
theorem close_alone {events : List ShutdownEvent}
    (executed : run ShutdownService.step ShutdownService.new events = some service) :
    ∃ count final, run ShutdownService.step service
        (.close :: List.replicate count (.advance service.calls.length)) = some final ∧
      final.calls[service.calls.length]? = some ⟨service.closeables.length, .closed service.closeables.length⟩ ∧
      final.ran = service.ran ++ (List.range service.closeables.length).reverse.filter (· ∉ service.ran) := by
  have sound := run_invariant ShutdownSound (fun _ _ _ sound => sound.step) shutdownSound_new executed
  have unrun : ((List.range service.closeables.length).reverse.filter fun index =>
      service.closeables[index]? = some false) =
        (List.range service.closeables.length).reverse.filter (· ∉ service.ran) := by
    apply List.filter_congr
    intro index member
    have inside : index < service.closeables.length := by simpa using member
    rw [decide_eq_decide, ← sound.flagged index, List.getElem?_eq_getElem inside]
    simp
  set called : ShutdownService :=
    { service with calls := service.calls ++ [⟨service.closeables.length, .entered⟩] } with called_eq
  have found : called.calls[service.calls.length]? = some ⟨service.closeables.length, .entered⟩ :=
    List.getElem?_concat_length
  by_cases some_ : 0 < service.closeables.length
  · have sized := setPhase_found found .sized
    have looping := setPhase_found sized (.loop service.closeables.length service.closeables.length)
    obtain ⟨count, final, executed, done, ran_eq⟩ := loop_alone looping
    have entering : called.advance service.calls.length ⟨service.closeables.length, .entered⟩ =
        some (called.setPhase service.calls.length ⟨service.closeables.length, .entered⟩ .sized) := by
      simp [ShutdownService.advance, called_eq, some_]
    refine ⟨count + 2, final, Systems.run_cons.mpr ⟨called, rfl, ?_⟩, done, ?_⟩
    · exact run_advance found entering (run_advance sized rfl executed)
    · rw [← unrun]
      exact ran_eq
  · have entering : called.advance service.calls.length ⟨service.closeables.length, .entered⟩ =
        some (called.setPhase service.calls.length ⟨service.closeables.length, .entered⟩ (.closed 0)) := by
      simp [ShutdownService.advance, called_eq, some_]
    have none : service.closeables.length = 0 := by omega
    refine ⟨1, _, Systems.run_cons.mpr ⟨called, rfl, run_advance found entering rfl⟩, ?_, ?_⟩
    · rw [setPhase_found found, none]
    · rw [none, List.range_zero, List.reverse_nil, List.filter_nil, List.append_nil]
      rfl

theorem close_alone_two :
    ∃ count final, run ShutdownService.step ⟨[false, false], [], []⟩
        (.close :: List.replicate count (.advance 0)) = some final ∧
      final.calls[0]? = some ⟨2, .closed 2⟩ ∧ final.ran = [] ++ (List.range 2).reverse.filter (· ∉ ([] : List ℕ)) :=
  @close_alone ⟨[false, false], [], []⟩ [.wrap, .wrap] rfl

end Alone

end PerfTestProof
