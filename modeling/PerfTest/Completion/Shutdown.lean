import PerfTest.Systems.Programs

open Systems (Program)

namespace PerfTestModel

/-- The task of a producer, which is null before the producers start, and whether it is not done when its turn to be
    awaited comes. -/
structure AgentState where
  hasTask : Bool
  running : Bool
  deriving DecidableEq, Repr

inductive ShutdownAction
  | cancel (producer : ℕ)
  | get (producer : ℕ)
  | dispose (connection : ℕ)
  | shutdownNow (executor : ℕ)
  | awaitTermination (executor : ℕ)
  deriving DecidableEq, Repr

inductive ShutdownException
  | interruptedException
  | runtimeException
  deriving DecidableEq, Repr

structure ShutdownThread where
  looks : ℕ
  interrupted : Bool
  done : List ShutdownAction
  deriving DecidableEq, Repr

structure ShutdownSequence where
  producerStates : List AgentState
  configurationConnections : List ℕ
  producerConnections : List ℕ
  consumerConnections : List ℕ
  executorServices : List ℕ
  closing : Bool
  deriving DecidableEq, Repr

abbrev ShutdownProgram := Program ShutdownThread ShutdownException

namespace ShutdownThread

variable (interrupts : ℕ → Bool)

/-- `Thread.interrupted()`, with the interrupts that came since the thread last looked. -/
def look : ShutdownProgram Bool := fun thread =>
  (.ok (thread.interrupted || interrupts thread.looks),
    { thread with looks := thread.looks + 1, interrupted := false })

def perform (action : ShutdownAction) : ShutdownProgram Unit :=
  modify fun thread => { thread with done := thread.done ++ [action] }

def wait (action : ShutdownAction) : ShutdownProgram Unit := do
  perform action
  if ← look interrupts then throw .interruptedException

def interrupt : ShutdownProgram Unit := modify fun thread => { thread with interrupted := true }

end ShutdownThread

namespace ShutdownSequence

open ShutdownThread

variable (interrupts : ℕ → Bool)

def cancelProducers (first : ℕ) : List AgentState → ShutdownProgram Bool
  | [] => pure true
  | state :: states => do
    if ← look interrupts then return false
    if state.hasTask then perform (.cancel first)
    cancelProducers (first + 1) states

/-- The second loop, where all exceptions of a producer are caught. -/
def awaitProducers (first : ℕ) : List AgentState → ShutdownProgram Bool
  | [] => pure true
  | state :: states => do
    if state.hasTask && state.running then
      if ← look interrupts then return false
      tryCatch (wait interrupts (.get first)) fun _ => pure ()
    awaitProducers (first + 1) states

def closeConnections : List ℕ → ShutdownProgram Bool
  | [] => pure true
  | connection :: connections => do
    if ← look interrupts then return false
    perform (.dispose connection)
    closeConnections connections

def shutdownThreads (sequence : ShutdownSequence) : ShutdownProgram Unit := do
  if sequence.closing = false then
    forM sequence.executorServices fun executor => do
      perform (.shutdownNow executor)
      tryCatch (wait interrupts (.awaitTermination executor)) fun _ => do
        interrupt
        throw .runtimeException

def shutdown (sequence : ShutdownSequence) : ShutdownProgram Unit :=
  tryCatch (do
    if !(← cancelProducers interrupts 0 sequence.producerStates) then return
    if !(← awaitProducers interrupts 0 sequence.producerStates) then return
    if ← look interrupts then return
    if !(← closeConnections interrupts sequence.configurationConnections) then return
    if !(← closeConnections interrupts sequence.producerConnections) then return
    if !(← closeConnections interrupts sequence.consumerConnections) then return
    if ← look interrupts then return
    sequence.shutdownThreads interrupts) fun _ => pure ()

end ShutdownSequence

/-- The shutdown sequence as a plan: it looks whether it is interrupted, does something, waits for a producer, where an
    interrupt is lost, or waits for an executor. -/
inductive ShutdownPoint
  | look
  | perform (action : ShutdownAction)
  | try_ (action : ShutdownAction)
  | wait (action : ShutdownAction)
  deriving DecidableEq, Repr

namespace ShutdownPoint

def action : ShutdownPoint → Option ShutdownAction
  | look => none
  | perform action => some action
  | try_ action => some action
  | wait action => some action

def notices : ShutdownPoint → Bool
  | perform _ => false
  | _ => true

def carryOut (interrupts : ℕ → Bool) : ℕ → List ShutdownPoint → List ShutdownAction
  | _, [] => []
  | looks, look :: points => if interrupts looks then [] else carryOut interrupts (looks + 1) points
  | looks, perform action :: points => action :: carryOut interrupts looks points
  | looks, try_ action :: points => action :: carryOut interrupts (looks + 1) points
  | looks, wait action :: points => action :: if interrupts looks then [] else carryOut interrupts (looks + 1) points

end ShutdownPoint

namespace ShutdownSequence

def cancelPlan (first : ℕ) (states : List AgentState) : List ShutdownPoint :=
  (states.zipIdx first).flatMap fun (state, producer) =>
    .look :: if state.hasTask then [.perform (.cancel producer)] else []

def awaitPlan (first : ℕ) (states : List AgentState) : List ShutdownPoint :=
  (states.zipIdx first).flatMap fun (state, producer) =>
    if state.hasTask && state.running then [.look, .try_ (.get producer)] else []

def closePlan (connections : List ℕ) : List ShutdownPoint :=
  connections.flatMap fun connection => [.look, .perform (.dispose connection)]

def threadsPlan (sequence : ShutdownSequence) : List ShutdownPoint :=
  if sequence.closing then []
  else sequence.executorServices.flatMap fun executor =>
    [.perform (.shutdownNow executor), .wait (.awaitTermination executor)]

def plan (sequence : ShutdownSequence) : List ShutdownPoint :=
  cancelPlan 0 sequence.producerStates ++ (awaitPlan 0 sequence.producerStates ++ (.look ::
    (closePlan sequence.configurationConnections ++ (closePlan sequence.producerConnections ++
      (closePlan sequence.consumerConnections ++ (.look :: sequence.threadsPlan))))))

def wholeShutdown (sequence : ShutdownSequence) : List ShutdownAction :=
  (sequence.producerStates.zipIdx.filter fun (state, _) => state.hasTask).map (fun (_, producer) => .cancel producer) ++
    (sequence.producerStates.zipIdx.filter fun (state, _) => state.hasTask && state.running).map
      (fun (_, producer) => .get producer) ++
    (sequence.configurationConnections ++ sequence.producerConnections ++ sequence.consumerConnections).map .dispose ++
    if sequence.closing then [] else sequence.executorServices.flatMap fun executor =>
      [.shutdownNow executor, .awaitTermination executor]

end ShutdownSequence

end PerfTestModel

open PerfTestModel PerfTestModel.ShutdownSequence PerfTestModel.ShutdownPoint

namespace PerfTestProof

variable {interrupts : ℕ → Bool} {thread after : ShutdownThread} {points : List ShutdownPoint}

def GoesOn (interrupts : ℕ → Bool) (points : List ShutdownPoint) (thread after : ShutdownThread) : Prop :=
  after.interrupted = false ∧ ∀ rest, after.done ++ carryOut interrupts after.looks rest =
    thread.done ++ carryOut interrupts thread.looks (points ++ rest)

def Stops (interrupts : ℕ → Bool) (points : List ShutdownPoint) (thread after : ShutdownThread) : Prop :=
  ∀ rest, after.done = thread.done ++ carryOut interrupts thread.looks (points ++ rest)

def FollowsPlan (interrupts : ℕ → Bool) (points : List ShutdownPoint) (program : ShutdownProgram Bool) : Prop :=
  ∀ thread, thread.interrupted = false →
    program.ends (fun goesOn after => if goesOn then GoesOn interrupts points thread after
      else Stops interrupts points thread after) (fun _ _ => False) thread

def Finishes (interrupts : ℕ → Bool) (points : List ShutdownPoint) (program : ShutdownProgram Unit) : Prop :=
  ∀ thread, thread.interrupted = false →
    program.ends (fun _ after => after.done = thread.done ++ carryOut interrupts thread.looks points)
      (fun _ after => after.done = thread.done ++ carryOut interrupts thread.looks points) thread

theorem GoesOn.trans {middle : ShutdownThread} {later : List ShutdownPoint}
    (first : GoesOn interrupts points thread middle) (second : GoesOn interrupts later middle after) :
    GoesOn interrupts (points ++ later) thread after :=
  ⟨second.1, fun rest => by rw [second.2, first.2, List.append_assoc]⟩

theorem GoesOn.stops {middle : ShutdownThread} {later : List ShutdownPoint}
    (first : GoesOn interrupts points thread middle) (second : Stops interrupts later middle after) :
    Stops interrupts (points ++ later) thread after :=
  fun rest => by rw [second rest, first.2, List.append_assoc]

theorem Stops.before (stops : Stops interrupts points thread after) (later : List ShutdownPoint) :
    Stops interrupts (points ++ later) thread after :=
  fun rest => by rw [List.append_assoc]; exact stops _

theorem look_goesOn (quiet : interrupts thread.looks = false) :
    GoesOn interrupts [.look] thread { thread with looks := thread.looks + 1, interrupted := false } :=
  ⟨rfl, fun rest => by simp [carryOut, quiet]⟩

theorem look_stops (interrupted : interrupts thread.looks = true) :
    Stops interrupts [.look] thread { thread with looks := thread.looks + 1, interrupted := false } :=
  fun rest => by simp [carryOut, interrupted]

theorem perform_goesOn (clear : thread.interrupted = false) (action : ShutdownAction) :
    GoesOn interrupts [.perform action] thread { thread with done := thread.done ++ [action] } :=
  ⟨clear, fun rest => by simp [carryOut]⟩

theorem try_goesOn (action : ShutdownAction) :
    GoesOn interrupts [.try_ action] thread
      { thread with looks := thread.looks + 1, interrupted := false, done := thread.done ++ [action] } :=
  ⟨rfl, fun rest => by simp [carryOut]⟩

section Parts

variable {returned : Unit → ShutdownThread → Prop} {thrown : ShutdownException → ShutdownThread → Prop}

@[simp] theorem ends_look {returned : Bool → ShutdownThread → Prop} :
    (ShutdownThread.look interrupts).ends returned thrown thread ↔
      returned (thread.interrupted || interrupts thread.looks)
        { thread with looks := thread.looks + 1, interrupted := false } := Iff.rfl

@[simp] theorem ends_perform (action : ShutdownAction) :
    (ShutdownThread.perform action).ends returned thrown thread ↔
      returned () { thread with done := thread.done ++ [action] } := Iff.rfl

/-- Where an interrupt during the wait makes no difference to what holds in the end. -/
theorem ends_wait {held : ShutdownThread → Prop} (action : ShutdownAction)
    (holds : held { thread with looks := thread.looks + 1, interrupted := false, done := thread.done ++ [action] }) :
    (ShutdownThread.wait interrupts action).ends (fun _ => held) (fun _ => held) thread := by
  simp only [ShutdownThread.wait, Program.ends_bind, ends_perform, ends_look, Program.ends_ite, Program.ends_throw,
    Program.ends_pure]
  split <;> exact holds

end Parts

theorem follows_end : FollowsPlan interrupts [] (pure true) := fun _ clear => ⟨clear, fun _ => rfl⟩

theorem follows_look {program : ShutdownProgram Bool} (rest : FollowsPlan interrupts points program) :
    FollowsPlan interrupts (.look :: points) (do
      let interrupted ← ShutdownThread.look interrupts
      if interrupted = true then pure false else program) := by
  intro thread clear
  rw [Program.ends_bind, ends_look, clear, Bool.false_or, Program.ends_ite]
  split
  · rename_i interrupted
    exact (look_stops interrupted).before points
  · rename_i quiet
    have first := look_goesOn (Bool.eq_false_iff.mpr quiet)
    refine Program.ends_mono (rest _ rfl) (fun goesOn after => ?_) fun _ _ => id
    cases goesOn with
    | true => exact first.trans
    | false => exact first.stops

theorem follows_part {part : ShutdownProgram Unit} {program : ShutdownProgram Bool} {first : List ShutdownPoint}
    (goesOn : ∀ thread, thread.interrupted = false →
      part.ends (fun _ after => GoesOn interrupts first thread after) (fun _ _ => False) thread)
    (rest : FollowsPlan interrupts points program) :
    FollowsPlan interrupts (first ++ points) (part >>= fun _ => program) := by
  intro thread clear
  rw [Program.ends_bind]
  refine Program.ends_mono (goesOn thread clear) (fun _ middle before => ?_) fun _ _ => id
  refine Program.ends_mono (rest middle before.1) (fun goesOn after => ?_) fun _ _ => id
  cases goesOn with
  | true => exact before.trans
  | false => exact before.stops

theorem cancelPlan_cons (first : ℕ) (state : AgentState) (states : List AgentState) :
    cancelPlan first (state :: states) =
      .look :: ((if state.hasTask then [.perform (.cancel first)] else []) ++ cancelPlan (first + 1) states) := by
  rw [cancelPlan, List.zipIdx_cons, List.flatMap_cons, ← cancelPlan, List.cons_append]

theorem awaitPlan_cons (first : ℕ) (state : AgentState) (states : List AgentState) :
    awaitPlan first (state :: states) =
      (if state.hasTask && state.running then [.look, .try_ (.get first)] else []) ++ awaitPlan (first + 1) states := by
  rw [awaitPlan, List.zipIdx_cons, List.flatMap_cons, ← awaitPlan]

theorem cancelProducers_follows (first : ℕ) (states : List AgentState) :
    FollowsPlan interrupts (cancelPlan first states) (cancelProducers interrupts first states) := by
  induction states generalizing first with
  | nil => exact follows_end
  | cons state states ih =>
    rw [cancelPlan_cons, cancelProducers]
    apply follows_look
    cases state.hasTask with
    | true => exact follows_part (fun thread clear => perform_goesOn clear _) (ih (first + 1))
    | false => exact ih (first + 1)

theorem awaitProducers_follows (first : ℕ) (states : List AgentState) :
    FollowsPlan interrupts (awaitPlan first states) (awaitProducers interrupts first states) := by
  induction states generalizing first with
  | nil => exact follows_end
  | cons state states ih =>
    rw [awaitPlan_cons, awaitProducers]
    cases state.hasTask && state.running with
    | true =>
      apply follows_look
      refine follows_part (fun thread clear => ?_) (ih (first + 1))
      rw [Program.ends_tryCatch]
      exact ends_wait _ (try_goesOn _)
    | false => exact ih (first + 1)

theorem closeConnections_follows (connections : List ℕ) :
    FollowsPlan interrupts (closePlan connections) (closeConnections interrupts connections) := by
  induction connections with
  | nil => exact follows_end
  | cons connection connections ih =>
    rw [closePlan, List.flatMap_cons, ← closePlan, closeConnections]
    apply follows_look
    exact follows_part (fun thread clear => perform_goesOn clear _) ih

theorem finishes_look {program : ShutdownProgram Unit} (rest : Finishes interrupts points program) :
    Finishes interrupts (.look :: points) (do
      let interrupted ← ShutdownThread.look interrupts
      if interrupted = true then pure () else program) := by
  intro thread clear
  rw [Program.ends_bind, ends_look, clear, Bool.false_or, Program.ends_ite]
  split
  · rename_i interrupted
    exact look_stops interrupted points
  · rename_i quiet
    have first := look_goesOn (Bool.eq_false_iff.mpr quiet)
    have same := first.2 points
    exact Program.ends_mono (rest _ rfl) (fun _ after reached => reached.trans same)
      fun _ after reached => reached.trans same

theorem finishes_part {part : ShutdownProgram Bool} {program : ShutdownProgram Unit} {first : List ShutdownPoint}
    (before : FollowsPlan interrupts first part) (rest : Finishes interrupts points program) :
    Finishes interrupts (first ++ points) (do
      let goesOn ← part
      if (!goesOn) = true then pure () else program) := by
  intro thread clear
  rw [Program.ends_bind]
  refine Program.ends_mono (before thread clear) (fun goesOn middle reached => ?_) fun _ _ => False.elim
  cases goesOn with
  | true =>
    have same := reached.2 points
    exact Program.ends_mono (rest middle reached.1) (fun _ after reached => reached.trans same)
      fun _ after reached => reached.trans same
  | false => exact reached points

theorem shutdownThreads_finishes (sequence : ShutdownSequence) :
    Finishes interrupts sequence.threadsPlan (sequence.shutdownThreads interrupts) := by
  unfold threadsPlan shutdownThreads
  cases sequence.closing with
  | true => exact fun thread clear => (List.append_nil _).symm
  | false =>
    rw [if_pos rfl, if_neg Bool.false_ne_true]
    induction sequence.executorServices with
    | nil => exact fun thread clear => (List.append_nil _).symm
    | cons executor executors ih =>
      intro thread clear
      rw [List.forM_cons, List.flatMap_cons]
      simp only [Program.ends_bind, ends_perform, Program.ends_tryCatch, ShutdownThread.wait, ends_look, clear,
        Bool.false_or, Program.ends_ite, Program.ends_throw, Program.ends_pure]
      cases quiet : interrupts thread.looks with
      | true =>
        rw [if_pos rfl]
        simp only [ShutdownThread.interrupt, Program.ends_modify]
        simp [carryOut, quiet]
      | false =>
        rw [if_neg Bool.false_ne_true]
        have same : ∀ rest, thread.done ++ [.shutdownNow executor] ++ [.awaitTermination executor] ++
            carryOut interrupts (thread.looks + 1) rest =
              thread.done ++ carryOut interrupts thread.looks
                ([.perform (.shutdownNow executor), .wait (.awaitTermination executor)] ++ rest) := by
          intro rest
          simp [carryOut, quiet]
        exact Program.ends_mono (ih _ rfl) (fun _ after reached => reached.trans (same _))
          fun _ after reached => reached.trans (same _)

/-- The loops, the checks and the exceptions of the shutdown sequence carry out its plan. -/
theorem shutdown_carriesOut (sequence : ShutdownSequence) (interrupts : ℕ → Bool) :
    (sequence.shutdown interrupts ⟨0, false, []⟩).2.done = carryOut interrupts 0 sequence.plan := by
  have finishes : Finishes interrupts sequence.plan _ :=
    finishes_part (cancelProducers_follows 0 sequence.producerStates)
      (finishes_part (awaitProducers_follows 0 sequence.producerStates) (finishes_look
        (finishes_part (closeConnections_follows sequence.configurationConnections)
          (finishes_part (closeConnections_follows sequence.producerConnections)
            (finishes_part (closeConnections_follows sequence.consumerConnections)
              (finishes_look (shutdownThreads_finishes sequence)))))))
  have ends : (sequence.shutdown interrupts).ends (fun _ after => after.done = carryOut interrupts 0 sequence.plan)
      (fun _ after => after.done = carryOut interrupts 0 sequence.plan) ⟨0, false, []⟩ := by
    unfold shutdown
    rw [Program.ends_tryCatch]
    exact finishes ⟨0, false, []⟩ rfl
  have done := Program.after_of_ends ends
  exact done

theorem carryOut_begins (looks : ℕ) (points : List ShutdownPoint) :
    carryOut interrupts looks points <+: points.filterMap action := by
  induction points generalizing looks with
  | nil => exact List.prefix_refl _
  | cons point points ih =>
    cases point with
    | look =>
      rw [carryOut]
      split
      · exact List.nil_prefix
      · exact ih _
    | perform own => exact (List.prefix_cons_inj own).mpr (ih _)
    | try_ own => exact (List.prefix_cons_inj own).mpr (ih _)
    | wait own =>
      rw [carryOut]
      refine (List.prefix_cons_inj own).mpr ?_
      split
      · exact List.nil_prefix
      · exact ih _

/-- The interrupts that come while the sequence waits for a producer are lost on it. -/
theorem carryOut_whole {looks : ℕ} {points : List ShutdownPoint}
    (lost : ∀ (count : ℕ) (point : ShutdownPoint), (points.filter notices)[count]? = some point →
      interrupts (looks + count) = true → ∃ action, point = .try_ action) :
    carryOut interrupts looks points = points.filterMap action := by
  induction points generalizing looks with
  | nil => rfl
  | cons point points ih =>
    have later : ∀ (count : ℕ) (next : ShutdownPoint),
        ((point :: points).filter notices = point :: points.filter notices) →
        (points.filter notices)[count]? = some next → interrupts (looks + 1 + count) = true →
          ∃ action, next = .try_ action := by
      intro count next same found interrupted
      refine lost (count + 1) next (by rw [same]; exact found) ?_
      rwa [Nat.add_right_comm, Nat.add_assoc] at interrupted
    cases point with
    | look =>
      have quiet : interrupts looks = false := by
        cases interrupted : interrupts looks with
        | false => rfl
        | true =>
          obtain ⟨own, same⟩ := lost 0 .look rfl interrupted
          cases same
      rw [carryOut, quiet, if_neg Bool.false_ne_true]
      exact ih fun count next => later count next rfl
    | perform own => exact congrArg (own :: ·) (ih lost)
    | try_ own => exact congrArg (own :: ·) (ih fun count next => later count next rfl)
    | wait own =>
      have quiet : interrupts looks = false := by
        cases interrupted : interrupts looks with
        | false => rfl
        | true =>
          obtain ⟨other, same⟩ := lost 0 (.wait own) rfl interrupted
          cases same
      rw [carryOut, quiet, if_neg Bool.false_ne_true]
      exact congrArg (own :: ·) (ih fun count next => later count next rfl)

theorem cancelPlan_actions (first : ℕ) (states : List AgentState) :
    (cancelPlan first states).filterMap action =
      ((states.zipIdx first).filter fun (state, _) => state.hasTask).map fun (_, producer) => .cancel producer := by
  induction states generalizing first with
  | nil => rfl
  | cons state states ih =>
    obtain ⟨hasTask, running⟩ := state
    rw [cancelPlan_cons, List.zipIdx_cons, List.filter_cons]
    cases hasTask with
    | true => exact congrArg (ShutdownAction.cancel first :: ·) (ih (first + 1))
    | false => exact ih (first + 1)

theorem awaitPlan_actions (first : ℕ) (states : List AgentState) :
    (awaitPlan first states).filterMap action =
      ((states.zipIdx first).filter fun (state, _) => state.hasTask && state.running).map
        fun (_, producer) => .get producer := by
  induction states generalizing first with
  | nil => rfl
  | cons state states ih =>
    obtain ⟨hasTask, running⟩ := state
    rw [awaitPlan_cons, List.zipIdx_cons, List.filter_cons]
    cases hasTask with
    | true =>
      cases running with
      | true => exact congrArg (ShutdownAction.get first :: ·) (ih (first + 1))
      | false => exact ih (first + 1)
    | false => exact ih (first + 1)

theorem closePlan_actions (connections : List ℕ) :
    (closePlan connections).filterMap action = connections.map .dispose := by
  induction connections with
  | nil => rfl
  | cons connection connections ih =>
    rw [closePlan, List.flatMap_cons, ← closePlan, List.filterMap_append, ih]
    rfl

theorem threadsPlan_actions (sequence : ShutdownSequence) :
    sequence.threadsPlan.filterMap action =
      if sequence.closing then [] else sequence.executorServices.flatMap fun executor =>
        [.shutdownNow executor, .awaitTermination executor] := by
  unfold threadsPlan
  cases sequence.closing with
  | true => rfl
  | false =>
    rw [if_neg Bool.false_ne_true, if_neg Bool.false_ne_true, List.filterMap_flatMap]
    rfl

theorem plan_actions (sequence : ShutdownSequence) : sequence.plan.filterMap action = sequence.wholeShutdown := by
  unfold plan wholeShutdown
  rw [List.filterMap_append, List.filterMap_append, List.filterMap_cons_none rfl, List.filterMap_append,
    List.filterMap_append, List.filterMap_append, List.filterMap_cons_none rfl, cancelPlan_actions, awaitPlan_actions,
    closePlan_actions, closePlan_actions, closePlan_actions, threadsPlan_actions, List.map_append, List.map_append]
  simp only [List.append_assoc]

/-- Whenever the thread that shuts down is interrupted, it has done the first part of the whole sequence, in its order.
    With an interrupt only while it waits for producers it does all of it. -/
theorem shutdown_interrupted (sequence : ShutdownSequence) (interrupts : ℕ → Bool) :
    (sequence.shutdown interrupts ⟨0, false, []⟩).2.done <+: sequence.wholeShutdown ∧
      ((∀ (count : ℕ) (point : ShutdownPoint), (sequence.plan.filter notices)[count]? = some point →
          interrupts count = true → ∃ action, point = .try_ action) →
        (sequence.shutdown interrupts ⟨0, false, []⟩).2.done = sequence.wholeShutdown) := by
  rw [shutdown_carriesOut, ← plan_actions]
  refine ⟨carryOut_begins 0 sequence.plan, fun lost => carryOut_whole ?_⟩
  intro count point found interrupted
  rw [Nat.zero_add] at interrupted
  exact lost count point found interrupted

end PerfTestProof
