import Mathlib.Data.List.Basic
import Mathlib.Data.Nat.Cast.Basic
import PerfTest.Java.Primitives

namespace PerfTestModel

/-- `defaultThreadPoolSize` is `DEFAULT_CONSUMER_WORK_SERVICE_THREAD_POOL_SIZE`, which depends on the machine. -/
structure ThreadPoolParams where
  consumerCount : ℕ
  consumerChannelCount : ℕ
  consumersThreadPools : ℤ
  polling : Bool
  defaultThreadPoolSize : ℤ
  deriving DecidableEq, Repr

structure ExecutorService where
  name : String
  nbThreads : ℤ
  deriving DecidableEq, Repr

abbrev ThreadingHandler := List ExecutorService

def nbThreadsForConsumer (params : ThreadPoolParams) : ℤ :=
  min params.consumerChannelCount params.defaultThreadPoolSize

namespace ThreadingHandler

def executorService (handler : ThreadingHandler) (name : String) (nbThreads : ℤ) : ℕ × ThreadingHandler :=
  (handler.length, handler ++ [⟨name, if nbThreads ≤ 0 then 1 else nbThreads⟩])

end ThreadingHandler

/-- The cache of a `CacheConsumersExecutorsFactory` is the only state of these. -/
inductive ConsumersExecutorsFactory
  | polling
  | caching (modulo : ℕ) (cache : List (Option ℕ))
  | notCaching
  deriving DecidableEq, Repr

def createConsumersExecutorsFactory (params : ThreadPoolParams) : ConsumersExecutorsFactory :=
  if params.polling then .polling
  else if 0 < params.consumersThreadPools then
    .caching params.consumersThreadPools.toNat (List.replicate params.consumersThreadPools.toNat none)
  else .notCaching

namespace ConsumersExecutorsFactory

def apply (params : ThreadPoolParams) (factory : ConsumersExecutorsFactory) (handler : ThreadingHandler)
    (consumerNumber : ℕ) : ℕ × ConsumersExecutorsFactory × ThreadingHandler :=
  match factory with
  | .polling =>
    let (executorService, handler) := handler.executorService
      s!"perf-test-synchronous-consumer-{consumerNumber}-worker-" (Java.int (params.consumerChannelCount + 1))
    (executorService, factory, handler)
  | .notCaching =>
    let (executorService, handler) := handler.executorService s!"perf-test-consumer-{consumerNumber}-worker-"
      (nbThreadsForConsumer params)
    (executorService, factory, handler)
  | .caching modulo cache =>
    let remaining := consumerNumber % modulo
    match cache[remaining]?.join with
    | some executorService => (executorService, factory, handler)
    | none =>
      let (executorService, handler) := handler.executorService s!"perf-test-shared-consumer-worker-{remaining}-"
        (nbThreadsForConsumer params)
      (executorService, .caching modulo (cache.set remaining (some executorService)), handler)

end ConsumersExecutorsFactory

structure ConsumerRunnable where
  consumerIndex : ℕ
  connection : ℕ
  executorService : ℕ
  deriving DecidableEq, Repr

structure ConsumersCreation where
  consumerIndex : ℕ
  consumersExecutorsFactory : ConsumersExecutorsFactory
  threadingHandler : ThreadingHandler
  consumerRunnables : List (Option ConsumerRunnable)
  consumerConnections : List (Option ℕ)
  deriving DecidableEq, Repr

/-- `array[index] = value`, with `none` for the ArrayIndexOutOfBoundsException. -/
def assign {Value : Type} (array : List (Option Value)) (index : ℤ) (value : Value) : Option (List (Option Value)) :=
  if 0 ≤ index ∧ index < array.length then some (array.set index.toNat (some value)) else none

namespace ThreadPoolParams

variable (params : ThreadPoolParams)

def createChannelConsumer (i executorService : ℕ) (creation : ConsumersCreation) (j : ℕ) :
    Option ConsumersCreation := do
  let consumerRunnables ← assign creation.consumerRunnables
    (Java.int (Java.int (i * params.consumerChannelCount) + j)) ⟨creation.consumerIndex, i, executorService⟩
  return { creation with consumerIndex := creation.consumerIndex + 1, consumerRunnables }

/-- The connections are made without an exception. -/
def createConnectionConsumers (creation : ConsumersCreation) (i : ℕ) : Option ConsumersCreation := do
  let (executorService, consumersExecutorsFactory, threadingHandler) :=
    creation.consumersExecutorsFactory.apply params creation.threadingHandler i
  let consumerConnections ← assign creation.consumerConnections i i
  (List.range params.consumerChannelCount).foldlM (params.createChannelConsumer i executorService)
    { creation with consumersExecutorsFactory, threadingHandler, consumerConnections }

/-- `none` also for a NegativeArraySizeException. -/
def createConsumers (threadingHandler : ThreadingHandler) : Option ConsumersCreation :=
  let consumerThreadCount := Java.int (params.consumerCount * params.consumerChannelCount)
  if consumerThreadCount < 0 then none
  else
    (List.range params.consumerCount).foldlM params.createConnectionConsumers
      ⟨0, createConsumersExecutorsFactory params, threadingHandler, List.replicate consumerThreadCount.toNat none,
        List.replicate params.consumerCount none⟩

def poolOf (connection : ℕ) : ℕ :=
  if params.polling then connection
  else if 0 < params.consumersThreadPools then connection % params.consumersThreadPools.toNat
  else connection

def poolCount (connections : ℕ) : ℕ :=
  if params.polling then connections
  else if 0 < params.consumersThreadPools then min connections params.consumersThreadPools.toNat
  else connections

end ThreadPoolParams

end PerfTestModel

open PerfTestModel

namespace PerfTestProof

theorem foldlM_range_some {State : Type} {body : State → ℕ → Option State} {count : ℕ} (kept : ℕ → State → Prop)
    (each : ∀ index < count, ∀ state, kept index state → ∃ next, body state index = some next ∧ kept (index + 1) next)
    {state : State} (initial : kept 0 state) :
    ∃ final, (List.range count).foldlM body state = some final ∧ kept count final := by
  induction count with
  | zero => exact ⟨state, rfl, initial⟩
  | succ count ih =>
    obtain ⟨middle, first, still⟩ := ih fun index less => each index (Nat.lt_succ_of_lt less)
    obtain ⟨final, last, holds⟩ := each count (Nat.lt_succ_self count) middle still
    refine ⟨final, ?_, holds⟩
    rw [List.range_succ, List.foldlM_append, first]
    change (body middle count).bind _ = _
    rw [last]
    rfl

def filled {Value : Type} (value : ℕ → Value) (size position : ℕ) : List (Option Value) :=
  (List.range position).map (fun index => some (value index)) ++ List.replicate (size - position) none

theorem assign_filled {Value : Type} (value : ℕ → Value) {size position : ℕ} (less : position < size) :
    assign (filled value size position) position (value position) = some (filled value size (position + 1)) := by
  have length : (filled value size position).length = size := by
    rw [filled, List.length_append, List.length_map, List.length_range, List.length_replicate]
    omega
  rw [assign, if_pos (by omega), Int.toNat_natCast, filled, List.set_append_right _ _ (by simp), List.length_map,
    List.length_range, Nat.sub_self]
  obtain ⟨rest, rest_eq⟩ : ∃ rest, size - position = rest + 1 := ⟨size - position - 1, by omega⟩
  rw [rest_eq, List.replicate_succ, List.set_cons_zero, filled, List.range_succ, List.map_append, List.append_assoc,
    show size - (position + 1) = rest by omega]
  rfl

def cacheAt (base modulo i : ℕ) : List (Option ℕ) :=
  (List.range modulo).map fun pool => if pool < i then some (base + pool) else none

theorem cacheAt_getElem? {base modulo i pool : ℕ} (less : pool < modulo) :
    (cacheAt base modulo i)[pool]?.join = if pool < i then some (base + pool) else none := by
  rw [cacheAt, List.getElem?_map, List.getElem?_range less]
  rfl

theorem cacheAt_full {base modulo i : ℕ} (beyond : modulo ≤ i) :
    cacheAt base modulo (i + 1) = cacheAt base modulo i := by
  apply List.map_congr_left
  intro pool member
  have inside := List.mem_range.mp member
  rw [if_pos (by omega), if_pos (by omega)]

theorem cacheAt_set {base modulo i : ℕ} (less : i < modulo) :
    (cacheAt base modulo i).set i (some (base + i)) = cacheAt base modulo (i + 1) := by
  apply List.ext_getElem?
  intro pool
  by_cases same : i = pool
  · subst same
    rw [List.getElem?_set_self (by simp [cacheAt, less]), cacheAt, List.getElem?_map, List.getElem?_range less]
    simp
  · rw [List.getElem?_set_ne same, cacheAt, cacheAt, List.getElem?_map, List.getElem?_map]
    by_cases inside : pool < modulo
    · have same_side : pool < i ↔ pool < i + 1 := by omega
      simp only [List.getElem?_range inside, Option.map_some, same_side]
    · rw [List.getElem?_eq_none (by simpa using inside)]
      rfl

variable {params : ThreadPoolParams} {base handler : ThreadingHandler} {factory : ConsumersExecutorsFactory} {i : ℕ}

structure PoolsMade (params : ThreadPoolParams) (base : ThreadingHandler) (i : ℕ) (factory : ConsumersExecutorsFactory)
    (handler : ThreadingHandler) : Prop where
  extends_ : base <+: handler
  length_eq : handler.length = base.length + params.poolCount i
  factory_eq : factory =
    if params.polling then .polling
    else if 0 < params.consumersThreadPools then
      .caching params.consumersThreadPools.toNat (cacheAt base.length params.consumersThreadPools.toNat i)
    else .notCaching

theorem PoolsMade.apply (made : PoolsMade params base i factory handler) :
    ∃ next later, factory.apply params handler i = (base.length + params.poolOf i, next, later) ∧
      PoolsMade params base (i + 1) next later := by
  obtain ⟨extends_, length_eq, rfl⟩ := made
  have longer : ∀ service : ExecutorService, base <+: handler ++ [service] :=
    fun service => extends_.trans (List.prefix_append _ _)
  unfold ThreadPoolParams.poolCount at length_eq
  by_cases polling : params.polling = true
  · rw [if_pos polling] at length_eq ⊢
    refine ⟨_, _, by rw [ThreadPoolParams.poolOf, if_pos polling, ← length_eq]; rfl, longer _, ?_, ?_⟩
    · rw [ThreadPoolParams.poolCount, if_pos polling, List.length_append, length_eq]
      rfl
    · rw [if_pos polling]
  · by_cases pools : 0 < params.consumersThreadPools
    · rw [if_neg polling, if_pos pools] at length_eq ⊢
      have several : 0 < params.consumersThreadPools.toNat := by omega
      have pool_eq : params.poolOf i = i % params.consumersThreadPools.toNat := by
        rw [ThreadPoolParams.poolOf, if_neg polling, if_pos pools]
      simp only [ConsumersExecutorsFactory.apply, cacheAt_getElem? (Nat.mod_lt i several), pool_eq]
      by_cases first : i < params.consumersThreadPools.toNat
      · rw [Nat.mod_eq_of_lt first, if_neg (Nat.lt_irrefl i)]
        rw [Nat.min_eq_left (Nat.le_of_lt first)] at length_eq
        refine ⟨_, _, by rw [← length_eq]; rfl, longer _, ?_, ?_⟩
        · rw [ThreadPoolParams.poolCount, if_neg polling, if_pos pools, List.length_append, length_eq,
            Nat.min_eq_left first]
          rfl
        · rw [if_neg polling, if_pos pools, ← cacheAt_set first, ← length_eq]
          rfl
      · have beyond := not_lt.mp first
        rw [if_pos (Nat.lt_of_lt_of_le (Nat.mod_lt i several) beyond)]
        refine ⟨_, _, rfl, extends_, ?_, ?_⟩
        · rw [ThreadPoolParams.poolCount, if_neg polling, if_pos pools, length_eq]
          omega
        · rw [if_neg polling, if_pos pools, cacheAt_full beyond]
    · rw [if_neg polling, if_neg pools] at length_eq ⊢
      refine ⟨_, _, by rw [ThreadPoolParams.poolOf, if_neg polling, if_neg pools, ← length_eq]; rfl, longer _, ?_, ?_⟩
      · rw [ThreadPoolParams.poolCount, if_neg polling, if_neg pools, List.length_append, length_eq]
        rfl
      · rw [if_neg polling, if_neg pools]

def slotRunnable (params : ThreadPoolParams) (base : ThreadingHandler) (slot : ℕ) : ConsumerRunnable :=
  ⟨slot, slot / params.consumerChannelCount, base.length + params.poolOf (slot / params.consumerChannelCount)⟩

structure ConsumersCreated (params : ThreadPoolParams) (base : ThreadingHandler) (i : ℕ)
    (creation : ConsumersCreation) : Prop where
  made : PoolsMade params base i creation.consumersExecutorsFactory creation.threadingHandler
  index_eq : creation.consumerIndex = i * params.consumerChannelCount
  runnables_eq : creation.consumerRunnables = filled (slotRunnable params base)
    (params.consumerCount * params.consumerChannelCount) (i * params.consumerChannelCount)
  connections_eq : creation.consumerConnections = filled id params.consumerCount i

def slotsFilled (params : ThreadPoolParams) (base : ThreadingHandler) (creation : ConsumersCreation) (slot : ℕ) :
    ConsumersCreation :=
  { creation with
    consumerIndex := slot
    consumerRunnables := filled (slotRunnable params base) (params.consumerCount * params.consumerChannelCount) slot }

theorem createChannelConsumers (creation : ConsumersCreation)
    (fits : params.consumerCount * params.consumerChannelCount < 2 ^ 31) (less : i < params.consumerCount) :
    (List.range params.consumerChannelCount).foldlM
        (params.createChannelConsumer i (base.length + params.poolOf i))
        (slotsFilled params base creation (i * params.consumerChannelCount)) =
      some (slotsFilled params base creation ((i + 1) * params.consumerChannelCount)) := by
  have rounds : (i + 1) * params.consumerChannelCount ≤ params.consumerCount * params.consumerChannelCount :=
    Nat.mul_le_mul_right _ less
  rw [Nat.succ_mul] at rounds ⊢
  suffices looped : ∃ final, (List.range params.consumerChannelCount).foldlM
      (params.createChannelConsumer i (base.length + params.poolOf i))
      (slotsFilled params base creation (i * params.consumerChannelCount)) = some final ∧
        final = slotsFilled params base creation (i * params.consumerChannelCount + params.consumerChannelCount) by
    obtain ⟨final, executed, rfl⟩ := looped
    exact executed
  refine foldlM_range_some
    (fun (j : ℕ) state => state = slotsFilled params base creation (i * params.consumerChannelCount + j)) ?_ rfl
  rintro j inside state rfl
  have slot_less : i * params.consumerChannelCount + j < params.consumerCount * params.consumerChannelCount := by omega
  have first_int : Java.int ((i : ℤ) * params.consumerChannelCount) = ((i * params.consumerChannelCount : ℕ) : ℤ) := by
    rw [← Nat.cast_mul]
    exact Java.int_eq_self.mpr (by omega)
  have slot_int : Java.int (Java.int ((i : ℤ) * params.consumerChannelCount) + j) =
      ((i * params.consumerChannelCount + j : ℕ) : ℤ) := by
    rw [first_int, ← Nat.cast_add]
    exact Java.int_eq_self.mpr (by omega)
  have own : (i * params.consumerChannelCount + j) / params.consumerChannelCount = i := by
    rw [Nat.mul_comm, Nat.mul_add_div (by omega), Nat.div_eq_of_lt inside, Nat.add_zero]
  have assigned := assign_filled (slotRunnable params base) slot_less
  rw [slotRunnable, own] at assigned
  refine ⟨_, ?_, rfl⟩
  simp only [ThreadPoolParams.createChannelConsumer, slotsFilled, slot_int, assigned]
  rfl

theorem ConsumersCreated.next {creation : ConsumersCreation}
    (fits : params.consumerCount * params.consumerChannelCount < 2 ^ 31) (less : i < params.consumerCount)
    (created : ConsumersCreated params base i creation) :
    ∃ next, params.createConnectionConsumers creation i = some next ∧ ConsumersCreated params base (i + 1) next := by
  obtain ⟨made, index_eq, runnables_eq, connections_eq⟩ := created
  obtain ⟨factory, handler, applied, made⟩ := made.apply
  have connections : assign creation.consumerConnections i i = some (filled id params.consumerCount (i + 1)) := by
    rw [connections_eq]
    exact assign_filled id less
  set connected : ConsumersCreation := { creation with
    consumersExecutorsFactory := factory
    threadingHandler := handler
    consumerConnections := filled id params.consumerCount (i + 1) } with connected_eq
  have start : connected = slotsFilled params base connected (i * params.consumerChannelCount) := by
    rw [slotsFilled, ← runnables_eq, ← index_eq]
  refine ⟨slotsFilled params base connected ((i + 1) * params.consumerChannelCount), ?_, made, rfl, rfl, rfl⟩
  rw [ThreadPoolParams.createConnectionConsumers, applied]
  simp only [connections, Option.bind_eq_bind, Option.bind_some]
  rw [← connected_eq, start]
  exact createChannelConsumers connected fits less

end PerfTestProof
