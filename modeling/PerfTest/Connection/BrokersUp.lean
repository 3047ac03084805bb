import Mathlib.Data.List.Perm.Subperm
import PerfTest.Java.Primitives
import PerfTest.Systems.Attempts

namespace PerfTestModel

open Systems

structure Address where
  host : String
  port : ℤ
  deriving DecidableEq, Repr

inductive ConnectionAllocation where
  | random
  | roundRobin
  deriving DecidableEq, Repr

structure ConnectionPass where
  elapsed : ℤ
  up : ℕ → Bool

inductive PassOutcome where
  | enough (connected : List String)
  | again (tested connected : List String)
  deriving DecidableEq, Repr

structure ConnectionCall where
  name : String
  addresses : List Address
  opened : Bool
  deriving DecidableEq, Repr

structure ConnectionCreator where
  factory : Address
  addresses : List Address
  connectionAllocation : ConnectionAllocation
  allocationCount : ℤ
  deriving DecidableEq, Repr

structure Shuffle where
  order : ℕ → List Address → List Address
  perm : ∀ turn addresses, (order turn addresses).Perm addresses

structure MulticastSet where
  uris : List String
  connectionCreator : ConnectionCreator
  deriving DecidableEq, Repr

def testPass (serversUpLimit : ℤ) (up : ℕ → Bool) : ℕ → List String → List String → PassOutcome
  | _, [], connected => .again [] connected
  | position, uri :: rest, connected =>
    if up position then
      if ((connected ++ [uri]).length : ℤ) = serversUpLimit then .enough (connected ++ [uri])
      else testPass serversUpLimit up (position + 1) rest (connected ++ [uri])
    else match testPass serversUpLimit up (position + 1) rest connected with
      | .enough connected => .enough connected
      | .again tested connected => .again (uri :: tested) connected

/-- The result and the URIs that are left in the collection, once it returns. -/
def waitForBrokers (startUpTimeout serversUpLimit : ℤ) (uris : List String) :
    List ConnectionPass → List String → List String → Option (Bool × List String)
  | [], _, _ => none
  | pass :: passes, tested, connected =>
    if pass.elapsed < startUpTimeout then
      match testPass serversUpLimit pass.up 0 tested connected with
      | .enough connected => some (true, connected)
      | .again tested connected => waitForBrokers startUpTimeout serversUpLimit uris passes tested connected
    else some (false, uris)

def waitUntilBrokerAvailableIfNecessary (startUpTimeout serversUpLimit : ℤ) (passes : List ConnectionPass)
    (uris : List String) : Option (Bool × List String) :=
  if startUpTimeout ≤ 0 ∨ uris = [] then some (true, uris)
  else waitForBrokers startUpTimeout serversUpLimit uris passes uris []

namespace ConnectionCreator

variable (accepts : ℕ → List Address → Bool) (shuffle : Shuffle)

def create (extract : String → Option Address) (factory : Address) (uris : List String)
    (connectionAllocation : ConnectionAllocation) : Option ConnectionCreator := do
  let addresses ← uris.mapM extract
  return ⟨factory, addresses, connectionAllocation, 0⟩

/-- `l.get` throws at a negative index, once the count has overflowed. -/
def allocate (turn : ℕ) (creator : ConnectionCreator) : Option (List Address × ConnectionCreator) :=
  match creator.connectionAllocation with
  | .random =>
    some (if 1 < creator.addresses.length then shuffle.order turn creator.addresses else creator.addresses, creator)
  | .roundRobin =>
    let index := creator.allocationCount.tmod creator.addresses.length
    if index < 0 then none
    else (creator.addresses[index.toNat]?).map fun address =>
      ([address], { creator with allocationCount := Java.int (creator.allocationCount + 1) })

/-- `accepts` says whether a call opens a connection. The calls of a run are numbered. -/
def createConnection (turn : ℕ) (name : String) (creator : ConnectionCreator) :
    Option (ConnectionCall × ConnectionCreator) :=
  if creator.addresses = [] then some (⟨name, [creator.factory], accepts turn [creator.factory]⟩, creator)
  else (creator.allocate shuffle turn).map fun allocated =>
    (⟨name, allocated.1, accepts turn allocated.1⟩, allocated.2)

def createConfigurationConnections (creator : ConnectionCreator) : List ConnectionCall :=
  let addresses := if creator.addresses = [] then [creator.factory] else creator.addresses
  (tryInTurn (fun turn address => accepts turn [address]) 0 addresses).zipIdx.map fun attempt =>
    ⟨"perf-test-configuration-" ++ toString attempt.2, [attempt.1.1], attempt.1.2⟩

def createConnections : ℕ → ConnectionCreator → List String → List ConnectionCall
  | _, _, [] => []
  | turn, creator, name :: names =>
    match creator.createConnection accepts shuffle turn name with
    | none => []
    | some (call, next) => call :: if call.opened then createConnections (turn + 1) next names else []

end ConnectionCreator

namespace MulticastSet

def create (extract : String → Option Address) (factory : Address) (uris : List String)
    (connectionAllocation : ConnectionAllocation) : Option MulticastSet := do
  let connectionCreator ← ConnectionCreator.create extract factory uris connectionAllocation
  return ⟨uris, connectionCreator⟩

def upLimit (serversUpLimit : ℤ) (set : MulticastSet) : ℤ :=
  if serversUpLimit = -1 then set.uris.length else serversUpLimit

def run (startUpTimeout serversUpLimit : ℤ) (passes : List ConnectionPass) (accepts : ℕ → List Address → Bool)
    (shuffle : Shuffle) (names : List String) (set : MulticastSet) : Option (MulticastSet × List ConnectionCall) := do
  let waited ← waitUntilBrokerAvailableIfNecessary startUpTimeout (set.upLimit serversUpLimit) passes set.uris
  let configuration := set.connectionCreator.createConfigurationConnections accepts
  let others := set.connectionCreator.createConnections accepts shuffle configuration.length names
  let calls := if configuration.all (·.opened) then configuration ++ others else configuration
  return (⟨waited.2, set.connectionCreator⟩, if waited.1 then calls else [])

end MulticastSet

end PerfTestModel

namespace PerfTestProof

open PerfTestModel Systems ConnectionCreator

def TargetsOnly (allowed : List Address) (calls : List ConnectionCall) : Prop :=
  ∀ call ∈ calls, ∀ address ∈ call.addresses, address ∈ allowed

section

variable {serversUpLimit startUpTimeout : ℤ} {tested connected uris retained : List String}

def PassKeeps (serversUpLimit : ℤ) (uris : List String) : PassOutcome → Prop
  | .enough connected => (connected.length : ℤ) = serversUpLimit ∧ connected.Subperm uris
  | .again tested connected => (connected ++ tested).Perm uris

theorem testPass_keeps (serversUpLimit : ℤ) (up : ℕ → Bool) (position : ℕ) (tested connected : List String) :
    PassKeeps serversUpLimit (connected ++ tested) (testPass serversUpLimit up position tested connected) := by
  induction tested generalizing position connected with
  | nil => exact List.Perm.refl _
  | cons uri rest ih =>
    rw [testPass]
    split
    · rw [List.append_cons]
      split
      · rename_i limit
        exact ⟨limit, (List.sublist_append_left _ _).subperm⟩
      · exact ih (position + 1) _
    · have later := ih (position + 1) connected
      split
      · rename_i enough same
        rw [same] at later
        exact ⟨later.1, later.2.trans ((List.sublist_cons_self uri rest).append_left connected).subperm⟩
      · rename_i left more same
        rw [same] at later
        have front : (more ++ uri :: left).Perm (uri :: (connected ++ rest)) := List.perm_middle.trans (later.cons uri)
        exact front.trans List.perm_middle.symm

theorem waitForBrokers_retained {passes : List ConnectionPass} (perm : (connected ++ tested).Perm uris)
    (waited : waitForBrokers startUpTimeout serversUpLimit uris passes tested connected = some (true, retained)) :
    (retained.length : ℤ) = serversUpLimit ∧ retained.Subperm uris := by
  induction passes generalizing tested connected with
  | nil => cases waited
  | cons pass passes ih =>
    rw [waitForBrokers] at waited
    split at waited
    · have keeps := testPass_keeps serversUpLimit pass.up 0 tested connected
      split at waited
      · rename_i enough same
        rw [same] at keeps
        cases waited
        exact ⟨keeps.1, keeps.2.trans perm.subperm⟩
      · rename_i left more same
        rw [same] at keeps
        exact ih (keeps.trans perm) waited
    · cases waited

theorem retained_of_wait {passes : List ConnectionPass} (timeout : 0 < startUpTimeout) (listed : uris ≠ [])
    (waited : waitUntilBrokerAvailableIfNecessary startUpTimeout serversUpLimit passes uris = some (true, retained)) :
    (retained.length : ℤ) = serversUpLimit ∧ retained.Subperm uris := by
  rw [waitUntilBrokerAvailableIfNecessary, if_neg (by simp [listed, timeout])] at waited
  exact waitForBrokers_retained (List.Perm.refl _) waited

end

section

variable {extract : String → Option Address} {uris retained : List String} {addresses allowed : List Address}
  {accepts : ℕ → List Address → Bool} {shuffle : Shuffle} {creator next : ConnectionCreator}

theorem allocate_some {turn : ℕ} (allocated : creator.allocate shuffle turn = some (addresses, next)) :
    (∀ address ∈ addresses, address ∈ creator.addresses) ∧ next.addresses = creator.addresses := by
  unfold allocate at allocated
  split at allocated
  · cases allocated
    refine ⟨fun address listed => ?_, rfl⟩
    split at listed
    · exact (shuffle.perm _ _).mem_iff.mp listed
    · exact listed
  · simp only at allocated
    split at allocated
    · cases allocated
    · obtain ⟨address, found, same⟩ := Option.map_eq_some_iff.mp allocated
      cases same
      exact ⟨List.forall_mem_singleton.mpr (List.mem_of_getElem? found), rfl⟩

theorem createConnections_targets (some_ : creator.addresses ≠ []) (turn : ℕ) (names : List String) :
    TargetsOnly creator.addresses (creator.createConnections accepts shuffle turn names) := by
  induction names generalizing turn creator with
  | nil => exact fun _ listed => absurd listed List.not_mem_nil
  | cons name names ih =>
    rw [createConnections]
    split
    · exact fun _ listed => absurd listed List.not_mem_nil
    · rename_i call next created
      rw [createConnection, if_neg some_] at created
      obtain ⟨allocated, found, same⟩ := Option.map_eq_some_iff.mp created
      cases same
      obtain ⟨targets, kept⟩ := allocate_some found
      refine List.forall_mem_cons.mpr ⟨targets, ?_⟩
      split
      · have others := ih (kept ▸ some_) (turn + 1)
        rwa [kept] at others
      · exact fun _ listed => absurd listed List.not_mem_nil

theorem forall_configuration (accepts : ℕ → List Address → Bool) (some_ : creator.addresses ≠ [])
    (meets : List Address → Bool → Prop) :
    (∀ call ∈ creator.createConfigurationConnections accepts, meets call.addresses call.opened) ↔
      ∀ attempt ∈ tryInTurn (fun turn address => accepts turn [address]) 0 creator.addresses,
        meets [attempt.1] attempt.2 := by
  rw [createConfigurationConnections, if_neg some_, List.forall_mem_map]
  constructor
  · intro all attempt listed
    rw [← List.zipIdx_map_fst 0 (tryInTurn _ 0 creator.addresses)] at listed
    obtain ⟨numbered, inAttempts, rfl⟩ := List.mem_map.mp listed
    exact all numbered inAttempts
  · intro all numbered listed
    exact all numbered.1 (List.fst_mem_of_mem_zipIdx listed)

/-- Of all calls of a run, those that are refused may fail another condition. -/
theorem targets_iff {failed : Address → Prop} {turn : ℕ} {names : List String} {calls : List ConnectionCall}
    (some_ : creator.addresses ≠ []) (weaker : ∀ address ∈ allowed, failed address)
    (all : calls = creator.createConfigurationConnections accepts ++
      if (creator.createConfigurationConnections accepts).all (·.opened) then
        creator.createConnections accepts shuffle turn names else []) :
    (∀ call ∈ calls, ∀ address ∈ call.addresses, if call.opened then address ∈ allowed else failed address) ↔
      (∀ address ∈ creator.addresses, address ∈ allowed) ∨
        StopsAt (fun turn address => accepts turn [address]) (· ∈ allowed) failed 0 creator.addresses := by
  have configuration := forall_configuration accepts some_ fun addresses opened =>
    ∀ address ∈ addresses, if opened then address ∈ allowed else failed address
  simp only [List.forall_mem_singleton] at configuration
  rw [← tryInTurn_iff weaker, ← configuration, all, List.forall_mem_append]
  refine and_iff_left_of_imp fun targets => ?_
  split
  · rename_i opened
    have succeed := (forall_configuration accepts some_ fun _ opened => opened = true).mp
      (List.all_eq_true.mp opened)
    have passed (address : Address) (listed : address ∈ creator.addresses) : address ∈ allowed := by
      rw [← tryInTurn_of_succeed succeed] at listed
      obtain ⟨attempt, tried, rfl⟩ := List.mem_map.mp listed
      have meets := configuration.mp targets attempt tried
      rwa [if_pos (succeed attempt tried)] at meets
    intro call made address target
    have known := passed address (createConnections_targets some_ turn names call made address target)
    split
    · exact known
    · exact weaker address known
  · exact fun _ listed => absurd listed List.not_mem_nil

theorem run_calls {startUpTimeout serversUpLimit : ℤ} {passes : List ConnectionPass} {names : List String}
    {set : MulticastSet} (waited : waitUntilBrokerAvailableIfNecessary startUpTimeout (set.upLimit serversUpLimit)
      passes set.uris = some (true, retained)) :
    set.run startUpTimeout serversUpLimit passes accepts shuffle names =
      some (⟨retained, set.connectionCreator⟩, set.connectionCreator.createConfigurationConnections accepts ++
        if (set.connectionCreator.createConfigurationConnections accepts).all (·.opened) then
          set.connectionCreator.createConnections accepts shuffle
            (set.connectionCreator.createConfigurationConnections accepts).length names
        else []) := by
  rw [MulticastSet.run, waited]
  simp only [Option.bind_eq_bind, Option.bind_some, if_true, Option.pure_def]
  split
  · rfl
  · rw [List.append_nil]

theorem length_of_mapM (parsed : uris.mapM extract = some addresses) : addresses.length = uris.length := by
  induction uris generalizing addresses with
  | nil =>
    cases parsed
    rfl
  | cons uri uris ih =>
    rw [List.mapM_cons] at parsed
    obtain ⟨address, _, others⟩ := Option.bind_eq_some_iff.mp parsed
    obtain ⟨rest, found, same⟩ := Option.bind_eq_some_iff.mp others
    cases same
    rw [List.length_cons, List.length_cons, ih found]

theorem exists_not_retained (distinct : addresses.Nodup) (parsed : uris.mapM extract = some addresses)
    (fewer : retained.length < uris.length) : ∃ address ∈ addresses, address ∉ retained.filterMap extract := by
  by_contra none
  push Not at none
  have most := (distinct.subperm none).length_le
  have kept := List.length_filterMap_le extract retained
  rw [length_of_mapM parsed] at most
  omega

/-- All calls, and those that open a connection, target only the addresses of retained URIs when all addresses are
    among these, or when the configuration connections stop in time. -/
theorem only_brokers_up_iff (extract : String → Option Address) (factory : Address) (uris retained names : List String)
    (allocation : ConnectionAllocation) (accepts : ℕ → List Address → Bool) (shuffle : Shuffle)
    (startUpTimeout serversUpLimit : ℤ) (passes : List ConnectionPass) (set after : MulticastSet)
    (calls : List ConnectionCall) (created : MulticastSet.create extract factory uris allocation = some set)
    (timeout : 0 < startUpTimeout) (listed : uris ≠ []) (fewer : set.upLimit serversUpLimit < uris.length)
    (waited : waitUntilBrokerAvailableIfNecessary startUpTimeout (set.upLimit serversUpLimit) passes uris =
      some (true, retained))
    (ran : set.run startUpTimeout serversUpLimit passes accepts shuffle names = some (after, calls)) :
    (TargetsOnly (retained.filterMap extract) calls ↔
        (∀ address ∈ set.connectionCreator.addresses, address ∈ retained.filterMap extract) ∨
          StopsAt (fun turn address => accepts turn [address]) (· ∈ retained.filterMap extract)
            (· ∈ retained.filterMap extract) 0 set.connectionCreator.addresses) ∧
      (TargetsOnly (retained.filterMap extract) (calls.filter (·.opened)) ↔
        (∀ address ∈ set.connectionCreator.addresses, address ∈ retained.filterMap extract) ∨
          StopsAt (fun turn address => accepts turn [address]) (· ∈ retained.filterMap extract) (fun _ => True) 0
            set.connectionCreator.addresses) ∧
      (set.connectionCreator.addresses.Nodup →
        ∃ address ∈ set.connectionCreator.addresses, address ∉ retained.filterMap extract) := by
  obtain ⟨creator, creation, same⟩ := Option.bind_eq_some_iff.mp created
  cases same
  obtain ⟨addresses, parsed, same⟩ := Option.bind_eq_some_iff.mp creation
  have extracted : creator.addresses = addresses := by cases same; rfl
  have some_ : creator.addresses ≠ [] := by
    rw [extracted, ← List.length_pos_iff, length_of_mapM parsed, List.length_pos_iff]
    exact listed
  have made := Option.some.inj ((run_calls waited).symm.trans ran)
  have all := (Prod.ext_iff.mp made).2.symm
  refine ⟨?_, ?_, fun distinct => ?_⟩
  · refine Iff.trans ?_ (targets_iff some_ (fun _ kept => kept) all)
    simp only [TargetsOnly, ite_self]
  · refine Iff.trans ?_ (targets_iff some_ (fun _ _ => True.intro) all)
    simp only [TargetsOnly, List.mem_filter, and_imp]
    refine forall₂_congr fun call made => ?_
    cases call.opened with
    | true => simp only [if_true, true_implies]
    | false => simp only [Bool.false_eq_true, if_false, false_implies, implies_true]
  · rw [extracted] at distinct ⊢
    have limit := (retained_of_wait timeout listed waited).1
    exact exists_not_retained distinct parsed (by omega)

end

def hostOf (uri : String) : Option Address := some ⟨(uri.drop 7).toString, 5672⟩

def inOrder : Shuffle := ⟨fun _ addresses => addresses, fun _ _ => .refl _⟩

def brokerA : Address := ⟨"a", 5672⟩

def brokerB : Address := ⟨"b", 5672⟩

def twoBrokers (allocation : ConnectionAllocation) : MulticastSet :=
  ⟨["amqp://a", "amqp://b"], ⟨⟨"localhost", 5672⟩, [brokerA, brokerB], allocation, 0⟩⟩

def onlyFirst : ConnectionPass := ⟨0, fun position => position == 0⟩

def callsAfterWait (allocation : ConnectionAllocation) (accepts : ℕ → List Address → Bool) : List ConnectionCall :=
  (((twoBrokers allocation).run 10 1 [onlyFirst] accepts inOrder ["producer-0", "producer-1"]).map Prod.snd).getD []

instance (allowed : List Address) (calls : List ConnectionCall) : Decidable (TargetsOnly allowed calls) :=
  inferInstanceAs (Decidable (∀ call ∈ calls, ∀ address ∈ call.addresses, address ∈ allowed))

/-- The wait retains the broker a. Connections to b are tried, and are opened when it has come up. -/
theorem not_retained_but_used :
    MulticastSet.create hostOf ⟨"localhost", 5672⟩ ["amqp://a", "amqp://b"] .roundRobin =
        some (twoBrokers .roundRobin) ∧
      waitUntilBrokerAvailableIfNecessary 10 1 [onlyFirst] ["amqp://a", "amqp://b"] = some (true, ["amqp://a"]) ∧
      callsAfterWait .roundRobin (fun _ _ => true) =
        [⟨"perf-test-configuration-0", [brokerA], true⟩, ⟨"perf-test-configuration-1", [brokerB], true⟩,
          ⟨"producer-0", [brokerA], true⟩, ⟨"producer-1", [brokerB], true⟩] ∧
      ¬ TargetsOnly [brokerA] ((callsAfterWait .roundRobin fun _ _ => true).filter (·.opened)) ∧
      ¬ TargetsOnly [brokerA] (callsAfterWait .roundRobin fun _ addresses => brokerA ∈ addresses) := by
  decide +kernel

/-- When a is down again, the run ends before b is tried. -/
theorem down_again : TargetsOnly [brokerA] (callsAfterWait .random fun _ _ => false) :=
  (only_brokers_up_iff hostOf ⟨"localhost", 5672⟩ ["amqp://a", "amqp://b"] ["amqp://a"] ["producer-0", "producer-1"]
    .random (fun _ _ => false) inOrder 10 1 [onlyFirst] (twoBrokers .random)
    ⟨["amqp://a"], (twoBrokers .random).connectionCreator⟩ [⟨"perf-test-configuration-0", [brokerA], false⟩]
    (by decide +kernel) (by decide) (by decide) (by decide) (by decide +kernel) (by decide +kernel)).1.mpr
    (.inr ⟨[], brokerA, [brokerB], rfl, rfl, List.forall_mem_nil _, by decide +kernel⟩)

end PerfTestProof
