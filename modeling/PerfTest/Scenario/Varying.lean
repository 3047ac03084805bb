import Mathlib.Logic.Function.Basic
import PerfTest.Systems.Combinations
import PerfTest.Systems.Documents

namespace PerfTestModel

open Systems

/-- The interface VariableValue, with the text of the value. Values are compared as objects. -/
structure VariableInterface (Value Params : Type) where
  getName : Value → String
  getValue : Value → String
  setup : Value → Params → Params
  teardown : Value → Params → Params

/-- The statistics objects are numbered as they are created. The latest entry of a map counts. -/
structure VaryingScenarioStats (Value : Type) where
  stats : List (List Value × ℕ)
  keys : List (List Value)
  created : ℕ
  deriving DecidableEq, Repr

/-- The runs of MulticastSet for a combination of values: the statistics object, and each of the parameters
    as it was set up. -/
structure CombinationRun (Value Params : Type) where
  values : List Value
  stats : ℕ
  params : List Params
  deriving DecidableEq, Repr

/-- `objects` has what the statistics objects hold, which is the same for all that are not in use. -/
structure VaryingScenario (Value Params Stats : Type) where
  params : List Params
  stats : VaryingScenarioStats Value
  objects : ℕ → Stats
  runs : List (CombinationRun Value Params)

structure VaryingResults (Content : Type) where
  dimensions : List String
  dimensionValues : List (String × List String)
  data : Document String Content

namespace VaryingScenarioStats

variable {Value Params Content : Type} [DecidableEq Value]

def next (value : List Value) (stats : VaryingScenarioStats Value) : ℕ × VaryingScenarioStats Value :=
  (stats.created, ⟨(value, stats.created) :: stats.stats, stats.keys ++ [value], stats.created + 1⟩)

def addDimensionValue (map : List (String × List String)) (element : String × String) : List (String × List String) :=
  let values := (map.lookup element.1).getD []
  if element.2 ∈ values then map else (element.1, values ++ [element.2]) :: map

def elements (interface : VariableInterface Value Params) (key : List Value) : List (String × String) :=
  key.map fun value => (interface.getName value, interface.getValue value)

/-- `results` of each statistics object is a map. Without any key, `keys.get(0)` throws. -/
def results (interface : VariableInterface Value Params) (resultsOf : ℕ → Document String Content)
    (stats : VaryingScenarioStats Value) : Option (VaryingResults Content) :=
  match stats.keys with
  | [] => none
  | first :: _ => do
    let data ← stats.keys.foldlM (fun data key => do
      let found ← stats.stats.lookup key
      Document.putAt (resultsOf found) (key.map interface.getValue) data) Document.empty
    return {
      dimensions := first.map interface.getName
      dimensionValues := stats.keys.foldl (fun map key => (elements interface key).foldl addDimensionValue map) []
      data := data }

end VaryingScenarioStats

namespace VaryingScenario

variable {Value Params Stats : Type}

def create (params : List Params) (newStats : Stats) : VaryingScenario Value Params Stats :=
  ⟨params, ⟨[], [], 0⟩, fun _ => newStats, []⟩

/-- The sets of a combination run one after the other, with one statistics object. The parameters are given
    as they were set up, and as they are left. -/
def runSets (interface : VariableInterface Value Params) (runSet : Params → Stats → Params × Stats)
    (values : List Value) : List Params → Stats → List Params × List Params × Stats
  | [], stats0 => ([], [], stats0)
  | params :: others, stats0 =>
    let started := values.foldl (fun params value => interface.setup value params) params
    let (ran, measured) := runSet started stats0
    let left := values.foldl (fun params value => interface.teardown value params) ran
    let (othersStarted, othersLeft, last) := runSets interface runSet values others measured
    (started :: othersStarted, left :: othersLeft, last)

def runCombination (interface : VariableInterface Value Params) (runSet : Params → Stats → Params × Stats)
    (values : List Value) (scenario : VaryingScenario Value Params Stats) : VaryingScenario Value Params Stats :=
  let (stats0, stats) := scenario.stats.next values
  let (started, params, measured) := runSets interface runSet values scenario.params (scenario.objects stats0)
  { params, stats
    objects := Function.update scenario.objects stats0 measured
    runs := scenario.runs ++ [⟨values, stats0, started⟩] }

def run (interface : VariableInterface Value Params) (runSet : Params → Stats → Params × Stats)
    (varying : List (List Value)) (scenario : VaryingScenario Value Params Stats) :
    VaryingScenario Value Params Stats :=
  nestedLoop (runCombination interface runSet) varying [] scenario

end VaryingScenario

end PerfTestModel
