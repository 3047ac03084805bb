import PerfTest.Scenario.Varying

namespace PerfTestProof

open PerfTestModel Systems VaryingScenarioStats VaryingScenario

structure NamedVariable {Value Params : Type} (interface : VariableInterface Value Params) where
  name : String
  values : List Value
  named : ∀ value ∈ values, interface.getName value = name
  nonempty : values ≠ []
  printed : (values.map interface.getValue).Nodup

structure RunsAll {Value Params : Type} (varying : List (List Value)) (runs : List (CombinationRun Value Params)) :
    Prop where
  every : ∀ choice, choice ∈ runs.map (·.values) ↔ List.Forall₂ (· ∈ ·) choice varying
  once : (runs.map (·.values)).Nodup
  ordered : (runs.map (·.values)).Pairwise (Precedes varying)
  own : (runs.map (·.stats)).Nodup

/-- The sets of a combination run one after the other: each on its parameters with the values set up, and with the
    statistics object as the set before left it. What a set leaves of its parameters is torn down. -/
inductive RunsSets {Value Params Stats : Type} (interface : VariableInterface Value Params)
    (runSet : Params → Stats → Params × Stats) (values : List Value) :
    List Params → Stats → List Params → List Params → Stats → Prop where
  | done (stats : Stats) : RunsSets interface runSet values [] stats [] [] stats
  | next {params ran : Params} {others started left : List Params} {stats measured last : Stats} :
      runSet (values.foldl (fun params value => interface.setup value params) params) stats = (ran, measured) →
      RunsSets interface runSet values others measured started left last →
      RunsSets interface runSet values (params :: others) stats
        (values.foldl (fun params value => interface.setup value params) params :: started)
        (values.foldl (fun params value => interface.teardown value params) ran :: left) last

/-- From these parameters on, each run sets its values up over what the one before left, and its statistics object,
    which was new, has what its sets measured. -/
inductive RunsFrom {Value Params Stats : Type} (interface : VariableInterface Value Params)
    (runSet : Params → Stats → Params × Stats) (newStats : Stats) (objects : ℕ → Stats) :
    List Params → List (CombinationRun Value Params) → List Params → Prop where
  | done (params : List Params) : RunsFrom interface runSet newStats objects params [] params
  | next {params left last : List Params} {run : CombinationRun Value Params}
      {runs : List (CombinationRun Value Params)} :
      RunsSets interface runSet run.values params newStats run.params left (objects run.stats) →
      RunsFrom interface runSet newStats objects left runs last →
      RunsFrom interface runSet newStats objects params (run :: runs) last

structure ReportsAll {Value Params Content : Type} {interface : VariableInterface Value Params}
    (varied : List (NamedVariable interface)) (runs : List (CombinationRun Value Params))
    (resultsOf : ℕ → Document String Content) (results : VaryingResults Content) : Prop where
  dimensions : results.dimensions = varied.map (·.name)
  dimensionValues : ∀ known ∈ varied, ∃ listed, results.dimensionValues.lookup known.name = some listed ∧
    listed.Perm (known.values.map interface.getValue)
  noOther : ∀ name, name ∉ varied.map (·.name) → results.dimensionValues.lookup name = none
  maps : results.data.Uniform varied.length
  leaves : ∀ path content, path.length = varied.length → (results.data.find path = some content ↔
    ∃ run ∈ runs, run.values.map interface.getValue = path ∧ resultsOf run.stats = content)
  apart : (runs.map fun run => run.values.map interface.getValue).Nodup

section

variable {Value Params Stats Content : Type} {interface : VariableInterface Value Params}
  {runSet : Params → Stats → Params × Stats} {newStats : Stats} {objects : ℕ → Stats}
  {scenario : VaryingScenario Value Params Stats} {choices : List (List Value)}
  {params left last : List Params} {runs : List (CombinationRun Value Params)}

theorem runSets_runs (values : List Value) (params : List Params) (stats : Stats) :
    RunsSets interface runSet values params stats (runSets interface runSet values params stats).1
      (runSets interface runSet values params stats).2.1 (runSets interface runSet values params stats).2.2 := by
  induction params generalizing stats with
  | nil => exact .done stats
  | cons params others ih => exact .next rfl (ih _)

theorem RunsFrom.concat {run : CombinationRun Value Params}
    (former : RunsFrom interface runSet newStats objects params runs left)
    (runs_ : RunsSets interface runSet run.values left newStats run.params last (objects run.stats)) :
    RunsFrom interface runSet newStats objects params (runs ++ [run]) last := by
  induction former with
  | done params => exact .next runs_ (.done last)
  | next first _ ih => exact .next first (ih runs_)

/-- What other statistics objects hold does not matter. -/
theorem RunsFrom.others {number : ℕ} {measured : Stats}
    (former : RunsFrom interface runSet newStats objects params runs left)
    (unused : number ∉ runs.map (·.stats)) :
    RunsFrom interface runSet newStats (Function.update objects number measured) params runs left := by
  induction former with
  | done params => exact .done params
  | next first _ ih =>
    rw [List.map_cons, List.mem_cons, not_or] at unused
    refine .next ?_ (ih unused.2)
    rwa [Function.update_of_ne (Ne.symm unused.1)]

structure Ran (interface : VariableInterface Value Params) (runSet : Params → Stats → Params × Stats) (newStats : Stats)
    (params : List Params) (choices : List (List Value)) (scenario : VaryingScenario Value Params Stats) : Prop where
  values : scenario.runs.map (·.values) = choices
  stats : scenario.runs.map (·.stats) = List.range choices.length
  created : scenario.stats.created = choices.length
  keys : scenario.stats.keys = choices
  entries : scenario.stats.stats = (scenario.runs.map fun run => (run.values, run.stats)).reverse
  runs : RunsFrom interface runSet newStats scenario.objects params scenario.runs scenario.params
  unused : ∀ number, choices.length ≤ number → scenario.objects number = newStats

theorem Ran.run (ran : Ran interface runSet newStats params choices scenario) (choice : List Value) :
    Ran interface runSet newStats params (choices ++ [choice]) (runCombination interface runSet choice scenario) := by
  obtain ⟨values, stats, created, keys, entries, runs, unused⟩ := ran
  have isNew : scenario.objects scenario.stats.created = newStats := unused _ (Nat.le_of_eq created.symm)
  unfold runCombination next
  refine ⟨?_, ?_, ?_, ?_, ?_, ?_, ?_⟩
  · simp [values]
  · simp [stats, created, List.range_succ]
  · simp [created]
  · simp [keys]
  · simp [entries]
  · refine RunsFrom.concat (runs.others ?_) ?_
    · rw [stats, created, List.mem_range]
      exact Nat.lt_irrefl _
    · dsimp only
      rw [Function.update_self, isNew]
      exact runSets_runs choice scenario.params newStats
  · intro number above
    rw [List.length_append, List.length_singleton] at above
    dsimp only
    rw [Function.update_of_ne (by omega)]
    exact unused number (Nat.le_of_succ_le above)

theorem ran_combinations (interface : VariableInterface Value Params) (runSet : Params → Stats → Params × Stats)
    (varying : List (List Value)) (params : List Params) (newStats : Stats) :
    Ran interface runSet newStats params (combinations varying)
      (VaryingScenario.run interface runSet varying (create params newStats)) := by
  rw [VaryingScenario.run, nestedLoop_eq]
  simp only [List.nil_append]
  induction combinations varying using List.reverseRecOn with
  | nil => exact ⟨rfl, rfl, rfl, rfl, rfl, .done params, fun _ _ => rfl⟩
  | append_singleton choices choice ih =>
    rw [List.foldl_append]
    exact ih.run choice

theorem Ran.runsAll {varying : List (List Value)}
    (ran : Ran interface runSet newStats params (combinations varying) scenario)
    (nodup : ∀ values ∈ varying, values.Nodup) : RunsAll varying scenario.runs := by
  refine ⟨fun choice => ?_, ?_, ?_, ?_⟩
  · rw [ran.values, mem_combinations]
  · rw [ran.values]
    exact nodup_combinations nodup
  · rw [ran.values]
    exact combinations_pairwise varying
  · rw [ran.stats]
    exact List.nodup_range

theorem Ran.lookup [DecidableEq Value] (ran : Ran interface runSet newStats params choices scenario)
    (distinct : choices.Nodup) {run : CombinationRun Value Params} (listed : run ∈ scenario.runs) :
    scenario.stats.stats.lookup run.values = some run.stats := by
  have keys : (scenario.stats.stats.map Prod.fst).Nodup := by
    rw [ran.entries, List.map_reverse, List.map_map, List.nodup_reverse]
    exact ran.values ▸ distinct
  have entry : (run.values, run.stats) ∈ scenario.stats.stats := by
    rw [ran.entries]
    exact List.mem_reverse.mpr (List.mem_map_of_mem listed)
  exact lookup_of_nodup keys entry

end

structure Listing (elements : List (String × String)) (map : List (String × List String)) : Prop where
  absent : ∀ name, map.lookup name = none → ∀ value, (name, value) ∉ elements
  present : ∀ name values, map.lookup name = some values →
    values.Nodup ∧ values ≠ [] ∧ ∀ value, value ∈ values ↔ (name, value) ∈ elements

section

variable {elements : List (String × String)} {map : List (String × List String)}

/-- The values that are known of a name before another is added. -/
theorem Listing.known (listing : Listing elements map) (name : String) :
    ((map.lookup name).getD []).Nodup ∧
      ∀ value, value ∈ (map.lookup name).getD [] ↔ (name, value) ∈ elements := by
  cases found : map.lookup name with
  | none => exact ⟨List.nodup_nil, fun value => iff_of_false List.not_mem_nil (listing.absent name found value)⟩
  | some values => exact ⟨(listing.present name values found).1, (listing.present name values found).2.2⟩

theorem Listing.add (listing : Listing elements map) (element : String × String) :
    Listing (elements ++ [element]) (addDimensionValue map element) := by
  obtain ⟨name, value⟩ := element
  obtain ⟨nodup, known⟩ := listing.known name
  unfold addDimensionValue
  simp only
  split
  · rename_i listed
    have old (other : String × String) : other ∈ elements ++ [(name, value)] ↔ other ∈ elements := by
      rw [List.mem_append, List.mem_singleton]
      exact or_iff_left_of_imp fun same => same ▸ (known value).mp listed
    refine ⟨fun name none value => ?_, fun name values some => ?_⟩
    · rw [old]
      exact listing.absent name none value
    · simp only [old]
      exact listing.present name values some
  · rename_i new
    refine ⟨fun other none otherValue => ?_, fun other values some => ?_⟩
    · rw [lookup_put] at none
      split at none
      · cases none
      · rename_i differ
        rw [List.mem_append, List.mem_singleton, not_or]
        exact ⟨listing.absent other none otherValue, fun same => differ (Prod.ext_iff.mp same).1⟩
    · rw [lookup_put] at some
      split at some
      · rename_i same
        cases some
        refine ⟨?_, by simp, fun otherValue => ?_⟩
        · exact nodup.append (List.nodup_singleton value) (List.disjoint_singleton.mpr new)
        · rw [List.mem_append, List.mem_singleton, known, same, List.mem_append, List.mem_singleton, Prod.mk.injEq,
            and_iff_right rfl]
      · rename_i differ
        obtain ⟨once, nonempty, values⟩ := listing.present other values some
        refine ⟨once, nonempty, fun otherValue => ?_⟩
        rw [values, List.mem_append, List.mem_singleton]
        exact (or_iff_left fun same => differ (Prod.ext_iff.mp same).1).symm

theorem listing_foldl (elements : List (String × String)) : Listing elements (elements.foldl addDimensionValue []) := by
  induction elements using List.reverseRecOn with
  | nil => exact ⟨fun _ _ _ => List.not_mem_nil, nofun⟩
  | append_singleton elements element ih =>
    rw [List.foldl_append]
    exact ih.add element

end

section

variable {Value Params Stats Content : Type} {interface : VariableInterface Value Params}
  {varied : List (NamedVariable interface)} {choice : List Value}

theorem names_of_choice (chosen : List.Forall₂ (· ∈ ·) choice (varied.map (·.values))) :
    choice.map interface.getName = varied.map (·.name) := by
  induction varied generalizing choice with
  | nil =>
    cases chosen
    rfl
  | cons known varied ih =>
    cases chosen with
    | cons member others => rw [List.map_cons, List.map_cons, known.named _ member, ih others]

theorem nonempty_values (known : List Value) (listed : known ∈ varied.map (·.values)) : known ≠ [] := by
  obtain ⟨variable_, _, rfl⟩ := List.mem_map.mp listed
  exact variable_.nonempty

/-- The combinations have the printed values of each variable under its name. -/
theorem mem_elements {name printed : String} :
    (name, printed) ∈ (combinations (varied.map (·.values))).flatMap (elements interface) ↔
      ∃ known ∈ varied, known.name = name ∧ printed ∈ known.values.map interface.getValue := by
  simp only [elements, List.mem_flatMap, List.mem_map, Prod.mk.injEq]
  constructor
  · rintro ⟨choice, chosen, value, member, named, text⟩
    obtain ⟨_, listed, inValues⟩ := listed_of_mem_combinations chosen member
    obtain ⟨known, isVaried, rfl⟩ := List.mem_map.mp listed
    exact ⟨known, isVaried, (known.named value inValues).symm.trans named, value, inValues, text⟩
  · rintro ⟨known, isVaried, rfl, value, inValues, text⟩
    obtain ⟨choice, chosen, member⟩ := exists_combination nonempty_values (List.mem_map_of_mem isVaried) inValues
    exact ⟨choice, chosen, value, member, known.named value inValues, text⟩

theorem nodup_values {values : List Value} (listed : values ∈ varied.map (·.values)) : values.Nodup := by
  obtain ⟨known, _, rfl⟩ := List.mem_map.mp listed
  exact known.printed.of_map _

theorem nodup_printed :
    ((combinations (varied.map (·.values))).map (List.map interface.getValue)).Nodup := by
  rw [map_combinations]
  refine nodup_combinations fun printed listed => ?_
  obtain ⟨_, isVaried, rfl⟩ := List.mem_map.mp listed
  obtain ⟨known, _, rfl⟩ := List.mem_map.mp isVaried
  exact known.printed

theorem Listing.lookup_varied {map : List (String × List String)} {known : NamedVariable interface}
    (listing : Listing ((combinations (varied.map (·.values))).flatMap (elements interface)) map)
    (distinct : (varied.map (·.name)).Nodup) (isVaried : known ∈ varied) :
    ∃ listed, map.lookup known.name = some listed ∧ listed.Perm (known.values.map interface.getValue) := by
  cases found : map.lookup known.name with
  | none =>
    obtain ⟨value, inValues⟩ := List.exists_mem_of_ne_nil _ known.nonempty
    refine absurd (mem_elements.mpr ⟨known, isVaried, rfl, List.mem_map_of_mem inValues⟩) ?_
    exact listing.absent _ found _
  | some listed =>
    obtain ⟨once, _, values⟩ := listing.present _ _ found
    refine ⟨listed, rfl, (List.perm_ext_iff_of_nodup once known.printed).mpr fun text => ?_⟩
    rw [values, mem_elements]
    constructor
    · rintro ⟨other, otherVaried, named, inValues⟩
      rwa [List.inj_on_of_nodup_map distinct otherVaried isVaried named] at inValues
    · exact fun inValues => ⟨known, isVaried, rfl, inValues⟩

theorem Listing.lookup_unknown {map : List (String × List String)} {name : String}
    (listing : Listing ((combinations (varied.map (·.values))).flatMap (elements interface)) map)
    (unknown : name ∉ varied.map (·.name)) : map.lookup name = none := by
  rw [Option.eq_none_iff_forall_not_mem]
  intro listed found
  obtain ⟨_, nonempty, values⟩ := listing.present _ _ found
  obtain ⟨value, member⟩ := List.exists_mem_of_ne_nil _ nonempty
  obtain ⟨other, isVaried, rfl, _⟩ := mem_elements.mp ((values value).mp member)
  exact unknown (List.mem_map_of_mem isVaried)

variable [DecidableEq Value] {runSet : Params → Stats → Params × Stats} {newStats : Stats} {params : List Params}
  {scenario : VaryingScenario Value Params Stats} {resultsOf : ℕ → Document String Content}

theorem foldlM_runs (interface : VariableInterface Value Params) (resultsOf : ℕ → Document String Content)
    {stats : List (List Value × ℕ)} (runs : List (CombinationRun Value Params))
    (found : ∀ run ∈ runs, stats.lookup run.values = some run.stats) (document : Document String Content) :
    (runs.map (·.values)).foldlM (fun data key => do
        let found ← stats.lookup key
        Document.putAt (resultsOf found) (key.map interface.getValue) data) document =
      (runs.map fun run => (run.values.map interface.getValue, resultsOf run.stats)).foldlM
        (fun document content => Document.putAt content.2 content.1 document) document := by
  induction runs generalizing document with
  | nil => rfl
  | cons run runs ih =>
    have others := fun later listed => found later (List.mem_cons_of_mem _ listed)
    simp only [List.map_cons, List.foldlM_cons, found run List.mem_cons_self, Option.bind_eq_bind, Option.bind_some]
    refine congrArg _ (funext fun after => ?_)
    exact ih others after

omit [DecidableEq Value] in
theorem Ran.printed_apart
    (ran : Ran interface runSet newStats params (combinations (varied.map (·.values))) scenario) :
    (scenario.runs.map fun run => run.values.map interface.getValue).Nodup := by
  have same : scenario.runs.map (fun run => run.values.map interface.getValue) =
      (scenario.runs.map (·.values)).map (List.map interface.getValue) := by
    rw [List.map_map]
    rfl
  rw [same, ran.values]
  exact nodup_printed

/-- The results are the names, the printed values and the contents of all runs. -/
theorem Ran.results_eq (ran : Ran interface runSet newStats params (combinations (varied.map (·.values))) scenario)
    {first : List Value} {others : List (List Value)} (keys : combinations (varied.map (·.values)) = first :: others)
    {data : Document String Content}
    (folded : (scenario.runs.map fun run => (run.values.map interface.getValue, resultsOf run.stats)).foldlM
      (fun document content => Document.putAt content.2 content.1 document) Document.empty = some data) :
    scenario.stats.results interface resultsOf = some ⟨first.map interface.getName,
      ((combinations (varied.map (·.values))).flatMap (elements interface)).foldl addDimensionValue [], data⟩ := by
  have nodup : (combinations (varied.map (·.values))).Nodup := nodup_combinations fun _ => nodup_values
  have contents := foldlM_runs interface resultsOf scenario.runs (fun run listed => ran.lookup nodup listed)
    Document.empty
  rw [ran.values, folded] at contents
  rw [VaryingScenarioStats.results, ran.keys]
  split
  · rename_i none
    rw [keys] at none
    cases none
  · rename_i head tail same
    rw [keys] at same
    cases same
    rw [contents, List.foldl_flatMap]
    rfl

theorem Ran.results (ran : Ran interface runSet newStats params (combinations (varied.map (·.values))) scenario)
    (some_ : varied ≠ [])
    (distinct : (varied.map (·.name)).Nodup) :
    ∃ results, scenario.stats.results interface resultsOf = some results ∧
      ReportsAll varied scenario.runs resultsOf results := by
  have deep (content : List String × Document String Content)
      (listed : content ∈ scenario.runs.map fun run => (run.values.map interface.getValue, resultsOf run.stats)) :
      content.1.length = varied.length := by
    obtain ⟨run, ran_, rfl⟩ := List.mem_map.mp listed
    have chosen : run.values ∈ combinations (varied.map (·.values)) := ran.values ▸ List.mem_map_of_mem ran_
    rw [List.length_map, length_of_mem_combinations chosen, List.length_map]
  have paths : ((scenario.runs.map fun run => (run.values.map interface.getValue, resultsOf run.stats)).map
      Prod.fst).Nodup := by
    rw [List.map_map]
    exact ran.printed_apart
  obtain ⟨data, folded, uniform, leaves⟩ := Document.foldlM_putAt
    (fun none => some_ (List.length_eq_zero_iff.mp none)) _ deep paths
  have listing := listing_foldl ((combinations (varied.map (·.values))).flatMap (elements interface))
  have somewhere : combinations (varied.map (·.values)) ≠ [] := combinations_ne_nil nonempty_values
  obtain ⟨first, others, keys⟩ := List.exists_cons_of_ne_nil somewhere
  have chosen : first ∈ combinations (varied.map (·.values)) := keys ▸ List.mem_cons_self
  refine ⟨_, ran.results_eq keys folded, names_of_choice (mem_combinations.mp chosen),
    fun variable_ isVaried => listing.lookup_varied distinct isVaried,
    fun name unknown => listing.lookup_unknown unknown, uniform, fun path content length => ?_, ran.printed_apart⟩
  rw [leaves path content length, List.mem_map]
  simp only [Prod.mk.injEq]

structure RunsAndReports (interface : VariableInterface Value Params) (runSet : Params → Stats → Params × Stats)
    (resultsOf : Stats → Document String Content) (params : List Params) (newStats : Stats)
    (varied : List (NamedVariable interface)) (scenario : VaryingScenario Value Params Stats) : Prop where
  combinations : RunsAll (varied.map (·.values)) scenario.runs
  runs : RunsFrom interface runSet newStats scenario.objects params scenario.runs scenario.params
  reports : ∃ results,
    scenario.stats.results interface (fun stats => resultsOf (scenario.objects stats)) = some results ∧
    ReportsAll varied scenario.runs (fun stats => resultsOf (scenario.objects stats)) results

/-- A varying scenario runs and reports every combination of values once. -/
theorem varying_runs_and_reports (interface : VariableInterface Value Params)
    (runSet : Params → Stats → Params × Stats) (resultsOf : Stats → Document String Content) (params : List Params)
    (newStats : Stats) (varied : List (NamedVariable interface)) (some_ : varied ≠ [])
    (distinct : (varied.map (·.name)).Nodup) :
    RunsAndReports interface runSet resultsOf params newStats varied
      (VaryingScenario.run interface runSet (varied.map (·.values)) (create params newStats)) := by
  have ran := ran_combinations interface runSet (varied.map (·.values)) params newStats
  exact ⟨ran.runsAll fun _ => nodup_values, ran.runs, ran.results some_ distinct⟩

end

def textInterface : VariableInterface (String × String) (List (String × String)) where
  getName := Prod.fst
  getValue := Prod.snd
  setup value params := params ++ [value]
  teardown value params := params.erase value

def recordSet (params : List (String × String)) (stats : List (List (String × String))) :
    List (String × String) × List (List (String × String)) := (params, stats ++ [params])

def recordedSets (stats : List (List (String × String))) : Document String (List (String × String)) :=
  .value stats.flatten

def sizeVariable : NamedVariable textInterface where
  name := "minMsgSize"
  values := [("minMsgSize", "100"), ("minMsgSize", "200")]
  named := by decide
  nonempty := by decide
  printed := by decide

def rateVariable : NamedVariable textInterface where
  name := "producerRateLimit"
  values := [("producerRateLimit", "1"), ("producerRateLimit", "1.0"), ("producerRateLimit", "50")]
  named := by decide
  nonempty := by decide
  printed := by decide

theorem varying_sizes_and_rates :
    RunsAndReports textInterface recordSet recordedSets [[("autoAck", "true")]] [] [sizeVariable, rateVariable]
      (VaryingScenario.run textInterface recordSet [sizeVariable.values, rateVariable.values]
        (create [[("autoAck", "true")]] [])) :=
  varying_runs_and_reports textInterface recordSet recordedSets [[("autoAck", "true")]] []
    [sizeVariable, rateVariable] (List.cons_ne_nil _ _) (by decide)

end PerfTestProof
