import Mathlib.Data.List.Infix
import Mathlib.Data.List.Perm.Basic
import PerfTest.Scenario.EveryCombination

namespace PerfTestModel

open Systems

structure ChartDiv where
  dataType : Option String
  dataScenario : String
  dataXKey : Option String
  dataSeriesKey : Option String
  dataPlotKey : Option String
  dataPlotKeys : Option String
  deriving DecidableEq, Repr

inductive Axes where
  | rateAndLatency
  | rateAndBytes
  deriving DecidableEq, Repr

structure ChartSeries (Content : Type) where
  label : String
  data : List (String × Option (Document String Content))
  yaxis : Option ℕ

structure Chart (Content : Type) where
  chartData : List (ChartSeries Content)
  axes : Option Axes

namespace Charts

variable {Content : Type}

/-- A property of a value that may be undefined, and then it throws. -/
def property : Option (Document String Content) → String → Option (Option (Document String Content))
  | none, _ => none
  | some (.value _), _ => some none
  | some (.map entries), key => some (entries.lookup key)

def properties (keys : List String) (value : Option (Document String Content)) :
    Option (Option (Document String Content)) :=
  keys.foldlM property value

/-- An attribute that is undefined is converted when it is used as a key. -/
def keyOf (attr : Option String) : String := attr.getD "undefined"

/-- `$.each`, which throws when the list is undefined, with a callback that pushes one entry. -/
def each {Entry : Type} (list : Option (List String)) (callback : String → Option Entry) : Option (List Entry) := do
  let values ← list
  values.mapM callback

def attrOrDefault (attr : Option String) (default : String) : String := attr.getD default

def point (data : Document String Content) (keys : List String) (plotKey xVal : String) :
    Option (String × Option (Document String Content)) := do
  let value ← properties (keys ++ [plotKey]) (some data)
  return (xVal, value)

def seriesLine (div : ChartDiv) (results : VaryingResults Content) (sVal : String) : Option (ChartSeries Content) := do
  let seriesFirst := results.dimensions.head? = div.dataSeriesKey
  let xValues := results.dimensionValues.lookup (keyOf div.dataXKey)
  let plotKey := attrOrDefault div.dataPlotKey "send-msg-rate"
  let data ← each xValues fun xVal =>
    point results.data (if seriesFirst then [sVal, xVal] else [xVal, sVal]) plotKey xVal
  return ⟨s!"{keyOf div.dataSeriesKey} = {sVal}", data, none⟩

def plotSeries (div : ChartDiv) (results : VaryingResults Content) : Option (Chart Content) := do
  let seriesValues := results.dimensionValues.lookup (keyOf div.dataSeriesKey)
  let chartData ← each seriesValues (seriesLine div results)
  return ⟨chartData, none⟩

def inBytes (plotKey : String) : Bool := decide ("bytes".toList <:+: plotKey.toList)

def splitBlanks (text : String) : List String := (text.toList.splitOn ' ').map String.ofList

def keyLine (div : ChartDiv) (results : VaryingResults Content) (plotKey : String) : Option (ChartSeries Content) := do
  let xValues := results.dimensionValues.lookup (keyOf div.dataXKey)
  let data ← each xValues fun xVal => point results.data [xVal] plotKey xVal
  return ⟨plotKey, data, some (if inBytes plotKey then 2 else 1)⟩

def plotXY (div : ChartDiv) (results : VaryingResults Content) : Option (Chart Content) := do
  let plotKeys := splitBlanks (attrOrDefault div.dataPlotKeys "send-msg-rate")
  let chartData ← each (some plotKeys) (keyLine div results)
  return ⟨chartData, if plotKeys.any inBytes then some .rateAndBytes else none⟩

def plotRL (results : VaryingResults Content) : Option (Chart Content) := do
  let xValues := results.dimensionValues.lookup "producerRateLimit"
  let rates ← each xValues fun xVal => point results.data [xVal] "send-msg-rate" xVal
  let latencies ← each xValues fun xVal => point results.data [xVal] "avg-latency" xVal
  return ⟨[⟨"rate achieved", rates, some 1⟩, ⟨"latency (us)", latencies, some 2⟩], some .rateAndLatency⟩

/-- The charts of the scenarios that vary, without `plot_time`. Nothing is drawn for a type that there is not. -/
def plot0 (div : ChartDiv) (results : String → Option (VaryingResults Content)) : Option (Option (Chart Content)) := do
  let scenario ← results div.dataScenario
  if div.dataType = some "series" then some <$> plotSeries div scenario
  else if div.dataType = some "x-y" then some <$> plotXY div scenario
  else if div.dataType = some "r-l" then some <$> plotRL scenario
  else return none

end Charts

end PerfTestModel

open PerfTestModel Systems Charts VaryingScenarioStats VaryingScenario

namespace PerfTestProof

theorem exists_each {Entry : Type} {callback : String → Option Entry} (shown : String → Entry → Prop)
    {values : List String} (pushed : ∀ value ∈ values, ∃ entry, callback value = some entry ∧ shown value entry) :
    ∃ entries, each (some values) callback = some entries ∧ List.Forall₂ shown values entries := by
  change ∃ entries, values.mapM callback = some entries ∧ _
  induction values with
  | nil => exact ⟨[], rfl, .nil⟩
  | cons value values ih =>
    obtain ⟨entry, called, first⟩ := pushed value List.mem_cons_self
    obtain ⟨entries, others, later⟩ := ih fun value listed => pushed value (List.mem_cons_of_mem _ listed)
    exact ⟨entry :: entries, by rw [List.mapM_cons, called, others]; rfl, .cons first later⟩

theorem properties_of_find {Content : Type} {path : List String} {document found : Document String Content}
    (finds : document.find path = some found) : properties path (some document) = some (some found) := by
  induction path generalizing document with
  | nil => exact congrArg some finds
  | cons key path ih =>
    cases document with
    | value content => cases finds
    | map entries =>
      rw [Document.find] at finds
      obtain ⟨child, present, finds⟩ := Option.bind_eq_some_iff.mp finds
      rw [properties, List.foldlM_cons, property, present]
      exact ih finds

section

variable {Value Params Content : Type} {interface : VariableInterface Value Params}
  {varied : List (NamedVariable interface)} {runs : List (CombinationRun Value Params)}
  {resultsOf : ℕ → Document String Content} {results : VaryingResults Content}

def ShowsRun (interface : VariableInterface Value Params) (runs : List (CombinationRun Value Params))
    (resultsOf : ℕ → Document String Content) (values : List (String × String)) (plotKey : String)
    (shown : Option (Document String Content)) : Prop :=
  ∃ run ∈ runs, (∀ other ∈ runs, values ⊆ elements interface other.values ↔ other = run) ∧
    property (some (resultsOf run.stats)) plotKey = some shown

def LineShows (interface : VariableInterface Value Params) (runs : List (CombinationRun Value Params))
    (resultsOf : ℕ → Document String Content) (values : String → List (String × String)) (plotKey : String)
    (xValues : List String) (points : List (String × Option (Document String Content))) : Prop :=
  List.Forall₂ (fun xVal point => point.1 = xVal ∧
    ShowsRun interface runs resultsOf (values xVal) plotKey point.2) xValues points

theorem elements_eq_zip {choice : List Value} (chosen : List.Forall₂ (· ∈ ·) choice (varied.map (·.values))) :
    elements interface choice = (varied.map (·.name)).zip (choice.map interface.getValue) := by
  rw [← names_of_choice chosen, List.zip_map', elements]

theorem zip_subset_zip {names path printed : List String} (distinct : names.Nodup)
    (length : path.length = names.length) (printed_length : printed.length = names.length) :
    names.zip path ⊆ names.zip printed ↔ printed = path := by
  constructor
  · intro within
    apply List.ext_getElem (printed_length.trans length.symm)
    intro index inPrinted inPath
    have inNames : index < names.length := length ▸ inPath
    have listed : (names[index], path[index]) ∈ names.zip printed := by
      apply within
      rw [← List.getElem_zip (h := by rw [List.length_zip]; omega)]
      exact List.getElem_mem _
    obtain ⟨other, inZip, same⟩ := List.mem_iff_getElem.mp listed
    rw [List.getElem_zip, Prod.mk.injEq] at same
    have here : other = index := (List.Nodup.getElem_inj_iff distinct).mp same.1
    subst here
    exact same.2
  · rintro rfl
    exact List.Subset.refl _

theorem exists_choice {path : List String}
    (printed : List.Forall₂ (fun text (known : NamedVariable interface) => text ∈ known.values.map interface.getValue)
      path varied) :
    ∃ choice, List.Forall₂ (· ∈ ·) choice (varied.map (·.values)) ∧ choice.map interface.getValue = path := by
  induction printed with
  | nil => exact ⟨[], .nil, rfl⟩
  | cons member _ ih =>
    obtain ⟨value, inValues, rfl⟩ := List.mem_map.mp member
    obtain ⟨choice, chosen, rfl⟩ := ih
    exact ⟨value :: choice, .cons inValues chosen, rfl⟩

/-- The data have a point for the printed values of a choice, in the order of the variables. -/
theorem ReportsAll.point (reports : ReportsAll varied runs resultsOf results)
    (ran : RunsAll (varied.map (·.values)) runs) (distinct : (varied.map (·.name)).Nodup) {path : List String}
    (printed : List.Forall₂ (fun text (known : NamedVariable interface) => text ∈ known.values.map interface.getValue)
      path varied)
    {values : List (String × String)} (same : values.Perm ((varied.map (·.name)).zip path)) (plotKey xVal : String) :
    ∃ shown, Charts.point results.data path plotKey xVal = some (xVal, shown) ∧
      ShowsRun interface runs resultsOf values plotKey shown := by
  obtain ⟨choice, chosen, rfl⟩ := exists_choice printed
  obtain ⟨run, listed, rfl⟩ := List.mem_map.mp ((ran.every choice).mpr chosen)
  have length : (run.values.map interface.getValue).length = varied.length := printed.length_eq
  have finds := (reports.leaves _ (resultsOf run.stats) length).mpr ⟨run, listed, rfl, rfl⟩
  obtain ⟨shown, reads⟩ : ∃ shown, property (some (resultsOf run.stats)) plotKey = some shown := by
    cases resultsOf run.stats with
    | value content => exact ⟨_, rfl⟩
    | map entries => exact ⟨_, rfl⟩
  refine ⟨shown, ?_, run, listed, fun other otherListed => ?_, reads⟩
  · rw [Charts.point, properties, List.foldlM_append]
    have found := properties_of_find finds
    rw [properties] at found
    rw [found]
    change ((property (some (resultsOf run.stats)) plotKey).bind some).bind _ = _
    rw [reads]
    rfl
  · have otherChosen := (ran.every other.values).mp (List.mem_map_of_mem otherListed)
    have otherLength : (other.values.map interface.getValue).length = varied.length := by
      rw [List.length_map, otherChosen.length_eq, List.length_map]
    rw [elements_eq_zip otherChosen, List.Perm.subset_congr_left same, zip_subset_zip distinct (by simpa using length)
      (by simpa using otherLength)]
    constructor
    · exact fun alike => List.inj_on_of_nodup_map reports.apart otherListed listed alike
    · rintro rfl
      rfl

theorem ReportsAll.line (reports : ReportsAll varied runs resultsOf results)
    (ran : RunsAll (varied.map (·.values)) runs) (distinct : (varied.map (·.name)).Nodup)
    {path : String → List String} {values : String → List (String × String)} {xValues : List String}
    (printed : ∀ xVal ∈ xValues, List.Forall₂
      (fun text (known : NamedVariable interface) => text ∈ known.values.map interface.getValue) (path xVal) varied)
    (same : ∀ xVal, (values xVal).Perm ((varied.map (·.name)).zip (path xVal))) (plotKey : String) :
    ∃ points, each (some xValues) (fun xVal => Charts.point results.data (path xVal) plotKey xVal) = some points ∧
      LineShows interface runs resultsOf values plotKey xValues points := by
  refine exists_each _ fun xVal listed => ?_
  obtain ⟨shown, reads, shows⟩ := reports.point ran distinct (printed xVal listed) (same xVal) plotKey xVal
  exact ⟨_, reads, rfl, shows⟩

variable {div : ChartDiv} {x series known : NamedVariable interface}

structure SeriesChart (div : ChartDiv) (x series : NamedVariable interface) (runs : List (CombinationRun Value Params))
    (resultsOf : ℕ → Document String Content) (chart : Chart Content) : Prop where
  lines : ∃ seriesValues xValues, seriesValues.Perm (series.values.map interface.getValue) ∧
    xValues.Perm (x.values.map interface.getValue) ∧
    List.Forall₂ (fun sVal (line : ChartSeries Content) => line.label = s!"{series.name} = {sVal}" ∧
      LineShows interface runs resultsOf (fun xVal => [(series.name, sVal), (x.name, xVal)])
        (attrOrDefault div.dataPlotKey "send-msg-rate") xValues line.data) seriesValues chart.chartData

structure KeysChart (plotKeys : List String) (known : NamedVariable interface)
    (runs : List (CombinationRun Value Params)) (resultsOf : ℕ → Document String Content) (chart : Chart Content) :
    Prop where
  lines : ∃ xValues, xValues.Perm (known.values.map interface.getValue) ∧
    List.Forall₂ (fun plotKey (line : ChartSeries Content) =>
      LineShows interface runs resultsOf (fun xVal => [(known.name, xVal)]) plotKey xValues line.data)
      plotKeys chart.chartData

theorem seriesLine_shows (varied_eq : varied = [series, x] ∨ varied = [x, series])
    (reports : ReportsAll varied runs resultsOf results) (ran : RunsAll (varied.map (·.values)) runs)
    (distinct : series.name ≠ x.name) (xKey : div.dataXKey = some x.name)
    (seriesKey : div.dataSeriesKey = some series.name) {xValues : List String}
    (lookup : results.dimensionValues.lookup x.name = some xValues)
    (listed : xValues.Perm (x.values.map interface.getValue)) {sVal : String}
    (inSeries : sVal ∈ series.values.map interface.getValue) :
    ∃ line, seriesLine div results sVal = some line ∧ line.label = s!"{series.name} = {sVal}" ∧
      LineShows interface runs resultsOf (fun xVal => [(series.name, sVal), (x.name, xVal)])
        (attrOrDefault div.dataPlotKey "send-msg-rate") xValues line.data := by
  have first : results.dimensions.head? = div.dataSeriesKey ↔ varied = [series, x] := by
    rw [reports.dimensions, seriesKey]
    rcases varied_eq with rfl | rfl
    · simp
    · refine iff_of_false (by simpa using distinct.symm) fun same => distinct ?_
      rw [(List.cons.inj same).1]
  set path : String → List String := fun xVal =>
    if results.dimensions.head? = div.dataSeriesKey then [sVal, xVal] else [xVal, sVal] with path_eq
  obtain ⟨points, drawn, shows⟩ : ∃ points, each (some xValues) (fun xVal =>
      Charts.point results.data (path xVal) (attrOrDefault div.dataPlotKey "send-msg-rate") xVal) = some points ∧
      LineShows interface runs resultsOf (fun xVal => [(series.name, sVal), (x.name, xVal)])
        (attrOrDefault div.dataPlotKey "send-msg-rate") xValues points := by
    -- The path has the value of the first variable first, whichever of the two that is.
    by_cases order : varied = [series, x]
    · have path_eq xVal : path xVal = [sVal, xVal] := if_pos (first.mpr order)
      subst order
      refine reports.line ran (by simpa using distinct) (fun xVal inX => ?_) (fun xVal => ?_) _
      · rw [path_eq]
        exact .cons inSeries (.cons (listed.subset inX) .nil)
      · rw [path_eq]
        exact .refl _
    · have path_eq xVal : path xVal = [xVal, sVal] := if_neg (mt first.mp order)
      obtain rfl := varied_eq.resolve_left order
      refine reports.line ran (by simpa using distinct.symm) (fun xVal inX => ?_) (fun xVal => ?_) _
      · rw [path_eq]
        exact .cons (listed.subset inX) (.cons inSeries .nil)
      · rw [path_eq]
        exact .swap _ _ _
  refine ⟨⟨s!"{series.name} = {sVal}", points, none⟩, ?_, rfl, shows⟩
  simp only [seriesLine, seriesKey, xKey, keyOf, Option.getD_some, lookup]
  rw [seriesKey] at path_eq
  rw [path_eq] at drawn
  rw [drawn]
  rfl

theorem plotSeries_shows (varied_eq : varied = [series, x] ∨ varied = [x, series])
    (reports : ReportsAll varied runs resultsOf results) (ran : RunsAll (varied.map (·.values)) runs)
    (distinct : series.name ≠ x.name) (xKey : div.dataXKey = some x.name)
    (seriesKey : div.dataSeriesKey = some series.name) :
    ∃ chart, plotSeries div results = some chart ∧ SeriesChart div x series runs resultsOf chart := by
  have isVaried : series ∈ varied ∧ x ∈ varied := by
    rcases varied_eq with rfl | rfl <;> simp
  obtain ⟨seriesValues, seriesLookup, seriesPerm⟩ := reports.dimensionValues series isVaried.1
  obtain ⟨xValues, xLookup, xPerm⟩ := reports.dimensionValues x isVaried.2
  obtain ⟨lines, drawn, shows⟩ := exists_each _ fun sVal listed =>
    seriesLine_shows varied_eq reports ran distinct xKey seriesKey xLookup xPerm (seriesPerm.subset listed)
  refine ⟨⟨lines, none⟩, ?_, seriesValues, xValues, seriesPerm, xPerm, shows⟩
  simp only [plotSeries, seriesKey, keyOf, Option.getD_some, seriesLookup]
  rw [drawn]
  rfl

theorem keys_shown (reports : ReportsAll [known] runs resultsOf results)
    (ran : RunsAll ([known].map (·.values)) runs) {xValues : List String}
    (listed : xValues.Perm (known.values.map interface.getValue)) (plotKey : String) :
    ∃ points, each (some xValues) (fun xVal => Charts.point results.data [xVal] plotKey xVal) = some points ∧
      LineShows interface runs resultsOf (fun xVal => [(known.name, xVal)]) plotKey xValues points := by
  refine reports.line ran (List.nodup_singleton _) (fun xVal inValues => ?_) (fun xVal => .refl _) plotKey
  exact .cons (listed.subset inValues) .nil

theorem plotXY_shows (reports : ReportsAll [known] runs resultsOf results)
    (ran : RunsAll ([known].map (·.values)) runs) (xKey : div.dataXKey = some known.name) :
    ∃ chart, plotXY div results = some chart ∧
      KeysChart (splitBlanks (attrOrDefault div.dataPlotKeys "send-msg-rate")) known runs resultsOf chart := by
  obtain ⟨xValues, lookup, listed⟩ := reports.dimensionValues known List.mem_cons_self
  have line (plotKey : String) : ∃ line, keyLine div results plotKey = some line ∧
      LineShows interface runs resultsOf (fun xVal => [(known.name, xVal)]) plotKey xValues line.data := by
    obtain ⟨points, drawn, shows⟩ := keys_shown reports ran listed plotKey
    refine ⟨⟨plotKey, points, some (if inBytes plotKey then 2 else 1)⟩, ?_, shows⟩
    simp only [keyLine, xKey, keyOf, Option.getD_some, lookup]
    rw [drawn]
    rfl
  obtain ⟨lines, drawn, shows⟩ := exists_each _ fun plotKey _ => line plotKey
  refine ⟨⟨lines, if (splitBlanks (attrOrDefault div.dataPlotKeys "send-msg-rate")).any inBytes then
    some .rateAndBytes else none⟩, ?_, xValues, listed, shows⟩
  simp only [plotXY]
  rw [drawn]
  rfl

theorem plotRL_shows (reports : ReportsAll [known] runs resultsOf results)
    (ran : RunsAll ([known].map (·.values)) runs) (named : known.name = "producerRateLimit") :
    ∃ chart, plotRL results = some chart ∧ KeysChart ["send-msg-rate", "avg-latency"] known runs resultsOf chart := by
  obtain ⟨xValues, lookup, listed⟩ := reports.dimensionValues known List.mem_cons_self
  obtain ⟨rates, ratesRead, ratesShown⟩ := keys_shown reports ran listed "send-msg-rate"
  obtain ⟨latencies, latenciesRead, latenciesShown⟩ := keys_shown reports ran listed "avg-latency"
  refine ⟨⟨[⟨"rate achieved", rates, some 1⟩, ⟨"latency (us)", latencies, some 2⟩], some .rateAndLatency⟩, ?_, xValues,
    listed, .cons ratesShown (.cons latenciesShown .nil)⟩
  rw [named] at lookup
  simp only [plotRL, lookup]
  rw [ratesRead, latenciesRead]
  rfl

end

section

variable {Value Params Stats Content : Type} [DecidableEq Value]

/-- A series chart of a scenario with two variables shows each run at its values, whichever of the variables is the
    first one of the scenario. -/
theorem series_chart_shows_runs (interface : VariableInterface Value Params) (runSet : Params → Stats → Params × Stats)
    (resultsOf : ℕ → Document String Content) (params : List Params) (newStats : Stats)
    (varied : List (NamedVariable interface))
    (x series : NamedVariable interface) (varied_eq : varied = [series, x] ∨ varied = [x, series])
    (distinct : series.name ≠ x.name) (div : ChartDiv) (typed : div.dataType = some "series")
    (xKey : div.dataXKey = some x.name) (seriesKey : div.dataSeriesKey = some series.name)
    (results : String → Option (VaryingResults Content))
    (reported : results div.dataScenario = (VaryingScenario.run interface runSet (varied.map (·.values))
      (create params newStats)).stats.results interface resultsOf) :
    ∃ chart, plot0 div results = some (some chart) ∧
      SeriesChart div x series
        (VaryingScenario.run interface runSet (varied.map (·.values)) (create params newStats)).runs resultsOf
        chart := by
  have ran := ran_combinations interface runSet (varied.map (·.values)) params newStats
  have names : (varied.map (·.name)).Nodup := by
    rcases varied_eq with rfl | rfl
    · simpa using distinct
    · simpa using distinct.symm
  have some_ : varied ≠ [] := by
    rcases varied_eq with rfl | rfl <;> exact List.cons_ne_nil _ _
  obtain ⟨written, results_eq, reports⟩ : ∃ written, VaryingScenarioStats.results interface resultsOf _ = some written ∧
      ReportsAll varied _ resultsOf written := ran.results some_ names
  obtain ⟨chart, drawn, shows⟩ :=
    plotSeries_shows varied_eq reports (ran.runsAll fun _ => nodup_values) distinct xKey seriesKey
  refine ⟨chart, ?_, shows⟩
  rw [plot0, reported, results_eq]
  simp [typed, drawn]

def numberedResults (stats : ℕ) : Document String ℕ := .map [("send-msg-rate", .value stats)]

theorem series_chart_of_sizes :
    ∃ chart, plot0 ⟨some "series", "sizes", some "minMsgSize", some "producerRateLimit", none, none⟩
        (fun _ => (VaryingScenario.run textInterface recordSet [sizeVariable.values, rateVariable.values]
          (create [[]] [])).stats.results textInterface numberedResults) = some (some chart) ∧
      SeriesChart ⟨some "series", "sizes", some "minMsgSize", some "producerRateLimit", none, none⟩ sizeVariable
        rateVariable (VaryingScenario.run textInterface recordSet [sizeVariable.values, rateVariable.values]
          (create [[]] [])).runs numberedResults chart :=
  series_chart_shows_runs textInterface recordSet numberedResults [[]] [] [sizeVariable, rateVariable] sizeVariable
    rateVariable (.inr rfl) (by decide) _ rfl rfl rfl _ rfl

/-- The other charts of a scenario that varies have a line for each key of the results that is plotted, and show each
    run of a scenario with one variable at its value. -/
theorem key_charts_show_runs (interface : VariableInterface Value Params) (runSet : Params → Stats → Params × Stats)
    (resultsOf : ℕ → Document String Content) (params : List Params) (newStats : Stats)
    (known : NamedVariable interface) (div : ChartDiv) (plotKeys : List String)
    (typed : (div.dataType = some "x-y" ∧ div.dataXKey = some known.name ∧
        plotKeys = splitBlanks (attrOrDefault div.dataPlotKeys "send-msg-rate")) ∨
      (div.dataType = some "r-l" ∧ known.name = "producerRateLimit" ∧ plotKeys = ["send-msg-rate", "avg-latency"]))
    (results : String → Option (VaryingResults Content))
    (reported : results div.dataScenario = (VaryingScenario.run interface runSet [known.values]
      (create params newStats)).stats.results interface resultsOf) :
    ∃ chart, plot0 div results = some (some chart) ∧
      KeysChart plotKeys known (VaryingScenario.run interface runSet [known.values] (create params newStats)).runs
        resultsOf chart := by
  have ran : Ran interface runSet newStats params (combinations ([known].map (·.values))) _ :=
    ran_combinations interface runSet [known.values] params newStats
  obtain ⟨written, results_eq, reports⟩ : ∃ written, VaryingScenarioStats.results interface resultsOf _ = some written ∧
      ReportsAll [known] _ resultsOf written := ran.results (List.cons_ne_nil _ _) (List.nodup_singleton _)
  have ranAll := ran.runsAll fun _ => nodup_values
  rcases typed with ⟨typed, xKey, rfl⟩ | ⟨typed, named, rfl⟩
  · obtain ⟨chart, drawn, shows⟩ := plotXY_shows reports ranAll xKey
    refine ⟨chart, ?_, shows⟩
    rw [plot0, reported, results_eq]
    simp [typed, drawn]
  · obtain ⟨chart, drawn, shows⟩ := plotRL_shows reports ranAll named
    refine ⟨chart, ?_, shows⟩
    rw [plot0, reported, results_eq]
    simp [typed, drawn]

theorem key_chart_of_rates :
    ∃ chart, plot0 ⟨some "r-l", "rates", none, none, none, none⟩
        (fun _ => (VaryingScenario.run textInterface recordSet [rateVariable.values] (create [[]] [])).stats.results
          textInterface numberedResults) = some (some chart) ∧
      KeysChart ["send-msg-rate", "avg-latency"] rateVariable
        (VaryingScenario.run textInterface recordSet [rateVariable.values] (create [[]] [])).runs numberedResults
        chart :=
  key_charts_show_runs textInterface recordSet numberedResults [[]] [] rateVariable _ _ (.inr ⟨rfl, rfl, rfl⟩) _ rfl

end

end PerfTestProof
