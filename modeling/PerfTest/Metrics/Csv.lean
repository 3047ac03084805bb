import PerfTest.Java.Formatter
import PerfTest.Systems.Csv

namespace PerfTestModel

open Java (RuntimeException DecimalSeparator Duration)
open Systems (Csv.LineBreak)

inductive TimeUnit
  | NANOSECONDS
  | MICROSECONDS
  | MILLISECONDS
  | SECONDS
  | MINUTES
  | HOURS
  | DAYS
  deriving DecidableEq, Repr

def TimeUnit.toString : TimeUnit → String
  | NANOSECONDS => "NANOSECONDS"
  | MICROSECONDS => "MICROSECONDS"
  | MILLISECONDS => "MILLISECONDS"
  | SECONDS => "SECONDS"
  | MINUTES => "MINUTES"
  | HOURS => "HOURS"
  | DAYS => "DAYS"

structure Platform where
  decimalSeparator : DecimalSeparator
  lineSeparator : Systems.Csv.LineBreak
  deriving DecidableEq, Repr

def Platform.newLine (platform : Platform) : String := String.ofList platform.lineSeparator.text

namespace MetricsFormatterUtils

def NANO_TO_SECOND : ℚ := 1000000000

/-- The nanoseconds become a `float` before they are divided, and the quotient is one again. -/
def formatTime (platform : Platform) (time : Duration) : Except RuntimeException String := do
  let nanos ← time.toNanos
  return Java.formatFixed platform.decimalSeparator 3 (Java.float (Java.float nanos / NANO_TO_SECOND))

def formatRate (platform : Platform) (rate : ℚ) : String :=
  if rate = 0 then toString (Java.longOfDouble rate)
  else if rate < 1 then Java.formatFixed platform.decimalSeparator 2 rate
  else if rate < 10 then Java.formatFixed platform.decimalSeparator 1 rate
  else toString (Java.longOfDouble rate)

end MetricsFormatterUtils

structure CsvMetricsFormatter where
  publishedEnabled : Bool
  receivedEnabled : Bool
  returnedEnabled : Bool
  confirmedEnabled : Bool
  testId : String
  unit : String
  unit_known : unit = "ms" ∨ unit = "µs"

structure Report where
  durationSinceStart : Duration
  publishedRate : ℚ
  confirmedRate : ℚ
  nackedRate : ℚ
  returnedRate : ℚ
  receivedRate : ℚ
  confirmedLatencyStats : Vector ℤ 6
  consumerLatencyStats : Vector ℤ 6

namespace CsvMetricsFormatter

def create (testId : String) (publishedEnabled receivedEnabled returnedEnabled confirmedEnabled : Bool)
    (latencyCollectionTimeUnit : TimeUnit) : Except RuntimeException CsvMetricsFormatter :=
  if latencyCollectionTimeUnit ≠ .MILLISECONDS ∧ latencyCollectionTimeUnit ≠ .NANOSECONDS then
    .error (.illegalArgument ("Latency collection unit must be ms or ns, not " ++ latencyCollectionTimeUnit.toString))
  else
    .ok {
      publishedEnabled, receivedEnabled, returnedEnabled, confirmedEnabled, testId
      unit := if latencyCollectionTimeUnit = .MILLISECONDS then "ms" else "µs"
      unit_known := by split <;> simp }

variable (formatter : CsvMetricsFormatter) (platform : Platform)

def shouldDisplayConsumerLatency : Bool := formatter.receivedEnabled

def shouldDisplayConfirmLatency : Bool := formatter.publishedEnabled && formatter.confirmedEnabled

def rate (rate : ℚ) (display : Bool) : String :=
  if display then MetricsFormatterUtils.formatRate platform rate else ""

def header : String :=
  let unit := formatter.unit
  "id,time (s),published (msg/s),returned (msg/s)," ++
    "confirmed (msg/s),nacked (msg/s)," ++
    s!"received (msg/s),min consumer latency ({unit}),median consumer latency ({unit})," ++
    s!"75th p. consumer latency ({unit}),95th p. consumer latency ({unit}),99th p. consumer latency ({unit})," ++
    s!"min confirm latency ({unit}),median confirm latency ({unit})," ++
    s!"75th p. confirm latency ({unit}),95th p. confirm latency ({unit}),99th p. confirm latency ({unit})" ++
    platform.newLine

def report (report : Report) : Except RuntimeException String := do
  let time ← MetricsFormatterUtils.formatTime platform report.durationSinceStart
  return formatter.testId ++
    "," ++
    time ++
    "," ++
    rate platform report.publishedRate formatter.publishedEnabled ++
    "," ++
    rate platform report.returnedRate (formatter.publishedEnabled && formatter.returnedEnabled) ++
    "," ++
    rate platform report.confirmedRate (formatter.publishedEnabled && formatter.confirmedEnabled) ++
    "," ++
    rate platform report.nackedRate (formatter.publishedEnabled && formatter.confirmedEnabled) ++
    "," ++
    rate platform report.receivedRate formatter.receivedEnabled ++
    "," ++
    (if formatter.shouldDisplayConsumerLatency then
      toString report.consumerLatencyStats[0] ++
        "," ++
        toString report.consumerLatencyStats[1] ++
        "," ++
        toString report.consumerLatencyStats[2] ++
        "," ++
        toString report.consumerLatencyStats[3] ++
        "," ++
        toString report.consumerLatencyStats[4] ++
        ","
    else ",,,,,") ++
    (if formatter.shouldDisplayConfirmLatency then
      toString report.confirmedLatencyStats[0] ++
        "," ++
        toString report.confirmedLatencyStats[1] ++
        "," ++
        toString report.confirmedLatencyStats[2] ++
        "," ++
        toString report.confirmedLatencyStats[3] ++
        "," ++
        toString report.confirmedLatencyStats[4]
    else ",,,,") ++
    platform.newLine

end CsvMetricsFormatter

inductive Statistic
  | min
  | median
  | percentile75
  | percentile95
  | percentile99
  deriving DecidableEq, Repr

namespace Statistic

def all : List Statistic := [min, median, percentile75, percentile95, percentile99]

def name : Statistic → String
  | min => "min"
  | median => "median"
  | percentile75 => "75th p."
  | percentile95 => "95th p."
  | percentile99 => "99th p."

def index : Statistic → Fin 6
  | min => 0
  | median => 1
  | percentile75 => 2
  | percentile95 => 3
  | percentile99 => 4

end Statistic

inductive Column
  | id
  | time
  | published
  | returned
  | confirmed
  | nacked
  | received
  | consumerLatency (statistic : Statistic)
  | confirmLatency (statistic : Statistic)
  deriving DecidableEq, Repr

namespace Column

def all : List Column :=
  [id, time, published, returned, confirmed, nacked, received] ++ Statistic.all.map consumerLatency ++
    Statistic.all.map confirmLatency

def name (unit : String) : Column → String
  | id => "id"
  | time => "time (s)"
  | published => "published (msg/s)"
  | returned => "returned (msg/s)"
  | confirmed => "confirmed (msg/s)"
  | nacked => "nacked (msg/s)"
  | received => "received (msg/s)"
  | consumerLatency statistic => s!"{statistic.name} consumer latency ({unit})"
  | confirmLatency statistic => s!"{statistic.name} confirm latency ({unit})"

def displayed (formatter : CsvMetricsFormatter) : Column → Bool
  | id => true
  | time => true
  | published => formatter.publishedEnabled
  | returned => formatter.publishedEnabled && formatter.returnedEnabled
  | confirmed => formatter.publishedEnabled && formatter.confirmedEnabled
  | nacked => formatter.publishedEnabled && formatter.confirmedEnabled
  | received => formatter.receivedEnabled
  | consumerLatency _ => formatter.receivedEnabled
  | confirmLatency _ => formatter.publishedEnabled && formatter.confirmedEnabled

def value (formatter : CsvMetricsFormatter) (platform : Platform) (report : Report) (time : String) : Column → String
  | id => formatter.testId
  | .time => time
  | published => MetricsFormatterUtils.formatRate platform report.publishedRate
  | returned => MetricsFormatterUtils.formatRate platform report.returnedRate
  | confirmed => MetricsFormatterUtils.formatRate platform report.confirmedRate
  | nacked => MetricsFormatterUtils.formatRate platform report.nackedRate
  | received => MetricsFormatterUtils.formatRate platform report.receivedRate
  | consumerLatency statistic => toString report.consumerLatencyStats[statistic.index]
  | confirmLatency statistic => toString report.confirmedLatencyStats[statistic.index]

def field (formatter : CsvMetricsFormatter) (platform : Platform) (report : Report) (time : String)
    (column : Column) : String :=
  if column.displayed formatter then column.value formatter platform report time else ""

end Column

def RowMatchesHeader (formatter : CsvMetricsFormatter) (platform : Platform) (report : Report) : Prop :=
  ∃ line time names fields,
    formatter.report platform report = .ok line ∧
    MetricsFormatterUtils.formatTime platform report.durationSinceStart = .ok time ∧
    Systems.Csv.read (formatter.header platform) = some [names] ∧ Systems.Csv.read line = some [fields] ∧
    names.length = 17 ∧ fields.length = 17 ∧
    names.zip fields = Column.all.map fun column =>
      (column.name formatter.unit, column.field formatter platform report time)

end PerfTestModel

namespace PerfTestProof

open PerfTestModel
open Java (DecimalSeparator)
open Systems

section Texts

variable (formatter : CsvMetricsFormatter) (platform : Platform) (report : Report)

theorem csvHeader_eq : formatter.header platform =
    ",".intercalate (Column.all.map (Column.name formatter.unit)) ++ platform.newLine := by
  refine congrArg (· ++ platform.newLine) ?_
  rcases formatter.unit_known with unit | unit <;> rw [unit] <;> decide +kernel

theorem hidden_confirms (shown : Bool) (first second third fourth fifth : String) :
    (if shown then first ++ "," ++ second ++ "," ++ third ++ "," ++ fourth ++ "," ++ fifth else ",,,,") =
      ",".intercalate ([first, second, third, fourth, fifth].map fun text => if shown then text else "") := by
  cases shown
  · have hidden : ",,,," = ",".intercalate ["", "", "", "", ""] := by decide
    exact hidden
  · simp only [if_true, List.map_cons, List.map_nil, String.intercalate_cons_cons, String.intercalate_singleton,
      String.append_assoc]

theorem hidden_consumers (shown : Bool) (first second third fourth fifth : String) :
    (if shown then first ++ "," ++ second ++ "," ++ third ++ "," ++ fourth ++ "," ++ fifth ++ "," else ",,,,,") =
      ",".intercalate ([first, second, third, fourth, fifth].map fun text => if shown then text else "") ++ "," := by
  rw [← hidden_confirms]
  cases shown <;> rfl

theorem csvReport_eq : formatter.report platform report =
    (MetricsFormatterUtils.formatTime platform report.durationSinceStart).map fun time =>
      ",".intercalate (Column.all.map (Column.field formatter platform report time)) ++ platform.newLine := by
  unfold CsvMetricsFormatter.report
  cases MetricsFormatterUtils.formatTime platform report.durationSinceStart with
  | error exception => rfl
  | ok time =>
    refine congrArg (fun text => Except.ok (text ++ platform.newLine)) ?_
    rw [hidden_confirms, hidden_consumers]
    simp only [Column.all, Statistic.all, List.map_cons, List.map_nil, List.cons_append, List.nil_append,
      String.intercalate_cons_cons, String.intercalate_singleton, String.append_assoc]
    rfl

theorem formatTime_ok {time : Java.Duration} {text : String} :
    MetricsFormatterUtils.formatTime platform time = .ok text ↔ Java.long time.nanoseconds = time.nanoseconds ∧
      text = Java.formatFixed platform.decimalSeparator 3
        (Java.float (Java.float time.nanoseconds / MetricsFormatterUtils.NANO_TO_SECOND)) := by
  unfold MetricsFormatterUtils.formatTime
  cases nanos : time.toNanos with
  | error exception =>
    constructor
    · intro formatted
      cases formatted
    · rintro ⟨fits, -⟩
      cases nanos.symm.trans (Java.toNanos_ok.mpr ⟨fits, rfl⟩)
  | ok nanos' =>
    obtain ⟨fits, rfl⟩ := Java.toNanos_ok.mp nanos
    constructor
    · intro formatted
      exact ⟨fits, (Except.ok.inj formatted).symm⟩
    · rintro ⟨-, rfl⟩
      rfl

end Texts

section Fields

variable {formatter : CsvMetricsFormatter} {platform : Platform} {report : Report}

theorem separates_digit {c : Char} (ascii : c.isDigit) : Csv.separates c = false := by
  rw [Csv.separates_false]
  refine ⟨?_, ?_, ?_, ?_⟩ <;> rintro rfl <;> cases ascii

theorem integer_plain {value : ℤ} : Csv.Plain (toString value) := by
  intro c inside
  rcases Java.mem_toString inside with rfl | ascii
  · decide
  · exact separates_digit ascii

theorem fixed_plain {precision : ℕ} {value : ℚ} : Csv.Plain (Java.formatFixed .point precision value) := by
  intro c inside
  rcases Java.mem_formatFixed inside with rfl | ascii | rfl
  · decide
  · exact separates_digit ascii
  · decide

theorem rate_plain (point : platform.decimalSeparator = .point) {rate : ℚ} :
    Csv.Plain (MetricsFormatterUtils.formatRate platform rate) := by
  unfold MetricsFormatterUtils.formatRate
  rw [point]
  split
  · exact integer_plain
  split
  · exact fixed_plain
  split
  · exact fixed_plain
  · exact integer_plain

theorem field_plain (point : platform.decimalSeparator = .point) (plainId : Csv.Plain formatter.testId) {time : String}
    (formatted : MetricsFormatterUtils.formatTime platform report.durationSinceStart = .ok time) (column : Column) :
    Csv.Plain (column.field formatter platform report time) := by
  unfold Column.field
  split
  case isFalse =>
    intro c inside
    cases inside
  case isTrue =>
    cases column with
    | id => exact plainId
    | time =>
      obtain ⟨-, rfl⟩ := (formatTime_ok platform).mp formatted
      rw [point]
      exact fixed_plain
    | published => exact rate_plain point
    | returned => exact rate_plain point
    | confirmed => exact rate_plain point
    | nacked => exact rate_plain point
    | received => exact rate_plain point
    | consumerLatency statistic => exact integer_plain
    | confirmLatency statistic => exact integer_plain

theorem latency_plain (formatter : CsvMetricsFormatter) (statistic : Statistic) {latency : String}
    (plain : Csv.Plain latency) : Csv.Plain (statistic.name ++ latency ++ formatter.unit ++ ")") := by
  have named : Csv.Plain statistic.name := by
    cases statistic <;> exact Csv.plain_of_all _ (by decide)
  have unit : Csv.Plain formatter.unit := by
    rcases formatter.unit_known with unit | unit <;> rw [unit] <;> exact Csv.plain_of_all _ (by decide)
  exact ((named.append plain).append unit).append (Csv.plain_of_all _ (by decide))

theorem name_plain (formatter : CsvMetricsFormatter) (column : Column) : Csv.Plain (column.name formatter.unit) := by
  cases column with
  | id => exact Csv.plain_of_all "id" (by decide)
  | time => exact Csv.plain_of_all "time (s)" (by decide)
  | published => exact Csv.plain_of_all "published (msg/s)" (by decide)
  | returned => exact Csv.plain_of_all "returned (msg/s)" (by decide)
  | confirmed => exact Csv.plain_of_all "confirmed (msg/s)" (by decide)
  | nacked => exact Csv.plain_of_all "nacked (msg/s)" (by decide)
  | received => exact Csv.plain_of_all "received (msg/s)" (by decide)
  | consumerLatency statistic => exact latency_plain formatter statistic (Csv.plain_of_all _ (by decide))
  | confirmLatency statistic => exact latency_plain formatter statistic (Csv.plain_of_all _ (by decide))

theorem header_reads (formatter : CsvMetricsFormatter) (platform : Platform) (text : String) :
    Csv.read (formatter.header platform ++ text) =
      (Csv.read text).map (Column.all.map (Column.name formatter.unit) :: ·) := by
  have plain : ∀ name ∈ Column.all.map (Column.name formatter.unit), Csv.Plain name := by
    intro name inside
    obtain ⟨column, -, rfl⟩ := List.mem_map.mp inside
    exact name_plain formatter column
  rw [csvHeader_eq]
  exact Csv.read_append (List.cons_ne_nil _ _) plain platform.lineSeparator text

theorem row_reads (point : platform.decimalSeparator = .point) (plainId : Csv.Plain formatter.testId) {time : String}
    (formatted : MetricsFormatterUtils.formatTime platform report.durationSinceStart = .ok time) :
    ∃ line, formatter.report platform report = .ok line ∧ ∀ text, Csv.read (line ++ text) =
      (Csv.read text).map (Column.all.map (Column.field formatter platform report time) :: ·) := by
  have plain : ∀ field ∈ Column.all.map (Column.field formatter platform report time), Csv.Plain field := by
    intro field inside
    obtain ⟨column, -, rfl⟩ := List.mem_map.mp inside
    exact field_plain point plainId formatted column
  rw [csvReport_eq, formatted]
  exact ⟨_, rfl, Csv.read_append (List.cons_ne_nil _ _) plain platform.lineSeparator⟩

def Shows (formatter : CsvMetricsFormatter) (platform : Platform) (report : Report) (row : List String) : Prop :=
  ∃ time, MetricsFormatterUtils.formatTime platform report.durationSinceStart = .ok time ∧
    row = Column.all.map (Column.field formatter platform report time)

theorem reports_read (point : platform.decimalSeparator = .point) (plainId : Csv.Plain formatter.testId)
    (reports : List Report) (fit : ∀ report ∈ reports,
      Java.long report.durationSinceStart.nanoseconds = report.durationSinceStart.nanoseconds) :
    ∃ lines rows, reports.mapM (formatter.report platform) = .ok lines ∧
      Csv.read (String.join lines) = some rows ∧ List.Forall₂ (Shows formatter platform) reports rows := by
  induction reports with
  | nil => exact ⟨[], [], rfl, rfl, List.Forall₂.nil⟩
  | cons report reports ih =>
    obtain ⟨lines, rows, written, read, shown⟩ := ih fun other inside => fit other (List.mem_cons_of_mem _ inside)
    have formatted := (formatTime_ok platform).mpr ⟨fit report List.mem_cons_self, rfl⟩
    obtain ⟨line, reported, readLine⟩ := row_reads point plainId formatted
    refine ⟨line :: lines, _, ?_, ?_, List.Forall₂.cons ⟨_, formatted, rfl⟩ shown⟩
    · rw [List.mapM_cons, reported, written]
      rfl
    · rw [String.join_cons, readLine, read, Option.map_some]

/-- The file of a run: a record for the header and one for each report. -/
theorem file_reads (point : platform.decimalSeparator = .point) (plainId : Csv.Plain formatter.testId)
    (reports : List Report) (fit : ∀ report ∈ reports,
      Java.long report.durationSinceStart.nanoseconds = report.durationSinceStart.nanoseconds) :
    ∃ lines rows, reports.mapM (formatter.report platform) = .ok lines ∧
      Csv.read (formatter.header platform ++ String.join lines) =
        some (Column.all.map (Column.name formatter.unit) :: rows) ∧
      List.Forall₂ (Shows formatter platform) reports rows := by
  obtain ⟨lines, rows, written, read, shown⟩ := reports_read point plainId reports fit
  refine ⟨lines, rows, written, ?_, shown⟩
  rw [header_reads, read, Option.map_some]

end Fields

section Rows

variable {formatter : CsvMetricsFormatter} {platform : Platform} {report : Report}

/-- A row that matches is read back from its first two fields on. -/
theorem matches_reads (match_ : RowMatchesHeader formatter platform report) :
    ∃ time others, MetricsFormatterUtils.formatTime platform report.durationSinceStart = .ok time ∧
      Csv.read (formatter.testId ++ "," ++ (time ++ "," ++ others)) =
        some [Column.all.map (Column.field formatter platform report time)] := by
  obtain ⟨line, time, names, fields, reported, formatted, -, read, sameLength, fieldsLength, columns⟩ := match_
  have sameFields : fields = Column.all.map (Column.field formatter platform report time) := by
    have seconds := congrArg (List.map Prod.snd) columns
    rw [List.map_snd_zip (by omega), List.map_map] at seconds
    exact seconds
  have starts : Column.all.map (Column.field formatter platform report time) =
      formatter.testId :: time :: (Column.all.drop 2).map (Column.field formatter platform report time) := rfl
  have more : (Column.all.drop 2).map (Column.field formatter platform report time) ≠ [] := List.cons_ne_nil _ _
  rw [csvReport_eq, formatted] at reported
  obtain rfl := Except.ok.inj reported
  refine ⟨time, ",".intercalate ((Column.all.drop 2).map (Column.field formatter platform report time)) ++
    platform.newLine, formatted, ?_⟩
  rw [← sameFields, ← read]
  dsimp only
  rw [starts, String.intercalate_cons_cons, String.intercalate_cons_of_ne_nil more]
  simp only [String.append_assoc]

theorem plain_of_matches (match_ : RowMatchesHeader formatter platform report) :
    Csv.Plain formatter.testId := by
  obtain ⟨time, others, -, read⟩ := matches_reads match_
  exact (Csv.read_first read).1

theorem fits_of_matches (match_ : RowMatchesHeader formatter platform report) :
    Java.long report.durationSinceStart.nanoseconds = report.durationSinceStart.nanoseconds := by
  obtain ⟨time, -, formatted, -⟩ := matches_reads match_
  exact ((formatTime_ok platform).mp formatted).1

/-- With a decimal comma the time is two fields. -/
theorem point_of_matches (match_ : RowMatchesHeader formatter platform report) :
    platform.decimalSeparator = .point := by
  obtain ⟨time, others, formatted, read⟩ := matches_reads match_
  obtain ⟨-, fixed⟩ := (formatTime_ok platform).mp formatted
  obtain ⟨-, result, started, second⟩ := Csv.read_first read
  have timeField : result.field = time.toList := by
    have same : time = String.ofList result.field := Option.some.inj second
    rw [same, String.toList_ofList]
  have separatorIn : platform.decimalSeparator.char ∈ time.toList := fixed ▸ Java.separator_mem _ _ _
  have unquoted : (time ++ "," ++ others).toList.head? ≠ some '\x22' := by
    intro quoted
    obtain ⟨first, letters, starts⟩ := List.exists_cons_of_ne_nil (List.ne_nil_of_mem separatorIn)
    rw [String.toList_append, String.toList_append, starts] at quoted
    have quote : first = '\x22' := Option.some.inj quoted
    have inTime : '\x22' ∈ time.toList := by rw [starts, quote]; exact List.mem_cons_self
    rcases Java.mem_formatFixed (fixed ▸ inTime) with sign | digit | separator
    · cases sign
    · cases digit
    · cases separates : platform.decimalSeparator <;> rw [separates] at separator <;> cases separator
  have plain := Csv.plain_field ((Csv.rest_start _ unquoted).symm.trans started)
  cases separator : platform.decimalSeparator with
  | point => rfl
  | comma =>
    rw [separator] at separatorIn
    cases plain ',' (timeField ▸ separatorIn)

/-- A row of the CSV file reads as the 17 columns of the header exactly when the locale has a decimal point, the test
    ID has no comma, no quotation mark and no line break in it, and the duration fits in a `long` of nanoseconds. -/
theorem csv_rows_iff (formatter : CsvMetricsFormatter) (platform : Platform) (report : Report) :
    RowMatchesHeader formatter platform report ↔
      platform.decimalSeparator = .point ∧
      (∀ c ∈ formatter.testId.toList, c ≠ ',' ∧ c ≠ '\x22' ∧ c ≠ '\n' ∧ c ≠ '\r') ∧
      -2 ^ 63 ≤ report.durationSinceStart.nanoseconds ∧ report.durationSinceStart.nanoseconds < 2 ^ 63 := by
  constructor
  · intro match_
    exact ⟨point_of_matches match_, fun c inside => Csv.separates_false.mp (plain_of_matches match_ c inside),
      Java.long_eq_self.mp (fits_of_matches match_)⟩
  · rintro ⟨point, plainId, fits⟩
    have plain : Csv.Plain formatter.testId :=
      fun c inside => Csv.separates_false.mpr (plainId c inside)
    have formatted := (formatTime_ok platform).mpr ⟨Java.long_eq_self.mpr fits, rfl⟩
    obtain ⟨line, reported, reads⟩ := row_reads point plain formatted
    have header := header_reads formatter platform ""
    have row := reads ""
    rw [String.append_empty] at header row
    refine ⟨line, _, _, _, reported, formatted, header, row, rfl, rfl, ?_⟩
    rw [List.zip_map']

def confirming : CsvMetricsFormatter where
  publishedEnabled := true
  receivedEnabled := true
  returnedEnabled := false
  confirmedEnabled := true
  testId := "test"
  unit := "µs"
  unit_known := Or.inr rfl

def firstSecond : Report where
  durationSinceStart := ⟨1, 0, by decide, by decide⟩
  publishedRate := 1000
  confirmedRate := 1000
  nackedRate := 0
  returnedRate := 0
  receivedRate := 5 / 2
  confirmedLatencyStats := #v[1, 2, 3, 4, 5, 6]
  consumerLatencyStats := #v[1, 2, 3, 4, 5, 6]

/-- With a decimal comma the time of one second and the rate of 2.5 messages a second are two fields each. -/
theorem decimal_comma :
    CsvMetricsFormatter.create "test" true true false true .NANOSECONDS = .ok confirming ∧
    confirming.report ⟨.comma, .lf⟩ firstSecond = .ok "test,1,000,1000,,1000,0,2,5,1,2,3,4,5,1,2,3,4,5\n" ∧
    ¬ RowMatchesHeader confirming ⟨.comma, .lf⟩ firstSecond := by
  have reported : confirming.report ⟨.comma, .lf⟩ firstSecond =
      .ok "test,1,000,1000,,1000,0,2,5,1,2,3,4,5,1,2,3,4,5\n" := by decide +kernel
  refine ⟨rfl, reported, ?_⟩
  rintro ⟨line, time, names, fields, written, -, -, read, -, length, -⟩
  obtain rfl := Except.ok.inj (reported.symm.trans written)
  have nineteen : (Csv.read "test,1,000,1000,,1000,0,2,5,1,2,3,4,5,1,2,3,4,5\n").map (·.map List.length) =
      some [19] := by decide +kernel
  rw [read] at nineteen
  have same : fields.length = 19 := (List.cons.inj (Option.some.inj nineteen)).1
  omega

end Rows

end PerfTestProof
