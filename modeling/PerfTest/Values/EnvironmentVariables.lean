import PerfTest.Values.KeyValuePairs

namespace PerfTestModel

structure ProgramOption where
  opt : Option String
  longOpt : String
  deriving DecidableEq, Repr

structure ParsedLine where
  hasOption : String → Bool
  getOptionValues : String → Option (List String)

namespace PerfTest

def getOptions : List ProgramOption :=
  [⟨some "?", "help"⟩, ⟨some "d", "id"⟩, ⟨some "h", "uri"⟩, ⟨some "H", "uris"⟩, ⟨some "t", "type"⟩,
    ⟨some "e", "exchange"⟩, ⟨some "u", "queue"⟩, ⟨some "k", "routing-key"⟩, ⟨some "K", "random-routing-key"⟩,
    ⟨some "sb", "skip-binding-queues"⟩, ⟨some "i", "interval"⟩, ⟨some "r", "rate"⟩, ⟨some "R", "consumer-rate"⟩,
    ⟨some "x", "producers"⟩, ⟨some "y", "consumers"⟩, ⟨some "S", "slow-start"⟩, ⟨some "X", "producer-channel-count"⟩,
    ⟨some "Y", "consumer-channel-count"⟩, ⟨some "m", "ptxsize"⟩, ⟨some "n", "ctxsize"⟩, ⟨some "c", "confirm"⟩,
    ⟨some "ct", "confirm-timeout"⟩, ⟨some "a", "autoack"⟩, ⟨some "A", "multi-ack-every"⟩, ⟨some "q", "qos"⟩,
    ⟨some "Q", "global-qos"⟩, ⟨some "s", "size"⟩, ⟨some "z", "time"⟩, ⟨some "C", "pmessages"⟩,
    ⟨some "D", "cmessages"⟩, ⟨some "f", "flag"⟩, ⟨some "M", "framemax"⟩, ⟨some "b", "heartbeat"⟩,
    ⟨some "p", "predeclared"⟩, ⟨some "B", "body"⟩, ⟨some "T", "body-content-type"⟩, ⟨some "o", "output-file"⟩,
    ⟨some "ad", "auto-delete"⟩, ⟨some "ms", "use-millis"⟩, ⟨some "qa", "queue-args"⟩, ⟨some "L", "consumer-latency"⟩,
    ⟨some "udsc", "use-default-ssl-context"⟩, ⟨some "se", "sasl-external"⟩, ⟨some "v", "version"⟩,
    ⟨some "qp", "queue-pattern"⟩, ⟨some "qpf", "queue-pattern-from"⟩, ⟨some "qpt", "queue-pattern-to"⟩,
    ⟨some "hst", "heartbeat-sender-threads"⟩, ⟨some "mp", "message-properties"⟩,
    ⟨some "rkcs", "routing-key-cache-size"⟩, ⟨some "E", "exclusive"⟩, ⟨some "P", "publishing-interval"⟩,
    ⟨some "prsd", "producer-random-start-delay"⟩, ⟨some "pst", "producer-scheduler-threads"⟩,
    ⟨some "niot", "nio-threads"⟩, ⟨some "niotp", "nio-thread-pool"⟩, ⟨some "mh", "metrics-help"⟩,
    ⟨some "env", "environment-variables"⟩, ⟨some "dcr", "disable-connection-recovery"⟩,
    ⟨some "ctp", "consumers-thread-pools"⟩, ⟨some "st", "shutdown-timeout"⟩, ⟨some "sst", "servers-startup-timeout"⟩,
    ⟨some "sul", "servers-up-limit"⟩, ⟨some "vr", "variable-rate"⟩, ⟨some "vs", "variable-size"⟩,
    ⟨some "vl", "variable-latency"⟩, ⟨some "po", "polling"⟩, ⟨some "pi", "polling-interval"⟩, ⟨some "na", "nack"⟩,
    ⟨some "re", "requeue"⟩, ⟨some "jb", "json-body"⟩, ⟨some "bfc", "body-field-count"⟩, ⟨some "bc", "body-count"⟩,
    ⟨some "ca", "consumer-args"⟩, ⟨some "cri", "connection-recovery-interval"⟩, ⟨some "qf", "queue-file"⟩,
    ⟨some "sni", "server-name-indication"⟩, ⟨some "qq", "quorum-queue"⟩, ⟨some "sq", "stream-queue"⟩,
    ⟨some "ew", "exit-when"⟩, ⟨some "csd", "consumer-start-delay"⟩, ⟨some "em", "exposed-metrics"⟩,
    ⟨some "mf", "metrics-format"⟩, ⟨some "mlb", "max-length-bytes"⟩, ⟨some "smssb", "stream-max-segment-size-bytes"⟩,
    ⟨some "ll", "leader-locator"⟩, ⟨some "ma", "max-age"⟩, ⟨some "sco", "stream-consumer-offset"⟩,
    ⟨some "ei", "expected-instances"⟩, ⟨some "isn", "instance-sync-namespace"⟩,
    ⟨some "ist", "instance-sync-timeout"⟩, ⟨some "o2uri", "oauth2-token-endpoint"⟩,
    ⟨some "o2id", "oauth2-client-id"⟩, ⟨some "o2sec", "oauth2-client-secret"⟩, ⟨some "o2gr", "oauth2-grant-type"⟩,
    ⟨some "o2p", "oauth2-parameters"⟩, ⟨none, "verbose"⟩, ⟨none, "verbose-full"⟩,
    ⟨some "tsbs", "tcp-send-buffer-size"⟩, ⟨some "trbs", "tcp-receive-buffer-size"⟩, ⟨some "tnd", "tcp-no-delay"⟩,
    ⟨some "cal", "connection-allocation"⟩, ⟨some "nty", "netty"⟩, ⟨some "ntyt", "netty-threads"⟩,
    ⟨some "ntyep", "netty-epoll"⟩, ⟨some "ntykq", "netty-kqueue"⟩]

def metricsOptions : List ProgramOption :=
  [⟨some "mt", "metrics-tags"⟩, ⟨some "mcla", "metrics-command-line-arguments"⟩, ⟨some "mpx", "metrics-prefix"⟩,
    ⟨some "mc", "metrics-client"⟩, ⟨some "mcl", "metrics-class-loader"⟩, ⟨some "mjm", "metrics-jvm-memory"⟩,
    ⟨some "mjgc", "metrics-jvm-gc"⟩, ⟨some "mjp", "metrics-processor"⟩, ⟨some "mjt", "metrics-jvm-thread"⟩,
    ⟨some "mpr", "metrics-prometheus"⟩, ⟨some "mpe", "metrics-prometheus-endpoint"⟩,
    ⟨some "mpp", "metrics-prometheus-port"⟩, ⟨some "mda", "metrics-datadog"⟩,
    ⟨some "mdk", "metrics-datadog-api-key"⟩, ⟨some "mds", "metrics-datadog-step-size"⟩,
    ⟨some "mdak", "metrics-datadog-application-key"⟩, ⟨some "mdh", "metrics-datadog-host-tag"⟩,
    ⟨some "mdd", "metrics-datadog-descriptions"⟩, ⟨some "mdu", "metrics-datadog-uri"⟩, ⟨some "mjx", "metrics-jmx"⟩]

def allOptions : List ProgramOption := getOptions ++ metricsOptions

def LONG_OPTION_TO_ENVIRONMENT_VARIABLE (option : String) : String :=
  String.ofList (option.toList.map fun c => Char.toUpper (if c = '-' then '_' else c))

def ENVIRONMENT_VARIABLE_PREFIX (environment : String → Option String) (name : String) : String :=
  match environment "RABBITMQ_PERF_TEST_ENV_PREFIX" with
  | none => name
  | some start =>
    if Java.trim start = "" then name
    else if start.endsWith "_" then start ++ name
    else start ++ "_" ++ name

def argumentLookup (environment : String → Option String) (longOption : String) : Option String :=
  environment (ENVIRONMENT_VARIABLE_PREFIX environment (LONG_OPTION_TO_ENVIRONMENT_VARIABLE longOption))

def usageWithEnvironmentVariables (options : List ProgramOption) : List String :=
  (options.filter fun option => option.opt ≠ some "?" ∧ option.opt ≠ some "v" ∧ option.opt ≠ some "env").map
    fun option => LONG_OPTION_TO_ENVIRONMENT_VARIABLE option.longOpt

end PerfTest

structure CommandLineProxy where
  options : List ProgramOption
  delegate : ParsedLine
  environment : String → Option String

namespace CommandLineProxy

variable (proxy : CommandLineProxy)

def optionToLongOption (opt : String) : Option String :=
  (proxy.options.find? fun option => option.opt = some opt).map ProgramOption.longOpt

def argumentLookup (opt : String) : Option String :=
  (proxy.optionToLongOption opt).bind (PerfTest.argumentLookup proxy.environment)

def override {T : Type} (opt : String) (argumentValue : T) (convert : String → T) : T :=
  match proxy.argumentLookup opt with
  | none => argumentValue
  | some value => convert value

def hasOption (opt : String) : Bool := proxy.override opt (proxy.delegate.hasOption opt) parseBoolean

def getOptionValue (opt : String) (default_ : Option String) : Option String :=
  proxy.override opt (((proxy.delegate.getOptionValues opt).bind List.head?).or default_) some

def getOptionValues (opt : String) : Option (List String) :=
  proxy.override opt (proxy.delegate.getOptionValues opt) fun value => some (Java.split ',' value)

end CommandLineProxy

end PerfTestModel

namespace PerfTestProof

open PerfTestModel PerfTestModel.PerfTest

section Letters

def isOptionLetter (code : ℕ) : Bool := 97 ≤ code && code ≤ 122 || 48 ≤ code && code ≤ 57 || code == 45

theorem isOptionLetter_iff {code : ℕ} :
    isOptionLetter code = true ↔ 97 ≤ code ∧ code ≤ 122 ∨ 48 ≤ code ∧ code ≤ 57 ∨ code = 45 := by
  simp [isOptionLetter, or_assoc]

def bytesOf (text : String) : List ℕ := text.toByteArray.data.toList.map UInt8.toNat

theorem bytesOf_eq (text : String) : bytesOf text = (text.toList.flatMap String.utf8EncodeChar).map UInt8.toNat := by
  unfold bytesOf
  rw [← String.utf8Encode_toList, List.utf8Encode, List.toList_data_toByteArray]

theorem one_byte {c : Char} (letters : ((String.utf8EncodeChar c).map UInt8.toNat).all isOptionLetter = true) :
    (String.utf8EncodeChar c).map UInt8.toNat = [c.toNat] := by
  have first {code : ℕ} (high : 192 ≤ code) (rest : List ℕ) (all : (code :: rest).all isOptionLetter = true) :
      False := by
    rw [List.all_cons, Bool.and_eq_true, isOptionLetter_iff] at all
    omega
  have byte (code : ℕ) : (UInt8.ofNat code).toNat = code % 256 := UInt8.toNat_ofNat'
  revert letters
  unfold String.utf8EncodeChar
  dsimp only
  split
  next single =>
    intro _
    rw [List.map_singleton, byte, Nat.mod_eq_of_lt (by omega)]
    rfl
  next =>
    split
    next => exact fun all => (first (by rw [byte]; omega) _ all).elim
    next =>
      split
      next => exact fun all => (first (by rw [byte]; omega) _ all).elim
      next => exact fun all => (first (by rw [byte]; omega) _ all).elim

theorem bytes_of_letters {text : String} (letters : (bytesOf text).all isOptionLetter = true) :
    bytesOf text = text.toList.map Char.toNat := by
  rw [bytesOf_eq] at letters ⊢
  generalize text.toList = chars at letters ⊢
  induction chars with
  | nil => rfl
  | cons c chars ih =>
    rw [List.flatMap_cons, List.map_append, List.all_append, Bool.and_eq_true] at letters
    rw [List.flatMap_cons, List.map_append, one_byte letters.1, ih letters.2]
    rfl

theorem chars_of_letters {text : String} (letters : (bytesOf text).all isOptionLetter = true) :
    ∀ c ∈ text.toList, isOptionLetter c.toNat = true := by
  rw [bytes_of_letters letters, List.all_map] at letters
  exact fun c member => List.all_eq_true.mp letters c member

def variableLetter (c : Char) : Char := Char.toUpper (if c = '-' then '_' else c)

theorem letters_injective {c other : Char} (letter : isOptionLetter c.toNat = true)
    (otherLetter : isOptionLetter other.toNat = true) (same : variableLetter c = variableLetter other) : c = other := by
  have range {code : ℕ} (letter : isOptionLetter code = true) : code ∈ List.range' 45 78 := by
    rw [isOptionLetter_iff] at letter
    exact List.mem_range'_1.mpr (by omega)
  have letters : ∀ code ∈ List.range' 45 78, ∀ otherCode ∈ List.range' 45 78, isOptionLetter code = true →
      isOptionLetter otherCode = true → variableLetter (Char.ofNat code) = variableLetter (Char.ofNat otherCode) →
      code = otherCode := by
    decide +kernel
  have codes := letters c.toNat (range letter) other.toNat (range otherLetter) letter otherLetter
  rw [Char.ofNat_toNat, Char.ofNat_toNat] at codes
  rw [← Char.ofNat_toNat c, codes same, Char.ofNat_toNat]

theorem map_letters_injective {first second : List Char} (letters : ∀ c ∈ first, isOptionLetter c.toNat = true)
    (otherLetters : ∀ c ∈ second, isOptionLetter c.toNat = true)
    (same : first.map variableLetter = second.map variableLetter) : first = second := by
  induction first generalizing second with
  | nil => exact (List.map_eq_nil_iff.mp same.symm).symm
  | cons c first ih =>
    cases second with
    | nil => cases same
    | cons other second =>
      obtain ⟨head, tail⟩ := List.cons.inj same
      rw [List.forall_mem_cons] at letters otherLetters
      rw [letters_injective letters.1 otherLetters.1 head, ih letters.2 otherLetters.2 tail]

end Letters

section Table

def codeOf (text : String) : ℕ := (bytesOf text).foldl (fun code byte => code * 256 + byte) 0

/-- Long names consist of lower-case letters, digits and hyphens. None ends the name of the variable with the prefix. -/
theorem longOpts_checked : (allOptions.all fun option => (bytesOf option.longOpt).all isOptionLetter &&
    !(bytesOf option.longOpt).isSuffixOf (bytesOf "rabbitmq-perf-test-env-prefix")) = true := by
  decide +kernel

theorem longOpts_distinct : (allOptions.map fun option => codeOf option.longOpt).Nodup := by decide +kernel

theorem opts_distinct : (allOptions.filterMap fun option => option.opt.map codeOf).Nodup := by decide +kernel

variable {option other : ProgramOption}

theorem longOpt_unique (listed : option ∈ allOptions) (otherListed : other ∈ allOptions)
    (same : option.longOpt = other.longOpt) : option = other :=
  List.inj_on_of_nodup_map longOpts_distinct listed otherListed (congrArg codeOf same)

theorem opt_unique {opt : String} (listed : option ∈ allOptions) (otherListed : other ∈ allOptions)
    (named : option.opt = some opt) (otherNamed : other.opt = some opt) : option = other := by
  have apart := List.pairwise_filterMap.mp opts_distinct
  by_contra different
  have _ : Std.Symm fun first second : ProgramOption => ∀ short, first.opt.map codeOf = some short →
      ∀ otherShort, second.opt.map codeOf = some otherShort → short ≠ otherShort :=
    ⟨fun _ _ apart short found otherShort otherFound => (apart otherShort otherFound short found).symm⟩
  refine apart.forall listed otherListed different (codeOf opt) ?_ (codeOf opt) ?_ rfl
  · rw [named, Option.map_some]
  · rw [otherNamed, Option.map_some]

theorem longOpt_letters (listed : option ∈ allOptions) : (bytesOf option.longOpt).all isOptionLetter = true := by
  have checked := List.all_eq_true.mp longOpts_checked option listed
  rw [Bool.and_eq_true] at checked
  exact checked.1

theorem longOption_injective (listed : option ∈ allOptions) (otherListed : other ∈ allOptions)
    (same : LONG_OPTION_TO_ENVIRONMENT_VARIABLE option.longOpt = LONG_OPTION_TO_ENVIRONMENT_VARIABLE other.longOpt) :
    option = other := by
  apply longOpt_unique listed otherListed
  rw [← String.toList_inj]
  exact map_letters_injective (chars_of_letters (longOpt_letters listed))
    (chars_of_letters (longOpt_letters otherListed)) (String.ofList_inj.mp same)

theorem variable_not_suffix (listed : option ∈ allOptions) :
    ¬(LONG_OPTION_TO_ENVIRONMENT_VARIABLE option.longOpt).toList <:+ "RABBITMQ_PERF_TEST_ENV_PREFIX".toList := by
  have checked := List.all_eq_true.mp longOpts_checked option listed
  rw [Bool.and_eq_true, Bool.not_eq_true', Bool.eq_false_iff, Ne, List.isSuffixOf_iff_suffix] at checked
  have letters : (bytesOf "rabbitmq-perf-test-env-prefix").all isOptionLetter = true := by decide +kernel
  have upper : "RABBITMQ_PERF_TEST_ENV_PREFIX".toList = "rabbitmq-perf-test-env-prefix".toList.map variableLetter := by
    decide
  rintro ⟨start, whole⟩
  apply checked.2
  rw [upper, LONG_OPTION_TO_ENVIRONMENT_VARIABLE, String.toList_ofList] at whole
  obtain ⟨before, after, split, _, same⟩ := List.map_eq_append_iff.mp whole.symm
  have inside : ∀ c ∈ after, isOptionLetter c.toNat = true :=
    fun c member => chars_of_letters letters c (split ▸ List.mem_append_right before member)
  have equal : after = option.longOpt.toList :=
    map_letters_injective inside (chars_of_letters checked.1) same
  rw [bytes_of_letters letters, bytes_of_letters checked.1, split, equal, List.map_append]
  exact List.suffix_append _ _

end Table

section Lookup

variable {environment : String → Option String} {option : ProgramOption}

def variableOf (environment : String → Option String) (option : ProgramOption) : String :=
  ENVIRONMENT_VARIABLE_PREFIX environment (LONG_OPTION_TO_ENVIRONMENT_VARIABLE option.longOpt)

theorem variable_start (environment : String → Option String) :
    ∃ start, ∀ name, ENVIRONMENT_VARIABLE_PREFIX environment name = start ++ name := by
  unfold ENVIRONMENT_VARIABLE_PREFIX
  cases environment "RABBITMQ_PERF_TEST_ENV_PREFIX" with
  | none => exact ⟨"", fun name => (String.empty_append).symm⟩
  | some start =>
    dsimp only
    split
    · exact ⟨"", fun name => (String.empty_append).symm⟩
    · split
      · exact ⟨start, fun name => rfl⟩
      · exact ⟨start ++ "_", fun name => rfl⟩

theorem variable_injective {other : ProgramOption} (listed : option ∈ allOptions) (otherListed : other ∈ allOptions)
    (same : variableOf environment option = variableOf environment other) : option = other := by
  obtain ⟨start, starts⟩ := variable_start environment
  unfold variableOf at same
  rw [starts, starts, String.append_right_inj] at same
  exact longOption_injective listed otherListed same

theorem variable_ne_start (listed : option ∈ allOptions) :
    variableOf environment option ≠ "RABBITMQ_PERF_TEST_ENV_PREFIX" := by
  obtain ⟨start, starts⟩ := variable_start environment
  intro same
  unfold variableOf at same
  rw [starts] at same
  apply variable_not_suffix listed
  rw [← same, String.toList_append]
  exact List.suffix_append _ _

/-- Setting the variable of an option leaves the names of all variables. -/
theorem variable_set (listed : option ∈ allOptions) (value : Option String) :
    variableOf (Function.update environment (variableOf environment option) value) = variableOf environment := by
  funext other
  unfold variableOf ENVIRONMENT_VARIABLE_PREFIX
  rw [Function.update_of_ne]
  exact (variable_ne_start listed).symm

theorem find_option {opt : String} (listed : option ∈ allOptions) (named : option.opt = some opt) :
    allOptions.find? (fun option => option.opt = some opt) = some option := by
  cases found : allOptions.find? (fun option => option.opt = some opt) with
  | none =>
    have absent := List.find?_eq_none.mp found option listed
    simp [named] at absent
  | some other =>
    have otherNamed : other.opt = some opt := by simpa using List.find?_some found
    rw [opt_unique (List.mem_of_find?_eq_some found) listed otherNamed named]

/-- The variable of an option decides about the short name of this option, and about no other name. -/
theorem argumentLookup_set (listed : option ∈ allOptions) (value opt : String) (line other : ParsedLine) :
    CommandLineProxy.argumentLookup
        ⟨allOptions, other, Function.update environment (variableOf environment option) (some value)⟩ opt =
      if option.opt = some opt then some value
      else CommandLineProxy.argumentLookup ⟨allOptions, line, environment⟩ opt := by
  have lookup (parsed : ParsedLine) (reached : String → Option String) :
      CommandLineProxy.argumentLookup ⟨allOptions, parsed, reached⟩ opt =
        (allOptions.find? fun option => option.opt = some opt).bind fun option =>
          reached (variableOf reached option) := by
    unfold CommandLineProxy.argumentLookup CommandLineProxy.optionToLongOption
    rw [Option.bind_map]
    rfl
  rw [lookup, lookup, variable_set listed]
  split
  next named =>
    rw [find_option listed named, Option.bind_some, Function.update_self]
  next other =>
    cases found : allOptions.find? (fun option => option.opt = some opt) with
    | none => rfl
    | some asked =>
      have named : asked.opt = some opt := by simpa using List.find?_some found
      rw [Option.bind_some, Option.bind_some, Function.update_of_ne]
      intro same
      have equal := variable_injective (List.mem_of_find?_eq_some found) listed same
      exact other (equal ▸ named)

theorem override_congr {T : Type} {proxy changed : CommandLineProxy} {opt : String} {argumentValue : T}
    {convert : String → T} (same : changed.argumentLookup opt = proxy.argumentLookup opt) :
    changed.override opt argumentValue convert = proxy.override opt argumentValue convert := by
  unfold CommandLineProxy.override
  rw [same]

theorem override_some {T : Type} {proxy : CommandLineProxy} {opt value : String} {argumentValue : T}
    {convert : String → T} (found : proxy.argumentLookup opt = some value) :
    proxy.override opt argumentValue convert = convert value := by
  unfold CommandLineProxy.override
  rw [found]

theorem override_none {T : Type} {proxy : CommandLineProxy} {opt : String} {argumentValue : T}
    {convert : String → T} (absent : proxy.argumentLookup opt = none) :
    proxy.override opt argumentValue convert = argumentValue := by
  unfold CommandLineProxy.override
  rw [absent]

structure Without (option : ProgramOption) (opt : String) (values : List String) (line other : ParsedLine) : Prop where
  given : line.hasOption opt = true
  values : line.getOptionValues opt = if values = [] then none else some values
  others : ∀ asked, asked ≠ opt → asked ≠ option.longOpt →
    other.hasOption asked = line.hasOption asked ∧ other.getOptionValues asked = line.getOptionValues asked

/-- An option may be given by its variable. The other options are read as before, and the option itself exactly where
    the value is "true" for a flag, the first value for a single one, or the values without commas for several. -/
theorem environment_as_command_line {line other : ParsedLine} {opt value : String} {values : List String}
    (listed : option ∈ allOptions) (named : option.opt = some opt)
    (unset : environment (variableOf environment option) = none) (without : Without option opt values line other) :
    let proxy : CommandLineProxy := ⟨allOptions, line, environment⟩
    let moved : CommandLineProxy :=
      ⟨allOptions, other, Function.update environment (variableOf environment option) (some value)⟩
    (∀ asked default_, asked ≠ opt → asked ≠ option.longOpt →
      moved.hasOption asked = proxy.hasOption asked ∧
        moved.getOptionValue asked default_ = proxy.getOptionValue asked default_ ∧
        moved.getOptionValues asked = proxy.getOptionValues asked) ∧
      (moved.hasOption opt = proxy.hasOption opt ↔ parseBoolean value = true) ∧
      (∀ default_, values ≠ [] →
        (moved.getOptionValue opt default_ = proxy.getOptionValue opt default_ ↔ values.head? = some value)) ∧
      ∀ some_ : values ≠ [], value.toList = [','].intercalate (values.map String.toList) →
        (moved.getOptionValues opt = proxy.getOptionValues opt ↔
          (∀ part ∈ values, ',' ∉ part.toList) ∧ (values.getLast some_ ≠ "" ∨ values = [""])) := by
  intro proxy moved
  have own : moved.argumentLookup opt = some value := by
    rw [argumentLookup_set listed value opt line other, if_pos named]
  have absent : proxy.argumentLookup opt = none := by
    unfold CommandLineProxy.argumentLookup CommandLineProxy.optionToLongOption
    rw [find_option listed named]
    exact unset
  refine ⟨fun asked default_ different notLong => ?_, ?_, fun default_ some_ => ?_, fun some_ whole => ?_⟩
  · obtain ⟨has, read⟩ := without.others asked different notLong
    have same : moved.argumentLookup asked = proxy.argumentLookup asked := by
      rw [argumentLookup_set listed value asked line other, if_neg]
      exact fun equal => different (Option.some.inj (equal.symm.trans named))
    refine ⟨?_, ?_, ?_⟩
    · exact (congrArg (moved.override asked · _) has).trans (override_congr same)
    · exact (congrArg (fun found : Option (List String) => moved.override asked ((found.bind _).or _) _) read).trans
        (override_congr same)
    · exact (congrArg (moved.override asked · _) read).trans (override_congr same)
  · unfold CommandLineProxy.hasOption
    rw [override_some own, override_none absent, without.given]
  · unfold CommandLineProxy.getOptionValue
    rw [override_some own, override_none absent, without.values, if_neg some_, Option.bind_some]
    cases values with
    | nil => exact absurd rfl some_
    | cons first rest =>
      rw [List.head?_cons, Option.some_or]
      exact eq_comm
  · unfold CommandLineProxy.getOptionValues
    rw [override_some own, override_none absent, without.values, if_neg some_, Option.some_inj]
    exact Java.split_intercalate_iff some_ whole

def prefixedVariables (name : String) : Option String :=
  if name = "RABBITMQ_PERF_TEST_ENV_PREFIX" then some "PERF_TEST" else none

def tokenParameters : ParsedLine :=
  ⟨(· == "o2p"), fun opt => if opt = "o2p" then some ["orgId=1234", "audience=rabbitmq"] else none⟩

theorem token_parameters_as_variable :
    CommandLineProxy.getOptionValues
        ⟨allOptions, ⟨fun _ => false, fun _ => none⟩,
          Function.update prefixedVariables "PERF_TEST_OAUTH2_PARAMETERS" (some "orgId=1234,audience=rabbitmq")⟩ "o2p" =
      CommandLineProxy.getOptionValues ⟨allOptions, tokenParameters, prefixedVariables⟩ "o2p" := by
  have name : variableOf prefixedVariables ⟨some "o2p", "oauth2-parameters"⟩ = "PERF_TEST_OAUTH2_PARAMETERS" := by
    decide +kernel
  have without : Without ⟨some "o2p", "oauth2-parameters"⟩ "o2p" ["orgId=1234", "audience=rabbitmq"] tokenParameters
      ⟨fun _ => false, fun _ => none⟩ := by
    refine ⟨rfl, rfl, fun asked different _ => ⟨?_, ?_⟩⟩
    · exact (beq_false_of_ne different).symm
    · exact (if_neg different).symm
  have unset : prefixedVariables (variableOf prefixedVariables ⟨some "o2p", "oauth2-parameters"⟩) = none := by
    rw [name]
    decide
  have whole : "orgId=1234,audience=rabbitmq".toList =
      [','].intercalate (["orgId=1234", "audience=rabbitmq"].map String.toList) := by decide
  rw [← name]
  obtain ⟨_, _, _, several⟩ := environment_as_command_line (by decide +kernel) rfl unset without
  exact (several (by decide) whole).mpr ⟨by decide, .inl (by decide)⟩

/-- The help shows two variables that are never read, since their options have no short name. -/
theorem help_shows_ignored_iff (environment : String → Option String) (listed : option ∈ getOptions) :
    (LONG_OPTION_TO_ENVIRONMENT_VARIABLE option.longOpt ∈ usageWithEnvironmentVariables getOptions ∧
      ∀ (line : ParsedLine) (value asked : String),
        CommandLineProxy.argumentLookup
            ⟨allOptions, line, Function.update environment (variableOf environment option) (some value)⟩ asked =
          CommandLineProxy.argumentLookup ⟨allOptions, line, environment⟩ asked) ↔
      option.longOpt = "verbose" ∨ option.longOpt = "verbose-full" := by
  have table : getOptions.filter (fun option => option.opt = none) = [⟨none, "verbose"⟩, ⟨none, "verbose-full"⟩] := by
    decide +kernel
  have listedAmongAll : option ∈ allOptions := List.mem_append_left _ listed
  constructor
  · rintro ⟨_, ignored⟩
    cases named : option.opt with
    | none =>
      have unnamed : option ∈ getOptions.filter fun option => option.opt = none :=
        List.mem_filter.mpr ⟨listed, decide_eq_true named⟩
      rw [table, List.mem_cons, List.mem_singleton] at unnamed
      exact unnamed.imp (congrArg ProgramOption.longOpt) (congrArg ProgramOption.longOpt)
    | some opt =>
      let line : ParsedLine := ⟨fun _ => false, fun _ => none⟩
      have set (value : String) :
          some value = CommandLineProxy.argumentLookup ⟨allOptions, line, environment⟩ opt := by
        rw [← ignored line value opt, argumentLookup_set listedAmongAll value opt line line, if_pos named]
      exact absurd ((set "true").trans (set "false").symm) (by decide)
  · intro long
    have unnamed : option.opt = none := by
      have inTable {other : ProgramOption} (member : other ∈ [⟨none, "verbose"⟩, ⟨none, "verbose-full"⟩])
          (same : option.longOpt = other.longOpt) : option.opt = none := by
        rw [← table] at member
        obtain ⟨otherListed, none⟩ := List.mem_filter.mp member
        rw [longOpt_unique listedAmongAll (List.mem_append_left _ otherListed) same]
        exact of_decide_eq_true none
      rcases long with verbose | full
      · exact inTable List.mem_cons_self verbose
      · exact inTable (List.mem_cons_of_mem _ List.mem_cons_self) full
    refine ⟨List.mem_map.mpr ⟨option, List.mem_filter.mpr ⟨listed, ?_⟩, rfl⟩, fun line value asked => ?_⟩
    · rw [unnamed]
      rfl
    · rw [argumentLookup_set listedAmongAll value asked line line, if_neg]
      rw [unnamed]
      exact Option.some_ne_none asked ∘ Eq.symm

theorem help_shows_verbose_ignored :
    LONG_OPTION_TO_ENVIRONMENT_VARIABLE "verbose" ∈ usageWithEnvironmentVariables getOptions ∧
      ∀ (line : ParsedLine) (value asked : String),
        CommandLineProxy.argumentLookup
            ⟨allOptions, line,
              Function.update prefixedVariables (variableOf prefixedVariables ⟨none, "verbose"⟩) (some value)⟩ asked =
          CommandLineProxy.argumentLookup ⟨allOptions, line, prefixedVariables⟩ asked := by
  have listed : (⟨none, "verbose"⟩ : ProgramOption) ∈ getOptions := by decide +kernel
  exact (help_shows_ignored_iff prefixedVariables listed).mpr (.inl rfl)

end Lookup

end PerfTestProof
