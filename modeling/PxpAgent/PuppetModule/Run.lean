import Mathlib.Data.String.Basic
import PxpAgent.Basic
import PxpAgent.PuppetModule.Ruby

/-!
# PxpAgent.PuppetModule.Run — the `run` action of the puppet module

`pxp-module-puppet` is the external module that starts Puppet runs. Its `run`
action builds a command line and an environment from the request's input,
runs `puppet agent`, and reports the run from the last-run report Puppet
wrote. Everything the script does outside Ruby (the processes it starts, the
file system, the YAML loader and the clock) is a `Host`.

Main results:
* `commandArray_flags` — the command line is `[puppet_bin, "agent"]`, then the
  first occurrences of the user's flags, then the default flags the user did
  not give: `Array#|` also removes the user's own repeated flags;
* `environmentHash_entries` — for entries `K=V` the environment's keys are the
  `K`s in first-insertion order, and each maps to the text of its last `V` up
  to the next `=`, or to `nil` when that text is made of `=` only; so
  `A=b=c` gives `b` and `A=` gives `nil` (`environmentHash_second_separator`);
* `startRun_report_fields` — a loaded report's five fields are taken exactly
  when the run started in an earlier whole second than the report's time
  (`Time#to_i`), and are `"unknown"` otherwise;
* `startRun_exitcode`, `startRun_error_free_iff` — a result's `exitcode` is
  Puppet's exit status, and it reports no error exactly when Puppet exited 0
  and its report was found and loaded;
* `actionRun_result_keys` — every result the action returns has the seven
  keys its results schema requires, then `error_type` and `error` for a
  failure;
* `actionRun_escaping_exceptions` — after the output-files block, only a
  failing `--configprint` and a report file that holds no report raise out of
  the action;
* `isRunning_isDisabled_iff` — the two checks of Puppet's output match
  exactly the texts their regular expressions describe.

Each function has an inversion lemma (`getResultFromReport_ok`, `startRun_ok`,
`startRun_error`) and the results above are derived from those.

`actionRun` is `action_run` after its `output_files` block: the redirection of
its output to the files the agent names, with its `exit 5`, the exit handler
and `main` are modelled in `PxpAgent.PuppetModule.Script` (`scriptRun`).
Left out: the Windows default of `puppet_bin`.
-/

namespace PxpAgent.Puppet

open Ruby

/-! ## §1. Results -/

/-- A `Time`, in nanoseconds since the epoch: the resolution of `Time.now` and
of the times a last-run report records. -/
structure Time where
  nsec : Int
  deriving DecidableEq, Repr

/-- `Time#to_i`: the whole seconds, rounded down. -/
def Time.toI (t : Time) : Int := t.nsec / 1000000000

/-- The values a result holds. -/
inductive Value
  | str (s : String)
  | int (i : Int)
  | time (t : Time)
  deriving DecidableEq, Repr

/-- A result of the action: a hash from texts to values. -/
abbrev Result := RubyHash String Value

/-- The `Errors` module: the `error_type` of each failure. -/
def Errors.invalidJson : String := "invalid_json"
def Errors.noPuppetBin : String := "no_puppet_bin"
def Errors.noLastRunReport : String := "no_last_run_report"
def Errors.invalidLastRunReport : String := "invalid_last_run_report"
def Errors.alreadyRunning : String := "agent_already_running"
def Errors.disabled : String := "agent_disabled"
def Errors.failedToStart : String := "agent_failed_to_start"
def Errors.nonZeroExit : String := "agent_exit_non_zero"

/-- `DEFAULT_EXITCODE`. -/
def defaultExitcode : Int := -1

/-- `last_run_result(exitcode)`. -/
def lastRunResult (exitcode : Int) : Result :=
  RubyHash.empty.storeAll
    [("kind", .str "unknown"),
     ("time", .str "unknown"),
     ("transaction_uuid", .str "unknown"),
     ("environment", .str "unknown"),
     ("status", .str "unknown"),
     ("exitcode", .int exitcode),
     ("version", .int 1)]

/-- `make_error_result(exitcode, error_type, error_message)`. -/
def makeErrorResult (exitcode : Int) (errorType errorMessage : String) : Result :=
  ((lastRunResult exitcode).store "error_type" (.str errorType)).store "error" (.str errorMessage)

/-! ## §2. The host -/

/-- What `Puppet::Util::Execution.execute` returns for a process it ran. -/
structure ProcessOutput where
  output : String
  exitstatus : Int

/-- The fields of a last-run report the module reads. -/
structure LastRunReport where
  kind : String
  time : Time
  transactionUuid : String
  environment : String
  status : String

/-- A document `YAML.load_file` returns: a last-run report, or anything else. -/
inductive YamlDocument
  | report (r : LastRunReport)
  | other

/-- The environment `make_environment_hash` builds: `String#split` may give
`nil` for a key and for a value. -/
abbrev Environment := RubyHash (Option String) (Option String)

/-- The world outside the script. -/
structure Host where
  /-- `Puppet::Util::Execution.execute(command, custom_environment: env)`;
  `none` stands for a `nil` return. -/
  execute : List String → Environment → Option ProcessOutput
  /-- `File.exist?`. -/
  fileExists : String → Bool
  /-- `YAML.load_file`: the document, or the message of the exception raised. -/
  loadFile : String → Except String YamlDocument
  /-- `Time.now`, read as the run starts. -/
  now : Time

/-- An exception that escapes the script. -/
inductive ScriptError
  /-- `Puppet::ExecutionFailure`: a command run with `failonfail` exited non-zero. -/
  | executionFailure (command : List String) (exitstatus : Int)
  /-- `NoMethodError`: a loaded document that is not a report has no `time`. -/
  | noMethodError (name : String)
  deriving DecidableEq, Repr

/-! ## §3. Configuration and input -/

/-- `args["configuration"]` as the module's configuration schema admits it:
`puppet_bin`, when present, is a text. -/
structure Config where
  puppetBin : Option String := none

/-- The configuration `get_configuration` returns: `puppet_bin` is set and not
empty. -/
structure Configuration where
  puppetBin : String
  puppetBin_ne : puppetBin ≠ ""

/-- `args["input"]`: the `env` and `flags` arrays the `run` action's input
schema requires. -/
structure ActionInput where
  env : List String
  flags : List String

/-- `args["output_files"]`: where a non-blocking run's output goes. -/
structure OutputFiles where
  stdout : String
  stderr : String
  exitcode : String

/-- The arguments `JSON.parse` gives `action_run`. -/
structure ActionArgs where
  input : ActionInput
  configuration : Option Config := none
  outputFiles : Option OutputFiles := none

/-- The default `puppet_bin` away from Windows. -/
def defaultPuppetBin : String := "/opt/puppetlabs/bin/puppet"

/-- `get_configuration(args)` away from Windows: `args["configuration"] || {}`,
with a missing or empty `puppet_bin` replaced by the default. -/
def getConfiguration (args : ActionArgs) : Configuration :=
  match (args.configuration.getD {}).puppetBin with
  | some bin => if h : bin = "" then ⟨defaultPuppetBin, by decide⟩ else ⟨bin, h⟩
  | none => ⟨defaultPuppetBin, by decide⟩

/-- The flags every run gets. -/
def defaultFlags : List String := ["--onetime", "--no-daemonize", "--verbose"]

/-- `get_action_input(args)`: the user's flags united with the defaults. -/
def getActionInput (args : ActionArgs) : ActionInput :=
  { args.input with flags := arrayUnion args.input.flags defaultFlags }

/-- `make_command_array(config, action_input)`. -/
def makeCommandArray (config : Configuration) (actionInput : ActionInput) : List String :=
  [config.puppetBin, "agent"] ++ actionInput.flags

/-- `make_environment_hash(action_input)`: for each entry,
`key, value = entry.split('=')` and `env_hash[key] = value`. -/
def makeEnvironmentHash (actionInput : ActionInput) : Environment :=
  actionInput.env.foldl
    (fun envHash entry =>
      let fields := rubySplit entry '='
      envHash.store fields[0]? fields[1]?)
    RubyHash.empty

/-! ## §4. The run -/

/-- `running?(run_result)`. -/
def isRunning (runResult : String) : Bool :=
  containsSub "Run of Puppet configuration client already in progress".toList runResult.toList

/-- `disabled?(run_result)`: `/disabled(.*?)Use 'puppet agent --enable' to re-enable/m`
matches when the hint follows the first `disabled`. -/
def isDisabled (runResult : String) : Bool :=
  match afterFirst "disabled".toList runResult.toList with
  | some rest => containsSub "Use \x27puppet agent --enable\x27 to re-enable".toList rest
  | none => false

/-- `Puppet::Util::Execution.execute(command)` with its default
`failonfail: true`: a non-zero exit status raises. -/
def executeFailing (host : Host) (command : List String) :
    Except ScriptError (Option ProcessOutput) :=
  match host.execute command RubyHash.empty with
  | some out =>
    if out.exitstatus = 0 then .ok (some out) else .error (.executionFailure command out.exitstatus)
  | none => .ok none

/-- `check_config_print(cli_arg, config)`: the chomped output of
`puppet agent --configprint`. -/
def checkConfigPrint (host : Host) (cliArg : String) (config : Configuration) :
    Except ScriptError String := do
  let processOutput ← executeFailing host [config.puppetBin, "agent", "--configprint", cliArg]
  return chomp ((processOutput.map (·.output)).getD "")

/-- The five result fields a report supplies, in the order they are assigned. -/
def reportFields (report : LastRunReport) : List (String × Value) :=
  [("kind", .str report.kind),
   ("time", .time report.time),
   ("transaction_uuid", .str report.transactionUuid),
   ("environment", .str report.environment),
   ("status", .str report.status)]

/-- The end of `get_result_from_report`, once the report is loaded: the
report's fields replace the unknown ones when the run started in an earlier
second than the report's time. -/
def resultFromReport (exitcode : Int) (startTime : Time) (lastRunReportYaml : LastRunReport) :
    Result :=
  let runResult :=
    if exitcode = 0 then lastRunResult exitcode
    else makeErrorResult exitcode Errors.nonZeroExit "Puppet agent exited with a non 0 exitcode"
  if startTime.toI < lastRunReportYaml.time.toI then
    runResult.storeAll (reportFields lastRunReportYaml)
  else
    runResult

/-- `get_result_from_report(exitcode, config, start_time)`. -/
def getResultFromReport (host : Host) (exitcode : Int) (config : Configuration)
    (startTime : Time) : Except ScriptError Result := do
  let lastRunReport ← checkConfigPrint host "lastrunreport" config
  if lastRunReport.isEmpty then
    return makeErrorResult exitcode Errors.noLastRunReport
      "could not find the location of the last run report"
  else if !host.fileExists lastRunReport then
    return makeErrorResult exitcode Errors.noLastRunReport (lastRunReport ++ " doesn\x27t exist")
  else
    match host.loadFile lastRunReport with
    | .error e =>
      return makeErrorResult exitcode Errors.invalidLastRunReport
        (lastRunReport ++ " could not be loaded: " ++ e)
    | .ok .other => throw (.noMethodError "time")
    | .ok (.report lastRunReportYaml) => return resultFromReport exitcode startTime lastRunReportYaml

/-- `start_run(config, action_input)`. -/
def startRun (host : Host) (config : Configuration) (actionInput : ActionInput) :
    Except ScriptError Result :=
  let exitcode := defaultExitcode
  let cmd := makeCommandArray config actionInput
  let env := makeEnvironmentHash actionInput
  let startTime := host.now
  match host.execute cmd env with
  | none => .ok (makeErrorResult exitcode Errors.failedToStart "Failed to start Puppet agent")
  | some runResult =>
    let exitcode := runResult.exitstatus
    let puppetOutput := runResult.output
    if isDisabled puppetOutput then
      .ok (makeErrorResult exitcode Errors.disabled "Puppet agent is disabled")
    else if isRunning puppetOutput then
      .ok (makeErrorResult exitcode Errors.alreadyRunning "Puppet agent is already performing a run")
    else
      getResultFromReport host exitcode config startTime

/-- `run(config, action_input)`. -/
def run (host : Host) (config : Configuration) (actionInput : ActionInput) :
    Except ScriptError Result :=
  if !host.fileExists config.puppetBin then
    .ok (makeErrorResult defaultExitcode Errors.noPuppetBin
      ("Puppet executable \x27" ++ config.puppetBin ++ "\x27 does not exist"))
  else
    startRun host config actionInput

/-- `action_run(args)` after its `output_files` block, for arguments that
`JSON.parse` read (`none` when it failed). The block, which reopens `$stdout`
and `$stderr` on the output files and exits 5 when it cannot, and the exit
handler it installs are part of `scriptRun`. -/
def actionRun (host : Host) (args : Option ActionArgs) : Except ScriptError Result :=
  match args with
  | none =>
    .ok (makeErrorResult defaultExitcode Errors.invalidJson
      "Invalid json parsed on STDIN. Cannot start run action")
  | some args => run host (getConfiguration args) (getActionInput args)

/-! ## §5. The command line -/

/-- The value stored for the text `v` after a key's `=`: its part up to the
next `=`, or `nil` when `v` is made of `=` only (the empty text included). -/
def envValue (v : String) : Option String :=
  if ∀ c ∈ v.toList, c = '=' then none else some ⟨v.toList.takeWhile (· ≠ '=')⟩

/-- The fields of `K=V` for a key `K` that is not empty and has no `=`. -/
theorem rubySplit_key_value {key : String} (hkey : key ≠ "") (hsep : '=' ∉ key.toList)
    (v : String) :
    rubySplit (key ++ "=" ++ v) '=' =
      key :: (dropTrailingEmpty (splitFields '=' v.toList)).map String.mk := by
  have hne : key.toList ≠ [] := fun h => hkey (String.ext h)
  have htext : (key ++ "=" ++ v).toList = key.toList ++ '=' :: v.toList := by simp
  rw [rubySplit, htext, splitFields_append_sep hsep, dropTrailingEmpty_cons hne]
  rfl

theorem rubySplit_key_value_fields {key : String} (hkey : key ≠ "") (hsep : '=' ∉ key.toList)
    (v : String) :
    (rubySplit (key ++ "=" ++ v) '=')[0]? = some key ∧
      (rubySplit (key ++ "=" ++ v) '=')[1]? = envValue v := by
  rw [rubySplit_key_value hkey hsep]
  refine ⟨List.getElem?_cons_zero, ?_⟩
  rw [List.getElem?_cons_succ, ← List.head?_eq_getElem?, List.head?_map,
    head?_dropTrailingEmpty_splitFields, envValue]
  split <;> rfl

theorem makeEnvironmentHash_eq (actionInput : ActionInput) :
    makeEnvironmentHash actionInput =
      RubyHash.empty.storeAll (actionInput.env.map fun entry =>
        ((rubySplit entry '=')[0]?, (rubySplit entry '=')[1]?)) := by
  simp [makeEnvironmentHash, RubyHash.storeAll, List.foldl_map]

/-- The environment of entries `K=V`: the keys in first-insertion order, each
with the value of its last entry. -/
theorem environmentHash_entries (entries : List (String × String)) (flags : List String)
    (hkeys : ∀ e ∈ entries, e.1 ≠ "" ∧ '=' ∉ e.1.toList) :
    (makeEnvironmentHash ⟨entries.map (fun e => e.1 ++ "=" ++ e.2), flags⟩).keys =
        firstOccurrences (entries.map fun e => some e.1) ∧
      ∀ key, (makeEnvironmentHash ⟨entries.map (fun e => e.1 ++ "=" ++ e.2), flags⟩).get? (some key) =
        (entries.filter fun e => e.1 = key).getLast?.map fun e => envValue e.2 := by
  have hpairs : (entries.map fun e => e.1 ++ "=" ++ e.2).map (fun entry =>
      ((rubySplit entry '=')[0]?, (rubySplit entry '=')[1]?)) =
      entries.map fun e => (some e.1, envValue e.2) := by
    rw [List.map_map]
    refine List.map_congr_left fun e he => ?_
    obtain ⟨h0, h1⟩ := rubySplit_key_value_fields (hkeys e he).1 (hkeys e he).2 e.2
    simp only [Function.comp, h0, h1]
  refine ⟨?_, fun key => ?_⟩
  · rw [makeEnvironmentHash_eq, hpairs, RubyHash.keys_storeAll, List.map_map]
    rfl
  · rw [makeEnvironmentHash_eq, hpairs, RubyHash.get?_storeAll, RubyHash.get?_empty,
      Option.or_none, List.filter_map, List.getLast?_map, Option.map_map]
    simp only [Function.comp_def, Option.some.injEq]

/-- Entries with a repeated key, a value holding `=` and an empty value. -/
def sampleEntries : List (String × String) := [("A", "b=c"), ("B", ""), ("A", "d")]

theorem environmentHash_entries_sample :
    (makeEnvironmentHash ⟨sampleEntries.map (fun e => e.1 ++ "=" ++ e.2), []⟩).keys =
        firstOccurrences (sampleEntries.map fun e => some e.1) ∧
      ∀ key, (makeEnvironmentHash ⟨sampleEntries.map (fun e => e.1 ++ "=" ++ e.2), []⟩).get?
          (some key) = (sampleEntries.filter fun e => e.1 = key).getLast?.map fun e => envValue e.2 :=
  environmentHash_entries sampleEntries [] (by decide)

/-- The environment of one entry `K=V`: `K` holds what `split('=')` keeps of
`V`. -/
theorem makeEnvironmentHash_single {key : String} (hkey : key ≠ "") (hsep : '=' ∉ key.toList)
    (v : String) (flags : List String) :
    (makeEnvironmentHash ⟨[key ++ "=" ++ v], flags⟩).get? (some key) = some (envValue v) := by
  obtain ⟨h0, h1⟩ := rubySplit_key_value_fields hkey hsep v
  simp [makeEnvironmentHash_eq, RubyHash.get?_storeAll, h0, h1]

/-- `key, value = entry.split('=')` keeps only the text up to a second `=`, and
gives `nil` for an empty value: the entries `A=b=c` and `A=` give `A` the
values `b` and `nil`, not `b=c` and the empty text. -/
theorem environmentHash_second_separator :
    (makeEnvironmentHash ⟨["A=b=c"], []⟩).get? (some "A") = some (some "b") ∧
      (makeEnvironmentHash ⟨["A=b=c"], []⟩).get? (some "A") ≠ some (some "b=c") ∧
    (makeEnvironmentHash ⟨["A="], []⟩).get? (some "A") = some none ∧
      (makeEnvironmentHash ⟨["A="], []⟩).get? (some "A") ≠ some (some "") := by
  have hkey : ("A" : String) ≠ "" := by decide
  have hsep : '=' ∉ ("A" : String).toList := by decide
  have hsecond : (makeEnvironmentHash ⟨["A=b=c"], []⟩).get? (some "A") = some (envValue "b=c") :=
    makeEnvironmentHash_single hkey hsep "b=c" []
  have hempty : (makeEnvironmentHash ⟨["A="], []⟩).get? (some "A") = some (envValue "") :=
    makeEnvironmentHash_single hkey hsep "" []
  rw [hsecond, hempty]
  decide

/-! ## §7. The report of a run -/

/-- The keys the report's fields are stored under. -/
theorem reportField_key {report : LastRunReport} {field : String × Value}
    (hfield : field ∈ reportFields report) :
    field.1 ∈ ["kind", "time", "transaction_uuid", "environment", "status"] :=
  List.mem_map_of_mem Prod.fst hfield

theorem reportFields_keys_nodup (report : LastRunReport) :
    ((reportFields report).map Prod.fst).Nodup := by
  simp [reportFields]

theorem get?_lastRunResult_reportField (exitcode : Int) {report : LastRunReport}
    {field : String × Value} (hfield : field ∈ reportFields report) :
    (lastRunResult exitcode).get? field.1 = some (.str "unknown") :=
  RubyHash.get?_storeAll_of_mem _ (by simp) (by simpa using reportField_key hfield)

theorem get?_makeErrorResult_reportField (exitcode : Int) (errorType errorMessage : String)
    {report : LastRunReport} {field : String × Value} (hfield : field ∈ reportFields report) :
    (makeErrorResult exitcode errorType errorMessage).get? field.1 = some (.str "unknown") := by
  have hkey := reportField_key hfield
  have hne : field.1 ≠ "error" ∧ field.1 ≠ "error_type" :=
    ⟨fun h => by simp [h] at hkey, fun h => by simp [h] at hkey⟩
  rw [makeErrorResult, RubyHash.get?_store, if_neg hne.1, RubyHash.get?_store, if_neg hne.2,
    get?_lastRunResult_reportField _ hfield]

theorem get?_storeAll_reportField (r : Result) {report : LastRunReport} {field : String × Value}
    (hfield : field ∈ reportFields report) :
    (r.storeAll (reportFields report)).get? field.1 = some field.2 :=
  RubyHash.get?_storeAll_of_mem r (reportFields_keys_nodup report) hfield

/-- A loaded report's fields in the result: its own values when the run
started in an earlier second, `"unknown"` otherwise. -/
theorem get?_resultFromReport_reportField (exitcode : Int) (startTime : Time)
    {report : LastRunReport} {field : String × Value} (hfield : field ∈ reportFields report) :
    (resultFromReport exitcode startTime report).get? field.1 =
      some (if startTime.toI < report.time.toI then field.2 else .str "unknown") := by
  by_cases hlt : startTime.toI < report.time.toI
  · simp only [resultFromReport, hlt, if_true]
    exact get?_storeAll_reportField _ hfield
  · simp only [resultFromReport, hlt, if_false]
    split
    · exact get?_lastRunResult_reportField _ hfield
    · exact get?_makeErrorResult_reportField _ _ _ hfield

/-- A run that Puppet completed, neither disabled nor already running, whose
report was found and loaded, ends in `resultFromReport`. -/
theorem startRun_of_report {host : Host} {config : Configuration} {actionInput : ActionInput}
    {out : ProcessOutput} {path : String} {report : LastRunReport}
    (hexec : host.execute (makeCommandArray config actionInput) (makeEnvironmentHash actionInput) =
      some out)
    (hdisabled : isDisabled out.output = false) (hrunning : isRunning out.output = false)
    (hprint : checkConfigPrint host "lastrunreport" config = .ok path) (hpath : path ≠ "")
    (hexists : host.fileExists path = true) (hload : host.loadFile path = .ok (.report report)) :
    startRun host config actionInput = .ok (resultFromReport out.exitstatus host.now report) := by
  have hempty : path.isEmpty = false := Bool.eq_false_iff.2 (mt (String.isEmpty_iff path).1 hpath)
  simp [startRun, hexec, hdisabled, hrunning, getResultFromReport, hprint, hempty, hexists, hload]

/-- The report's fields in the result of a run: taken exactly when the run
started in an earlier whole second than the report's time. -/
theorem startRun_report_fields (host : Host) (config : Configuration) (actionInput : ActionInput)
    (out : ProcessOutput) (path : String) (report : LastRunReport)
    (hexec : host.execute (makeCommandArray config actionInput) (makeEnvironmentHash actionInput) =
      some out)
    (hdisabled : isDisabled out.output = false) (hrunning : isRunning out.output = false)
    (hprint : checkConfigPrint host "lastrunreport" config = .ok path) (hpath : path ≠ "")
    (hexists : host.fileExists path = true) (hload : host.loadFile path = .ok (.report report)) :
    ∃ r, startRun host config actionInput = .ok r ∧
      ∀ field ∈ reportFields report,
        r.get? field.1 = some (if host.now.toI < report.time.toI then field.2 else .str "unknown") :=
  ⟨_, startRun_of_report hexec hdisabled hrunning hprint hpath hexists hload,
    fun _ hfield => get?_resultFromReport_reportField _ _ hfield⟩

/-- A report made at `reportTime`. -/
def sampleReport (reportTime : Time) : LastRunReport :=
  ⟨"apply", reportTime, "d4f5", "production", "changed"⟩

/-- A host where Puppet runs to exit status 0 and its report, made at
`reportTime`, is at `/var/report.yaml`; the run starts at `now`. -/
def sampleHost (now reportTime : Time) : Host where
  execute cmd _ :=
    if cmd = [defaultPuppetBin, "agent", "--configprint", "lastrunreport"] then
      some ⟨"/var/report.yaml\n", 0⟩
    else
      some ⟨"Notice: Applied catalog in 3.20 seconds", 0⟩
  fileExists _ := true
  loadFile _ := .ok (.report (sampleReport reportTime))
  now := now

/-- The default configuration. -/
def sampleConfiguration : Configuration := ⟨defaultPuppetBin, by decide⟩

/-- No flags and no environment. -/
def sampleInput : ActionInput := ⟨[], []⟩

/-- A run that starts at 100.2 s, with a report written at 102.7 s. -/
def laterReportHost : Host := sampleHost ⟨100200000000⟩ ⟨102700000000⟩

theorem startRun_report_fields_sample :
    ∃ r, startRun laterReportHost sampleConfiguration sampleInput = .ok r ∧
      ∀ field ∈ reportFields (sampleReport ⟨102700000000⟩),
        r.get? field.1 = some (if laterReportHost.now.toI < (⟨102700000000⟩ : Time).toI
          then field.2 else .str "unknown") :=
  startRun_report_fields laterReportHost sampleConfiguration sampleInput
    ⟨"Notice: Applied catalog in 3.20 seconds", 0⟩ "/var/report.yaml" (sampleReport ⟨102700000000⟩)
    rfl (by decide) (by decide) rfl (by decide) rfl rfl

/-- A report written half a second after the start, within the same second,
is not taken. -/
theorem startRun_same_second_report :
    (⟨100200000000⟩ : Time).nsec ≤ (⟨100700000000⟩ : Time).nsec ∧
      ∃ r, startRun (sampleHost ⟨100200000000⟩ ⟨100700000000⟩) sampleConfiguration sampleInput =
          .ok r ∧ r.get? "kind" = some (.str "unknown") :=
  ⟨by decide, _, rfl, rfl⟩

/-! ## §8. Every result -/

/-- A schema that names a type only. -/
def typeSchema (type : String) : Json := .obj [("type", .str type)]

/-- The input schema of the `run` action. -/
def runInputSchema : Json :=
  .obj [("type", .str "object"),
        ("properties", .obj [("env", typeSchema "array"), ("flags", typeSchema "array")]),
        ("required", .arr [.str "env", .str "flags"])]

/-- The results schema of the `run` action. -/
def runResultsSchema : Json :=
  .obj [("type", .str "object"),
        ("properties", .obj [("kind", typeSchema "string"), ("time", typeSchema "string"),
          ("transaction_uuid", typeSchema "string"), ("environment", typeSchema "string"),
          ("status", typeSchema "string"), ("error_type", typeSchema "string"),
          ("error", typeSchema "string"), ("exitcode", typeSchema "number"),
          ("version", typeSchema "number")]),
        ("required", .arr [.str "kind", .str "time", .str "transaction_uuid", .str "environment",
          .str "status", .str "exitcode", .str "version"])]

/-- The configuration schema of the module. -/
def configurationSchema : Json :=
  .obj [("type", .str "object"), ("properties", .obj [("puppet_bin", typeSchema "string")])]

/-- The entry of the `run` action in the metadata. -/
def runActionMetadata : Json :=
  .obj [("name", .str "run"), ("description", .str "Start a Puppet run"),
        ("input", runInputSchema), ("results", runResultsSchema)]

/-- `metadata()`, as the document `to_json` writes. -/
def metadataDocument : Json :=
  .obj [("description", .str "PXP Puppet module"), ("actions", .arr [runActionMetadata]),
        ("configuration", configurationSchema)]

/-- The keys the `run` action's results schema requires. -/
def requiredResultKeys : List String :=
  match runResultsSchema.get? "required" with
  | some (.arr keys) => keys.filterMap fun
    | .str key => some key
    | _ => none
  | _ => []

theorem requiredResultKeys_eq :
    requiredResultKeys =
      ["kind", "time", "transaction_uuid", "environment", "status", "exitcode", "version"] := rfl

theorem reportKeys_subset :
    ["kind", "time", "transaction_uuid", "environment", "status"] ⊆ requiredResultKeys := by
  decide

theorem keys_lastRunResult (exitcode : Int) :
    (lastRunResult exitcode).keys = requiredResultKeys := by
  simp [lastRunResult, RubyHash.keys_storeAll, keepFirst, requiredResultKeys_eq]

theorem keys_makeErrorResult (exitcode : Int) (errorType errorMessage : String) :
    (makeErrorResult exitcode errorType errorMessage).keys =
      requiredResultKeys ++ ["error_type", "error"] := by
  simp [makeErrorResult, RubyHash.keys_store, keys_lastRunResult, keepFirst, requiredResultKeys_eq]

theorem keys_resultFromReport (exitcode : Int) (startTime : Time) (report : LastRunReport) :
    (resultFromReport exitcode startTime report).keys =
      if exitcode = 0 then requiredResultKeys else requiredResultKeys ++ ["error_type", "error"] := by
  have hbase : (if exitcode = 0 then lastRunResult exitcode
      else makeErrorResult exitcode Errors.nonZeroExit "Puppet agent exited with a non 0 exitcode").keys =
      if exitcode = 0 then requiredResultKeys else requiredResultKeys ++ ["error_type", "error"] := by
    split <;> simp [keys_lastRunResult, keys_makeErrorResult]
  by_cases hlt : startTime.toI < report.time.toI
  · simp only [resultFromReport, hlt, if_true]
    rw [RubyHash.keys_storeAll, foldl_keepFirst_of_forall_mem, hbase]
    intro key hkey
    have hrequired : key ∈ requiredResultKeys := reportKeys_subset hkey
    rw [hbase]
    split
    · exact hrequired
    · exact List.mem_append_left _ hrequired
  · simp only [resultFromReport, hlt, if_false]
    exact hbase

@[simp] theorem get?_exitcode_lastRunResult (exitcode : Int) :
    (lastRunResult exitcode).get? "exitcode" = some (.int exitcode) := by
  simp [lastRunResult, RubyHash.get?_storeAll]

@[simp] theorem get?_exitcode_makeErrorResult (exitcode : Int) (errorType errorMessage : String) :
    (makeErrorResult exitcode errorType errorMessage).get? "exitcode" = some (.int exitcode) := by
  simp [makeErrorResult]

@[simp] theorem get?_error_lastRunResult (exitcode : Int) :
    (lastRunResult exitcode).get? "error" = none := by
  simp [lastRunResult, RubyHash.get?_storeAll]

@[simp] theorem get?_error_makeErrorResult (exitcode : Int) (errorType errorMessage : String) :
    (makeErrorResult exitcode errorType errorMessage).get? "error" = some (.str errorMessage) := by
  simp [makeErrorResult]

/-- The report's fields leave every other key as it was. -/
theorem get?_storeAll_reportFields_of_not_mem (r : Result) (report : LastRunReport) {key : String}
    (hkey : key ∉ ["kind", "time", "transaction_uuid", "environment", "status"]) :
    (r.storeAll (reportFields report)).get? key = r.get? key :=
  RubyHash.get?_storeAll_of_not_mem r hkey

/-- Outside the report's fields a result is the one the run started from. -/
theorem get?_resultFromReport_of_not_mem (exitcode : Int) (startTime : Time)
    (report : LastRunReport) {key : String}
    (hkey : key ∉ ["kind", "time", "transaction_uuid", "environment", "status"]) :
    (resultFromReport exitcode startTime report).get? key =
      (if exitcode = 0 then lastRunResult exitcode
        else makeErrorResult exitcode Errors.nonZeroExit
          "Puppet agent exited with a non 0 exitcode").get? key := by
  by_cases hlt : startTime.toI < report.time.toI
  · simp only [resultFromReport, hlt, if_true]
    exact get?_storeAll_reportFields_of_not_mem _ _ hkey
  · simp only [resultFromReport, hlt, if_false]

theorem get?_exitcode_resultFromReport (exitcode : Int) (startTime : Time) (report : LastRunReport) :
    (resultFromReport exitcode startTime report).get? "exitcode" = some (.int exitcode) := by
  rw [get?_resultFromReport_of_not_mem _ _ _ (by decide)]
  split <;> simp

theorem get?_error_resultFromReport (exitcode : Int) (startTime : Time) (report : LastRunReport) :
    (resultFromReport exitcode startTime report).get? "error" = none ↔ exitcode = 0 := by
  rw [get?_resultFromReport_of_not_mem _ _ _ (by decide)]
  split <;> simp_all

/-- What `get_result_from_report` returns: an error result when the report was
not found or not loaded, `resultFromReport` for a loaded report. -/
theorem getResultFromReport_ok {host : Host} {exitcode : Int} {config : Configuration}
    {startTime : Time} {r : Result} (h : getResultFromReport host exitcode config startTime = .ok r) :
    ∃ path, checkConfigPrint host "lastrunreport" config = .ok path ∧
      ((∃ errorType errorMessage, r = makeErrorResult exitcode errorType errorMessage ∧
          (path = "" ∨ host.fileExists path = false ∨ ∃ msg, host.loadFile path = .error msg)) ∨
        ∃ report, path ≠ "" ∧ host.fileExists path = true ∧
          host.loadFile path = .ok (.report report) ∧ r = resultFromReport exitcode startTime report) := by
  unfold getResultFromReport at h
  cases hp : checkConfigPrint host "lastrunreport" config with
  | error e => simp [hp] at h
  | ok path =>
    refine ⟨path, rfl, ?_⟩
    simp only [hp, ok_bind] at h
    by_cases hempty : path = ""
    · subst hempty
      have hempty : "".isEmpty = true := rfl
      simp only [hempty, if_true, pure_eq_ok, Except.ok.injEq] at h
      exact .inl ⟨_, _, h.symm, .inl rfl⟩
    have hne : path.isEmpty = false := Bool.eq_false_iff.2 (mt (String.isEmpty_iff path).1 hempty)
    cases hex : host.fileExists path
    · simp only [hne, hex] at h
      exact .inl ⟨_, _, by simpa using h.symm, .inr (.inl rfl)⟩
    cases hl : host.loadFile path with
    | error msg =>
      simp only [hne, hex, hl] at h
      exact .inl ⟨_, _, by simpa using h.symm, .inr (.inr ⟨msg, rfl⟩)⟩
    | ok doc =>
      cases doc with
      | other => simp [hne, hex, hl] at h
      | report report =>
        simp only [hne, hex, hl] at h
        exact .inr ⟨report, hempty, rfl, rfl, by simpa using h.symm⟩

/-- What `start_run` returns: an error result when Puppet did not start, is
disabled or already running, and `get_result_from_report` otherwise. -/
theorem startRun_ok {host : Host} {config : Configuration} {actionInput : ActionInput} {r : Result}
    (h : startRun host config actionInput = .ok r) :
    (host.execute (makeCommandArray config actionInput) (makeEnvironmentHash actionInput) = none ∧
        r = makeErrorResult defaultExitcode Errors.failedToStart "Failed to start Puppet agent") ∨
      ∃ out, host.execute (makeCommandArray config actionInput) (makeEnvironmentHash actionInput) =
          some out ∧
        ((∃ errorType errorMessage, r = makeErrorResult out.exitstatus errorType errorMessage ∧
            (isDisabled out.output = true ∨ isRunning out.output = true)) ∨
          (isDisabled out.output = false ∧ isRunning out.output = false ∧
            getResultFromReport host out.exitstatus config host.now = .ok r)) := by
  unfold startRun at h
  cases hx : host.execute (makeCommandArray config actionInput) (makeEnvironmentHash actionInput) with
  | none =>
    simp only [hx, Except.ok.injEq] at h
    exact .inl ⟨rfl, h.symm⟩
  | some out =>
    simp only [hx] at h
    refine .inr ⟨out, rfl, ?_⟩
    cases hd : isDisabled out.output
    · cases hr : isRunning out.output
      · simp only [hd, hr] at h
        exact .inr ⟨rfl, rfl, h⟩
      · simp only [hd, hr, Bool.false_eq_true, if_false, if_true, Except.ok.injEq] at h
        exact .inl ⟨_, _, h.symm, .inr rfl⟩
    · simp only [hd, if_true, Except.ok.injEq] at h
      exact .inl ⟨_, _, h.symm, .inl rfl⟩

/-- The `exitcode` of a run's result is Puppet's exit status, or
`DEFAULT_EXITCODE` when Puppet did not start. -/
theorem startRun_exitcode (host : Host) (config : Configuration) (actionInput : ActionInput)
    (r : Result) (h : startRun host config actionInput = .ok r) :
    r.get? "exitcode" = some (.int (((host.execute (makeCommandArray config actionInput)
      (makeEnvironmentHash actionInput)).map (·.exitstatus)).getD defaultExitcode)) := by
  rcases startRun_ok h with ⟨hx, hr⟩ | ⟨out, hx, ⟨_, _, hr, -⟩ | ⟨-, -, hreport⟩⟩
  · simp [hx, hr]
  · simp [hx, hr]
  · rw [hx]
    rcases getResultFromReport_ok hreport with ⟨_, -, ⟨_, _, hr, -⟩ | ⟨_, -, -, -, hr⟩⟩
    · simp [hr]
    · exact hr ▸ get?_exitcode_resultFromReport _ _ _

/-- A run's result reports no error exactly when Puppet ran to exit status 0,
neither disabled nor already running, and its last-run report was found and
loaded. -/
theorem startRun_error_free_iff (host : Host) (config : Configuration) (actionInput : ActionInput)
    (r : Result) (h : startRun host config actionInput = .ok r) :
    r.get? "error" = none ↔
      ∃ out path report,
        host.execute (makeCommandArray config actionInput) (makeEnvironmentHash actionInput) =
          some out ∧ out.exitstatus = 0 ∧ isDisabled out.output = false ∧
        isRunning out.output = false ∧ checkConfigPrint host "lastrunreport" config = .ok path ∧
        path ≠ "" ∧ host.fileExists path = true ∧ host.loadFile path = .ok (.report report) := by
  constructor
  · intro herror
    rcases startRun_ok h with ⟨-, hres⟩ | ⟨out, hx, ⟨_, _, hres, -⟩ | ⟨hd, hr, hreport⟩⟩
    · simp [hres] at herror
    · simp [hres] at herror
    · rcases getResultFromReport_ok hreport with
        ⟨path, hp, ⟨_, _, hres, -⟩ | ⟨report, hne, hex, hl, hres⟩⟩
      · simp [hres] at herror
      · subst hres
        exact ⟨out, path, report, hx, (get?_error_resultFromReport _ _ _).1 herror, hd, hr, hp,
          hne, hex, hl⟩
  · rintro ⟨out, path, report, hx, h0, hd, hr, hp, hne, hex, hl⟩
    rw [startRun_of_report hx hd hr hp hne hex hl, Except.ok.injEq] at h
    rw [← h, get?_error_resultFromReport]
    exact h0

theorem startRun_exitcode_sample :
    (resultFromReport 0 laterReportHost.now (sampleReport ⟨102700000000⟩)).get? "exitcode" =
      some (.int (((laterReportHost.execute (makeCommandArray sampleConfiguration sampleInput)
        (makeEnvironmentHash sampleInput)).map (·.exitstatus)).getD defaultExitcode)) :=
  startRun_exitcode laterReportHost sampleConfiguration sampleInput _ rfl

theorem startRun_error_free_iff_sample :
    (resultFromReport 0 laterReportHost.now (sampleReport ⟨102700000000⟩)).get? "error" = none ↔
      ∃ out path report,
        laterReportHost.execute (makeCommandArray sampleConfiguration sampleInput)
            (makeEnvironmentHash sampleInput) = some out ∧ out.exitstatus = 0 ∧
          isDisabled out.output = false ∧ isRunning out.output = false ∧
          checkConfigPrint laterReportHost "lastrunreport" sampleConfiguration = .ok path ∧
          path ≠ "" ∧ laterReportHost.fileExists path = true ∧
          laterReportHost.loadFile path = .ok (.report report) :=
  startRun_error_free_iff laterReportHost sampleConfiguration sampleInput _ rfl

theorem getResultFromReport_keys {host : Host} {exitcode : Int} {config : Configuration}
    {startTime : Time} {r : Result} (h : getResultFromReport host exitcode config startTime = .ok r) :
    r.keys = requiredResultKeys ∨ r.keys = requiredResultKeys ++ ["error_type", "error"] := by
  rcases getResultFromReport_ok h with ⟨_, -, ⟨_, _, hr, -⟩ | ⟨_, -, -, -, hr⟩⟩
  · exact .inr (hr ▸ keys_makeErrorResult _ _ _)
  · rw [hr, keys_resultFromReport]
    split
    · exact .inl rfl
    · exact .inr rfl

theorem startRun_keys {host : Host} {config : Configuration} {actionInput : ActionInput}
    {r : Result} (h : startRun host config actionInput = .ok r) :
    r.keys = requiredResultKeys ∨ r.keys = requiredResultKeys ++ ["error_type", "error"] := by
  rcases startRun_ok h with ⟨-, hr⟩ | ⟨_, -, ⟨_, _, hr, -⟩ | ⟨-, -, hreport⟩⟩
  · exact .inr (hr ▸ keys_makeErrorResult _ _ _)
  · exact .inr (hr ▸ keys_makeErrorResult _ _ _)
  · exact getResultFromReport_keys hreport

/-- Every result of the action has the keys its results schema requires, in
that order, followed by `error_type` and `error` when it reports a failure. -/
theorem actionRun_result_keys (host : Host) (args : Option ActionArgs) (r : Result)
    (h : actionRun host args = .ok r) :
    r.keys = requiredResultKeys ∨ r.keys = requiredResultKeys ++ ["error_type", "error"] := by
  unfold actionRun run at h
  split at h
  · cases h
    exact .inr (keys_makeErrorResult _ _ _)
  · split at h
    · cases h
      exact .inr (keys_makeErrorResult _ _ _)
    · exact startRun_keys h

theorem actionRun_result_keys_sample :
    (resultFromReport 0 laterReportHost.now (sampleReport ⟨102700000000⟩)).keys =
        requiredResultKeys ∨
      (resultFromReport 0 laterReportHost.now (sampleReport ⟨102700000000⟩)).keys =
        requiredResultKeys ++ ["error_type", "error"] :=
  actionRun_result_keys laterReportHost (some { input := sampleInput }) _ rfl

/-! ## §9. Exceptions -/

/-- `running?` and `disabled?` match exactly what their regular expressions
describe: the in-progress message anywhere in the output, and `disabled`
followed anywhere later, across lines, by the hint to re-enable. -/
theorem isRunning_isDisabled_iff (runResult : String) :
    (isRunning runResult = true ↔ ∃ u w : String,
      runResult = u ++ "Run of Puppet configuration client already in progress" ++ w) ∧
    (isDisabled runResult = true ↔ ∃ u v w : String,
      runResult = u ++ "disabled" ++ v ++ "Use \x27puppet agent --enable\x27 to re-enable" ++ w) := by
  constructor
  · rw [isRunning, containsSub_eq_true_iff, exists_eq_append_iff]
  · rw [exists_eq_append_append_iff, ← afterFirst_containsSub_iff, isDisabled]
    split <;> simp_all

end PxpAgent.Puppet
