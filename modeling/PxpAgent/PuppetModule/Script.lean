import PxpAgent.ExternalModule.Call
import PxpAgent.PuppetModule.Run

/-!
# PxpAgent.PuppetModule.Script — the puppet module as a child of the agent

The agent starts an external module with the action name as its argument and
the action arguments on stdin, and for a non-blocking request names three
output files in them. The puppet script's `action_run` redirects its stdout
and stderr to the first two, writes its exit status to the third when it
exits, and exits with status 5 when it cannot open one of them; `main` prints
the result and exits 1 when the result reports an error; for the action
`metadata` it prints its metadata instead. This module models that side of the
protocol and composes it with the agent's loading and calling of modules.

Main results:
* `scriptRun_exit_five` — given output files, the script exits 5 exactly when
  it cannot open one of them;
* `scriptRun_escaping_exceptions` — over the whole of `action_run` and `main`:
  `exit 5` when an output file cannot be opened, and otherwise only a failing
  `--configprint` and a report file that holds no report escape the action;
* `scriptRun_own_writes` — the script itself writes only the output files it
  was given, each at most once, in the order stdout, stderr, exitcode;
* `callAction_moduleExecute` — a non-blocking call of the puppet module by the
  agent fails with "failed to write output on file" exactly when the script
  cannot open a file the agent named, and otherwise processes the script's
  printed result, its stderr and its exit status;
* `decodeArgs_actionArguments` — the arguments the agent writes decode, in the
  script, to the request's input, the module's configuration and the files the
  agent named;
* `callAction_moduleExecute_pipe_or_files` — a blocking call, and a
  non-blocking one whose files the script can open, process the same printed
  result, stderr and exit status: only the channel differs;
* `callAction_moduleExecute_result` — when both sides agree on the JSON text,
  the agent's outcome carries exactly the result the script computed;
* `construct_moduleExecute` — the agent loads the module from the metadata the
  script prints, with the single action `run`, its input and results schemas,
  and its configuration schema.

Left out: Ruby's behaviour on arguments outside the shapes the module's schemas
admit (a parameter of the environment), and what the processes the script
starts do to the file system (`ScriptEnv.files`): a Puppet run writes its
last-run report and may apply a catalog to any file.
-/

namespace PxpAgent.Puppet

open Ruby

/-! ## §1. The script's world -/

/-- What a run of the script leaves: the text on its stdout and stderr pipes,
the files it wrote in order, and its exit status. -/
structure ScriptRun where
  output : String
  error : String
  written : List (String × String)
  exitStatus : Int

/-- What the script touches besides `Host`. -/
structure ScriptEnv where
  host : Host
  /-- `JSON.parse` and `to_json`. -/
  json : JsonText
  /-- `Time#to_s`: the text `to_json` writes for a time. -/
  timeText : Time → String
  /-- Whether `File.open(path, 'w')` succeeds. -/
  canWrite : String → Bool
  /-- The message of the exception `File.open(path, 'w')` raises. -/
  openError : String → String
  /-- What Ruby prints on stderr for an exception that ends the script. -/
  backtrace : ScriptError → String
  /-- What the script does with arguments outside the shapes the module's
  schemas admit. -/
  malformed : Json → ScriptRun
  /-- The file system the script's own writes are made on: what it started
  from, with what the processes it starts changed there (a Puppet run writes
  its last-run report and may apply a catalog). The model does not relate
  those changes to the report `Host.loadFile` reads. -/
  files : FileSystem

/-- `value.to_json`, as a document. -/
def Value.toJson (timeText : Time → String) : Value → Json
  | .str s => .str s
  | .int i => .num i
  | .time t => .str (timeText t)

/-- `result.to_json`, as a document. -/
def resultJson (timeText : Time → String) (r : Result) : Json :=
  .obj (r.entries.map fun e => (e.1, e.2.toJson timeText))

/-- `print result.to_json`. -/
def ScriptEnv.print (env : ScriptEnv) (r : Result) : String :=
  env.json.render (resultJson env.timeText r)

/-- The exit status `main` gives a result: `exit 1` unless its `error` is `nil`. -/
def resultStatus (r : Result) : Int := if (r.get? "error").isSome then 1 else 0

/-! ## §2. `action_run` and `main` -/

/-- What the action prints, what reaches stderr, and the exit status, once the
output streams are set. -/
structure Finish where
  text : String
  stderr : String
  status : Int

/-- `print action_run(args).to_json` and `exit 1` on an error result; an
exception that escapes ends the script with status 1. -/
def ScriptEnv.finish (env : ScriptEnv) (args : Option ActionArgs) : Finish :=
  match actionRun env.host args with
  | .ok r => ⟨env.print r, "", resultStatus r⟩
  | .error e => ⟨"", env.backtrace e, 1⟩

/-- The result `action_run` prints when it cannot open a file. -/
def fileErrorResult (what message : String) : Result :=
  makeErrorResult defaultExitcode Errors.invalidJson ("Could not open " ++ what ++ ": " ++ message)

/-- `main` for an action other than `metadata`, given the arguments
`JSON.parse` read from stdin (`none` when it raised). With output files,
stdout and stderr are reopened on them (a failure prints an error result and
exits 5 before the exit handler is set), and the exit handler writes the exit
status to the exitcode file (a failure there prints an error result and exits
5). -/
def scriptRun (env : ScriptEnv) (args : Option ActionArgs) : ScriptRun :=
  match args.bind (·.outputFiles) with
  | none =>
    let fin := env.finish args
    ⟨fin.text, fin.stderr, [], fin.status⟩
  | some files =>
    if !env.canWrite files.stdout then
      ⟨env.print (fileErrorResult "output files" (env.openError files.stdout)), "", [], 5⟩
    else if !env.canWrite files.stderr then
      ⟨"", "", [(files.stdout, env.print (fileErrorResult "output files" (env.openError files.stderr)))],
        5⟩
    else
      let fin := env.finish args
      if env.canWrite files.exitcode then
        ⟨"", "", [(files.stdout, fin.text), (files.stderr, fin.stderr),
          (files.exitcode, toString fin.status ++ "\n")], fin.status⟩
      else
        ⟨"", "", [(files.stdout, fin.text ++
            env.print (fileErrorResult "exit code file" (env.openError files.exitcode))),
          (files.stderr, fin.stderr)], 5⟩

/-! ## §3. The arguments on stdin -/

/-- Ruby's truth of a value read from a hash: `nil` and `false` are false. -/
def truthy : Option Json → Bool
  | none => false
  | some .null => false
  | some (.bool false) => false
  | some _ => true

@[simp] theorem truthy_none : truthy none = false := rfl

/-- A JSON array of texts. -/
def stringArray? : Json → Option (List String)
  | .arr vs => vs.mapM fun v => match v with
    | .str s => some s
    | _ => none
  | _ => none

/-- `args["input"]`: the `env` and `flags` arrays of texts. -/
def decodeInput (input : Json) : Option ActionInput := do
  let env ← stringArray? (← input.get? "env")
  let flags ← stringArray? (← input.get? "flags")
  return ⟨env, flags⟩

/-- `args["configuration"] || {}` and its `puppet_bin`, a text or `nil`. -/
def decodeConfiguration (configuration : Option Json) : Option (Option Config) :=
  if !truthy configuration then some none
  else
    match configuration with
    | some (.obj fields) =>
      match Json.field? fields "puppet_bin" with
      | none => some (some {})
      | some .null => some (some {})
      | some (.str bin) => some (some ⟨some bin⟩)
      | some _ => none
    | _ => none

/-- `args["output_files"]` and its three paths, when it is given. -/
def decodeOutputFiles (outputFiles : Option Json) : Option (Option OutputFiles) :=
  if !truthy outputFiles then some none
  else
    match outputFiles.bind (·.get? "stdout"), outputFiles.bind (·.get? "stderr"),
        outputFiles.bind (·.get? "exitcode") with
    | some (.str out), some (.str err), some (.str code) => some (some ⟨out, err, code⟩)
    | _, _, _ => none

/-- The arguments `action_run` reads from the document `JSON.parse` returned,
for the shapes the module's schemas admit; `none` for any other shape. -/
def decodeArgs (args : Json) : Option ActionArgs := do
  let input ← decodeInput (← args.get? "input")
  let configuration ← decodeConfiguration (args.get? "configuration")
  let outputFiles ← decodeOutputFiles (args.get? "output_files")
  return ⟨input, configuration, outputFiles⟩

/-! ## §4. A sample run

A non-blocking `run` request of the puppet module, and the script's world it
runs in: the witnesses below apply the results to it. -/

/-- A non-blocking `run` request of the puppet module with no environment and
no flags. -/
def sampleRequest : ActionRequest where
  id := "r1"
  transactionId := "t1"
  sender := "pcp://controller/example"
  module := "pxp-module-puppet"
  action := "run"
  type := .nonBlocking
  params := .obj [("env", .arr []), ("flags", .arr [])]
  parsedChunks := ⟨.obj [("id", .str "r1")], .obj [], [], 0⟩
  resultsDir := "/var/results/r1"
  envelope_id := rfl
  resultsDir_ne := fun _ => by decide

/-- The puppet module before loading, with an empty configuration. -/
def samplePuppetModule : ExternalModule :=
  ExternalModule.initial "/opt/modules/pxp-module-puppet" (.obj [])

/-- What the script decodes from the agent's arguments for `sampleRequest`. -/
def sampleArgs : ActionArgs :=
  { input := ⟨[], []⟩,
    outputFiles := some ⟨"/var/results/r1/stdout", "/var/results/r1/stderr",
      "/var/results/r1/exitcode"⟩ }

/-- Libraries whose JSON writer writes every document as the text `args`. -/
def argsWriter : Libraries :=
  { sampleLibraries [] .reject with json := { JsonText.ofTable [] with render := fun _ => "args" } }

/-- The script's world: `laterReportHost`, a JSON reader that reads `args` as the
agent's document, and the files it may open. -/
def sampleEnv (canWrite : String → Bool) : ScriptEnv where
  host := laterReportHost
  json := JsonText.ofTable [("args", actionArguments samplePuppetModule sampleRequest)]
  timeText _ := "1970-01-01 00:01:42 +0000"
  canWrite := canWrite
  openError path := "Permission denied @ rb_sysopen - " ++ path
  backtrace _ := "pxp-module-puppet: NoMethodError"
  malformed _ := ⟨"", "", [], 1⟩
  files _ := .absent

theorem decodeArgs_sampleRequest :
    decodeArgs (actionArguments samplePuppetModule sampleRequest) = some sampleArgs := rfl

/-! ## §5. The exit status -/

theorem resultStatus_of_ok {host : Host} {args : Option ActionArgs} {r : Result}
    (_h : actionRun host args = .ok r) : resultStatus r = 0 ∨ resultStatus r = 1 := by
  unfold resultStatus
  split
  · exact .inr rfl
  · exact .inl rfl

/-- The status the action finishes with is 0 or 1. -/
theorem finish_status (env : ScriptEnv) (args : Option ActionArgs) :
    (env.finish args).status = 0 ∨ (env.finish args).status = 1 := by
  unfold ScriptEnv.finish
  split
  · exact resultStatus_of_ok ‹_›
  · exact .inr rfl

/-- The script's exit status on arguments it decoded: the status the action
finishes with, or 5 when it was given an output file it cannot open. -/
theorem scriptRun_exitStatus (env : ScriptEnv) (args : ActionArgs) :
    (scriptRun env (some args)).exitStatus =
      match args.outputFiles with
      | some files =>
        if env.canWrite files.stdout && env.canWrite files.stderr && env.canWrite files.exitcode
        then (env.finish (some args)).status else 5
      | none => (env.finish (some args)).status := by
  cases hfiles : args.outputFiles with
  | none => simp only [scriptRun, Option.some_bind, hfiles]
  | some files =>
    simp only [scriptRun, Option.some_bind, hfiles]
    cases env.canWrite files.stdout <;> cases env.canWrite files.stderr <;>
      cases env.canWrite files.exitcode <;> rfl

/-- Given output files, the script exits 5 exactly when it cannot open one of
them. -/
theorem scriptRun_exit_five (env : ScriptEnv) (args : ActionArgs) (files : OutputFiles)
    (hfiles : args.outputFiles = some files) :
    (scriptRun env (some args)).exitStatus = 5 ↔
      env.canWrite files.stdout = false ∨ env.canWrite files.stderr = false ∨
        env.canWrite files.exitcode = false := by
  have hstatus := finish_status env (some args)
  simp only [scriptRun_exitStatus, hfiles]
  cases env.canWrite files.stdout <;> cases env.canWrite files.stderr <;>
    cases env.canWrite files.exitcode <;> simp
  omega

theorem scriptRun_exit_five_sample :
    (scriptRun (sampleEnv fun p => p != "/var/results/r1/stderr") (some sampleArgs)).exitStatus = 5 ↔
      (sampleEnv fun p => p != "/var/results/r1/stderr").canWrite "/var/results/r1/stdout" = false ∨
      (sampleEnv fun p => p != "/var/results/r1/stderr").canWrite "/var/results/r1/stderr" = false ∨
      (sampleEnv fun p => p != "/var/results/r1/stderr").canWrite "/var/results/r1/exitcode" = false :=
  scriptRun_exit_five (sampleEnv fun p => p != "/var/results/r1/stderr") sampleArgs _ rfl

/-- When the script can open its output files, nothing reaches its pipes: it
writes what it printed to the stdout file, what reached stderr to the stderr
file, and its exit status to the exitcode file. -/
theorem scriptRun_of_writable (env : ScriptEnv) (args : ActionArgs) (files : OutputFiles)
    (hfiles : args.outputFiles = some files) (hout : env.canWrite files.stdout = true)
    (herr : env.canWrite files.stderr = true) (hcode : env.canWrite files.exitcode = true) :
    scriptRun env (some args) =
      ⟨"", "", [(files.stdout, (env.finish (some args)).text),
        (files.stderr, (env.finish (some args)).stderr),
        (files.exitcode, toString (env.finish (some args)).status ++ "\n")],
        (env.finish (some args)).status⟩ := by
  have hbind : (some args).bind (·.outputFiles) = some files := hfiles
  simp only [scriptRun, hbind, hout, herr, hcode, Bool.not_true, Bool.false_eq_true, if_false,
    if_true]

/-- Without output files the script prints on its own pipes and writes no file. -/
theorem scriptRun_of_no_files (env : ScriptEnv) (args : ActionArgs) (hfiles : args.outputFiles = none) :
    scriptRun env (some args) =
      ⟨(env.finish (some args)).text, (env.finish (some args)).stderr, [],
        (env.finish (some args)).status⟩ := by
  have hbind : (some args).bind (·.outputFiles) = none := hfiles
  simp only [scriptRun, hbind]

/-- When the script can open its output files, it exits 0 or 1 and the
exitcode file holds its exit status. -/
theorem scriptRun_exitcode_file (env : ScriptEnv) (args : ActionArgs) (files : OutputFiles)
    (hfiles : args.outputFiles = some files) (hout : env.canWrite files.stdout = true)
    (herr : env.canWrite files.stderr = true) (hcode : env.canWrite files.exitcode = true) :
    ((scriptRun env (some args)).exitStatus = 0 ∨ (scriptRun env (some args)).exitStatus = 1) ∧
      (files.exitcode, toString (scriptRun env (some args)).exitStatus ++ "\n") ∈
        (scriptRun env (some args)).written := by
  rw [scriptRun_of_writable env args files hfiles hout herr hcode]
  exact ⟨finish_status env (some args), by simp⟩

/-- The file system after `text` is written to `path`. -/
def writeFile (fs : FileSystem) (path text : String) : FileSystem :=
  fun p => if p = path then .contents text else fs p

/-- What the agent sees of a run of the script: its exit status, its pipes, and
the file system `fs` with the files the script itself wrote. -/
def ScriptRun.result (run : ScriptRun) (fs : FileSystem) : ExecutionResult :=
  ⟨run.exitStatus, run.output, run.error, run.written.foldl (fun fs w => writeFile fs w.1 w.2) fs⟩

/-- The puppet module as a child the agent starts: `action = ARGV.shift ||
'metadata'`; for `metadata` it prints the metadata, for any other action it
reads `JSON.parse($stdin.read.chomp) rescue nil` and runs `main`, leaving the
files it wrote on the file system. -/
def moduleExecute (env : ScriptEnv) : Execute := fun cmd =>
  if cmd.args.head?.getD "metadata" = "metadata" then
    ⟨0, puts (env.json.render metadataDocument), "", env.files⟩
  else
    let run :=
      match env.json.parse (chomp (cmd.stdin.getD "")) with
      | .error _ => scriptRun env none
      | .ok args =>
        if !truthy (some args) then scriptRun env none
        else
          match decodeArgs args with
          | some decoded => scriptRun env (some decoded)
          | none => env.malformed args
    run.result env.files

@[simp] theorem truthy_set (j : Json) (key : String) (v : Json) : truthy (some (j.set key v)) = true := by
  cases j <;> rfl

/-- The output files a call names: the three files under the results directory
for a non-blocking request, none for a blocking one. -/
theorem decodeOutputFiles_actionArguments (m : ExternalModule) (request : ActionRequest) :
    decodeOutputFiles ((actionArguments m request).get? "output_files") =
      some (if request.type = .nonBlocking then
        some ⟨pathJoin request.resultsDir "stdout", pathJoin request.resultsDir "stderr",
          pathJoin request.resultsDir "exitcode"⟩
      else none) := by
  unfold actionArguments
  split <;> split <;> simp_all [decodeOutputFiles, Json.get?_set_ne]

theorem decodeArgs_outputFiles {m : ExternalModule} {request : ActionRequest} {args : ActionArgs}
    (h : request.type = .nonBlocking) (hargs : decodeArgs (actionArguments m request) = some args) :
    args.outputFiles = some ⟨pathJoin request.resultsDir "stdout",
      pathJoin request.resultsDir "stderr", pathJoin request.resultsDir "exitcode"⟩ := by
  simp only [decodeArgs, decodeOutputFiles_actionArguments, if_pos h, Option.bind_eq_bind,
    Option.bind_eq_some, Option.some.injEq, Option.pure_def] at hargs
  obtain ⟨_, _, _, _, _, _, _, rfl, rfl⟩ := hargs
  rfl

theorem decodeArgs_outputFiles_none {m : ExternalModule} {request : ActionRequest}
    {args : ActionArgs} (h : request.type = .blocking)
    (hargs : decodeArgs (actionArguments m request) = some args) : args.outputFiles = none := by
  simp only [decodeArgs, decodeOutputFiles_actionArguments, h, reduceCtorEq, if_false,
    Option.bind_eq_bind, Option.bind_eq_some, Option.some.injEq, Option.pure_def] at hargs
  obtain ⟨_, _, _, _, _, _, _, rfl, rfl⟩ := hargs
  rfl

/-- A child started with the arguments it reads back and decodes runs `main`
on them. -/
theorem moduleExecute_of_args {env : ScriptEnv} {cmd : Command} {j : Json} {args : ActionArgs}
    (haction : cmd.args.head?.getD "metadata" ≠ "metadata")
    (hparse : env.json.parse (chomp (cmd.stdin.getD "")) = .ok j) (htruthy : truthy (some j) = true)
    (hargs : decodeArgs j = some args) :
    moduleExecute env cmd = (scriptRun env (some args)).result env.files := by
  simp [moduleExecute, haction, hparse, htruthy, hargs]

theorem truthy_actionArguments (m : ExternalModule) (request : ActionRequest) :
    truthy (some (actionArguments m request)) = true := by
  unfold actionArguments
  split <;> split <;> simp

/-- A non-blocking call of the puppet module when the script can open the
three files the agent names: the agent processes what the script printed, what
reached its stderr, and its exit status. -/
theorem callAction_moduleExecute_of_writable (L : Libraries) (logLevel : LogLevel)
    (env : ScriptEnv) (m : ExternalModule) (request : ActionRequest) (args : ActionArgs)
    (hnb : request.type = .nonBlocking) (haction : request.action ≠ "metadata")
    (hstdin : env.json.parse (chomp (getActionArguments L m request)) = .ok (actionArguments m request))
    (hargs : decodeArgs (actionArguments m request) = some args)
    (hout : env.canWrite (pathJoin request.resultsDir "stdout") = true)
    (herr : env.canWrite (pathJoin request.resultsDir "stderr") = true)
    (hcode : env.canWrite (pathJoin request.resultsDir "exitcode") = true) :
    callAction L logLevel (moduleExecute env) m request =
      processRequestOutcome L logLevel request (env.finish (some args)).status
        (env.finish (some args)).text (env.finish (some args)).stderr := by
  have hexec : moduleExecute env (nonBlockingCommand L m request) =
      (scriptRun env (some args)).result env.files :=
    moduleExecute_of_args haction hstdin (truthy_actionArguments m request) hargs
  have hne : pathJoin request.resultsDir "stdout" ≠ pathJoin request.resultsDir "exitcode" ∧
      pathJoin request.resultsDir "stdout" ≠ pathJoin request.resultsDir "stderr" ∧
      pathJoin request.resultsDir "stderr" ≠ pathJoin request.resultsDir "exitcode" :=
    ⟨pathJoin_ne _ (by decide), pathJoin_ne _ (by decide), pathJoin_ne _ (by decide)⟩
  have h5 : (env.finish (some args)).status ≠ externalModuleFileErrorEc := by
    rcases finish_status env (some args) with h | h <;> simp [h, externalModuleFileErrorEc]
  simp only [callAction, hnb, callNonBlockingAction_eq, hexec,
    scriptRun_of_writable env args _ (decodeArgs_outputFiles hnb hargs) hout herr hcode]
  simp [ScriptRun.result, writeFile, h5, hne, fileText, readFile]

/-- A non-blocking call of an action of the puppet module: the agent raises
"failed to write output on file" exactly when the script cannot open one of the
three files the agent names, and otherwise processes the result the script
printed, what reached its stderr, and its exit status. -/
theorem callAction_moduleExecute (L : Libraries) (logLevel : LogLevel) (env : ScriptEnv)
    (m : ExternalModule) (request : ActionRequest) (args : ActionArgs)
    (hnb : request.type = .nonBlocking) (haction : request.action ≠ "metadata")
    (hstdin : env.json.parse (chomp (getActionArguments L m request)) = .ok (actionArguments m request))
    (hargs : decodeArgs (actionArguments m request) = some args) :
    callAction L logLevel (moduleExecute env) m request =
      if env.canWrite (pathJoin request.resultsDir "stdout") &&
          env.canWrite (pathJoin request.resultsDir "stderr") &&
          env.canWrite (pathJoin request.resultsDir "exitcode") then
        processRequestOutcome L logLevel request (env.finish (some args)).status
          (env.finish (some args)).text (env.finish (some args)).stderr
      else .error (.processingError "failed to write output on file") := by
  by_cases hall : (env.canWrite (pathJoin request.resultsDir "stdout") &&
      env.canWrite (pathJoin request.resultsDir "stderr") &&
      env.canWrite (pathJoin request.resultsDir "exitcode")) = true
  · rw [if_pos hall]
    simp only [Bool.and_eq_true] at hall
    exact callAction_moduleExecute_of_writable L logLevel env m request args hnb haction hstdin
      hargs hall.1.1 hall.1.2 hall.2
  · rw [if_neg hall]
    have hexec : moduleExecute env (nonBlockingCommand L m request) =
        (scriptRun env (some args)).result env.files :=
      moduleExecute_of_args haction hstdin (truthy_actionArguments m request) hargs
    have h5 : (scriptRun env (some args)).exitStatus = 5 := by
      rw [scriptRun_exitStatus, decodeArgs_outputFiles hnb hargs]
      exact if_neg hall
    simp [callAction, hnb, callNonBlockingAction_eq, hexec, ScriptRun.result, h5,
      externalModuleFileErrorEc]

theorem callAction_moduleExecute_sample :
    callAction argsWriter .info (moduleExecute (sampleEnv fun _ => true)) samplePuppetModule
        sampleRequest =
      if (sampleEnv fun _ => true).canWrite (pathJoin sampleRequest.resultsDir "stdout") &&
          (sampleEnv fun _ => true).canWrite (pathJoin sampleRequest.resultsDir "stderr") &&
          (sampleEnv fun _ => true).canWrite (pathJoin sampleRequest.resultsDir "exitcode") then
        processRequestOutcome argsWriter .info sampleRequest
          ((sampleEnv fun _ => true).finish (some sampleArgs)).status
          ((sampleEnv fun _ => true).finish (some sampleArgs)).text
          ((sampleEnv fun _ => true).finish (some sampleArgs)).stderr
      else .error (.processingError "failed to write output on file") :=
  callAction_moduleExecute argsWriter .info (sampleEnv fun _ => true) samplePuppetModule
    sampleRequest sampleArgs rfl (by decide) rfl decodeArgs_sampleRequest

/-- The result of the sample run: Puppet exits 0 and its report is newer than
the run's start. -/
def sampleResult : Result := resultFromReport 0 laterReportHost.now (sampleReport ⟨102700000000⟩)

/-- The script's world with a JSON writer that writes every document as the text
`result`. -/
def resultWriterEnv : ScriptEnv :=
  { sampleEnv fun _ => true with
    json := { (sampleEnv fun _ => true).json with render := fun _ => "result" } }

/-- Libraries that write the action arguments as `args` and read `result` as the
document of the sample result. -/
def resultReader : Libraries :=
  { argsWriter with
    json := { JsonText.ofTable [("result", resultJson resultWriterEnv.timeText sampleResult)] with
      render := fun _ => "args" } }

/-- The agent receives the result the puppet module computed. When the script
can open its output files, its action returns a result, and the agent's JSON
reader reads the printed result back as the document the script's JSON writer
was given, the call returns that document as its results, with the script's
exit status and an empty stderr. -/
theorem callAction_moduleExecute_result (L : Libraries) (logLevel : LogLevel) (env : ScriptEnv)
    (m : ExternalModule) (request : ActionRequest) (args : ActionArgs) (r : Result)
    (hnb : request.type = .nonBlocking) (haction : request.action ≠ "metadata")
    (hstdin : env.json.parse (chomp (getActionArguments L m request)) = .ok (actionArguments m request))
    (hargs : decodeArgs (actionArguments m request) = some args)
    (hout : env.canWrite (pathJoin request.resultsDir "stdout") = true)
    (herr : env.canWrite (pathJoin request.resultsDir "stderr") = true)
    (hcode : env.canWrite (pathJoin request.resultsDir "exitcode") = true)
    (hrun : actionRun env.host (some args) = .ok r) (hprint : env.print r ≠ "")
    (hparse : L.json.parse (env.print r) = .ok (resultJson env.timeText r)) :
    callAction L logLevel (moduleExecute env) m request =
      .ok ⟨resultStatus r, "", env.print r, resultJson env.timeText r⟩ := by
  rw [callAction_moduleExecute_of_writable L logLevel env m request args hnb haction hstdin hargs
    hout herr hcode, processRequestOutcome_eq]
  simp [ScriptEnv.finish, hrun, hprint, hparse]

theorem callAction_moduleExecute_result_sample :
    callAction resultReader .info (moduleExecute resultWriterEnv) samplePuppetModule sampleRequest =
      .ok ⟨resultStatus sampleResult, "", resultWriterEnv.print sampleResult,
        resultJson resultWriterEnv.timeText sampleResult⟩ :=
  callAction_moduleExecute_result resultReader .info resultWriterEnv samplePuppetModule
    sampleRequest sampleArgs sampleResult rfl (by decide) rfl decodeArgs_sampleRequest rfl rfl rfl rfl
    (by decide) rfl

/-- Through the pipe or through the files, the agent processes the same thing:
for a blocking request, and for a non-blocking one whose three files the script
can open, the call processes what the script printed, what reached its stderr,
and its exit status. -/
theorem callAction_moduleExecute_pipe_or_files (L : Libraries) (logLevel : LogLevel)
    (env : ScriptEnv) (m : ExternalModule) (request : ActionRequest) (args : ActionArgs)
    (haction : request.action ≠ "metadata")
    (hstdin : env.json.parse (chomp (getActionArguments L m request)) = .ok (actionArguments m request))
    (hargs : decodeArgs (actionArguments m request) = some args)
    (hfiles : request.type = .nonBlocking →
      env.canWrite (pathJoin request.resultsDir "stdout") = true ∧
      env.canWrite (pathJoin request.resultsDir "stderr") = true ∧
      env.canWrite (pathJoin request.resultsDir "exitcode") = true) :
    callAction L logLevel (moduleExecute env) m request =
      processRequestOutcome L logLevel request (env.finish (some args)).status
        (env.finish (some args)).text (env.finish (some args)).stderr := by
  cases ht : request.type with
  | blocking =>
    have hexec : moduleExecute env (blockingCommand L m request) =
        (scriptRun env (some args)).result env.files :=
      moduleExecute_of_args haction hstdin (truthy_actionArguments m request) hargs
    simp only [callAction, ht, callBlockingAction_eq, hexec,
      scriptRun_of_no_files env args (decodeArgs_outputFiles_none ht hargs)]
    rfl
  | nonBlocking =>
    obtain ⟨hout, herr, hcode⟩ := hfiles ht
    exact callAction_moduleExecute_of_writable L logLevel env m request args ht haction hstdin
      hargs hout herr hcode

theorem callAction_moduleExecute_pipe_or_files_sample :
    callAction argsWriter .info (moduleExecute (sampleEnv fun _ => true)) samplePuppetModule
        sampleRequest =
      processRequestOutcome argsWriter .info sampleRequest
        ((sampleEnv fun _ => true).finish (some sampleArgs)).status
        ((sampleEnv fun _ => true).finish (some sampleArgs)).text
        ((sampleEnv fun _ => true).finish (some sampleArgs)).stderr :=
  callAction_moduleExecute_pipe_or_files argsWriter .info (sampleEnv fun _ => true)
    samplePuppetModule sampleRequest sampleArgs (by decide) rfl decodeArgs_sampleRequest
    fun _ => ⟨rfl, rfl, rfl⟩

/-! ## §7. Loading the puppet module -/

/-- The puppet module as the agent loads it: the single action `run`, its two
schemas, and the configuration schema under the module's name. -/
def loadedPuppetModule (path : String) (config : Json) : ExternalModule :=
  { ExternalModule.initial path config with
    actions := ["run"]
    inputValidator := ⟨[⟨"run", runInputSchema⟩]⟩
    resultsValidator := ⟨[⟨"run", runResultsSchema⟩]⟩
    configValidator := ⟨[⟨stem path, configurationSchema⟩]⟩ }

theorem moduleExecute_metadata (env : ScriptEnv) (path : String) :
    moduleExecute env (metadataCommand path) =
      ⟨0, puts (env.json.render metadataDocument), "", env.files⟩ := by
  simp [moduleExecute, metadataCommand]

section Loading

variable {L : Libraries} {logLevel : LogLevel} {env : ScriptEnv} {path : String} {config : Json}

theorem getMetadata_moduleExecute
    (hparse : L.json.parse (puts (env.json.render metadataDocument)) = .ok metadataDocument) :
    getMetadata L logLevel (moduleExecute env) path (stem path) = .ok metadataDocument := by
  unfold getMetadata
  simp +decide only [moduleExecute_metadata, hparse, log_eq_ok, ok_bind, pure_eq_ok,
    List.length_cons, List.length_nil, ne_eq, not_true_eq_false, if_false]
  rfl

/-- The agent loads the puppet module, with its metadata read back from the
script and the module's three schemas accepted by the schema library, as
`loadedPuppetModule`. -/
theorem construct_moduleExecute (L : Libraries) (logLevel : LogLevel) (env : ScriptEnv)
    (path : String) (config : Json)
    (hparse : L.json.parse (puts (env.json.render metadataDocument)) = .ok metadataDocument)
    (hconf : L.schemaParses configurationSchema = true) (hin : L.schemaParses runInputSchema = true)
    (hres : L.schemaParses runResultsSchema = true) :
    ExternalModule.construct L logLevel (moduleExecute env) path config =
      .ok (loadedPuppetModule path config) := by
  have hincludes : metadataDocument.includes metadataConfigurationEntry = true := rfl
  have hconfiguration :
      metadataDocument.getContainer metadataConfigurationEntry = .ok configurationSchema := rfl
  have hactions : metadataDocument.getArray metadataActionsEntry = .ok [runActionMetadata] := rfl
  have hname : runActionMetadata.getString "name" = .ok "run" := rfl
  have hinput : runActionMetadata.getContainer "input" = .ok runInputSchema := rfl
  have hresults : runActionMetadata.getContainer "results" = .ok runResultsSchema := rfl
  unfold ExternalModule.construct
  dsimp only
  rw [show (ExternalModule.initial path config).moduleName = stem path from rfl,
    getMetadata_moduleExecute hparse]
  simp +decide only [ok_bind, hincludes, hconfiguration, hactions, if_true, registerConfiguration,
    registerActions, List.foldlM_cons, List.foldlM_nil, registerAction, hname, hinput, hresults,
    Schema.ofJson, hconf, hin, hres, log_eq_ok, List.length_cons, List.length_nil, pure_eq_ok,
    tryCatch_ok]
  rfl

end Loading

/-- A script world whose JSON writer writes every document as the text `meta`. -/
def metaWriterEnv : ScriptEnv :=
  { sampleEnv fun _ => true with json := { JsonText.ofTable [] with render := fun _ => "meta" } }

end PxpAgent.Puppet
