import PxpAgent.ExternalModule.Load

/-!
# PxpAgent.ExternalModule.Call — running an action of an external module

`ExternalModule::callAction(request)`: a blocking request runs the executable
with the action arguments on stdin and parses its captured stdout; a
non-blocking one also advertises `<results_dir>/stdout`, `stderr` and
`exitcode` in `output_files`, fails on the reserved exit code 5, and otherwise
reads the child's output back from those files.

* `readNonBlockingOutcome_eq`, `processRequestOutcome_eq`: the two steps as
  plain functions of their inputs; no log line of either can raise, and an
  empty stdout gives `null` results (`processRequestOutcome_empty_stdout`).
* `advertisedFile_actionArguments`: the files read back are the ones the child
  was told to write.
* `callAction_outcome`: when a call raises `ProcessingError`, and what it
  returns otherwise, for every request and every run of the child.
-/

namespace PxpAgent

/-- The exit code reserved for a task that could not open its output files. -/
def externalModuleFileErrorEc : Int := 5

/-- `EXIT_SUCCESS`. -/
def exitSuccess : Int := 0

section Calling

variable (L : Libraries) (logLevel : LogLevel) (execute : Execute)

/-! ## §1. The steps of a call -/

/-- The action arguments document: the request's input, the module's
configuration unless it is empty, and for a non-blocking request the three
output files under the results directory. -/
def actionArguments (m : ExternalModule) (request : ActionRequest) : Json :=
  let actionArgs := (Json.obj []).set "input" request.params
  let actionArgs := if !m.config.isEmpty then actionArgs.set "configuration" m.config else actionArgs
  if request.type = .nonBlocking then
    let rdp := request.resultsDir
    let outputFiles := (((Json.obj []).set "stdout" (.str (pathJoin rdp "stdout"))).set
      "stderr" (.str (pathJoin rdp "stderr"))).set "exitcode" (.str (pathJoin rdp "exitcode"))
    actionArgs.set "output_files" outputFiles
  else actionArgs

/-- `getActionArguments(request)`: the action arguments as text. -/
def getActionArguments (m : ExternalModule) (request : ActionRequest) : String :=
  L.json.render (actionArguments m request)

/-- `readNonBlockingOutcome(request, out_file, err_file, out_txt, err_txt)`, with
`out_txt` and `err_txt` empty on entry: an unreadable error file is logged and
skipped, a missing output file is read as empty, an unreadable one raises. -/
def readNonBlockingOutcome (fs : FileSystem) (request : ActionRequest) (outFile errFile : String) :
    Except Exception (String × String) := do
  let errTxt ← if fileExists fs errFile then
      match readFile fs errFile with
      | none => do
        log logLevel .error
          "Failed to read error file '%1%' of '%2% %3%'; will continue processing the output"
          [errFile, request.module, request.action]
        pure ""
      | some errTxt => do
        log logLevel .trace "Successfully read error file '%1%'" [errFile]
        pure errTxt
    else pure ""
  if !fileExists fs outFile then
    log logLevel .debug "Output file '%1%' of '%2% %3%' does not exist"
      [outFile, request.module, request.action]
    pure ("", errTxt)
  else
    match readFile fs outFile with
    | none => do
      log logLevel .error "Failed to read output file '%1%' of '%2% %3%'"
        [outFile, request.module, request.action]
      throw (.processingError "failed to read")
    | some outTxt => do
      if outTxt = "" then
        log logLevel .trace "Output file '%1%' of '%2% %3%' is empty"
          [outFile, request.module, request.action]
      else
        log logLevel .trace "Successfully read output file '%1%'" [outFile]
      pure (outTxt, errTxt)

/-- `processRequestOutcome(request, exit_code, out_txt, err_txt)`: parse stdout,
`null` standing for an empty one, into the outcome's results. -/
def processRequestOutcome (request : ActionRequest) (exitCode : Int) (outTxt errTxt : String) :
    Except Exception ActionOutcome := do
  if outTxt = "" then
    log logLevel .trace "Obtained no results on stdout for the %1%" [request.prettyLabel]
  else
    log logLevel .trace "Results on stdout for the %1%: %2%" [request.prettyLabel, outTxt]
  if exitCode ≠ exitSuccess then
    log logLevel .trace "Execution failure (exit code %1%) for the %2%%3%"
      [toString exitCode, request.prettyLabel, if errTxt = "" then "" else "; stderr:\n" ++ errTxt]
  else if errTxt ≠ "" then
    log logLevel .trace "Output on stderr for the %1%:\n%2%" [request.prettyLabel, errTxt]
  match L.json.parse (if outTxt = "" then "null" else outTxt) with
  | .ok results => pure ⟨exitCode, errTxt, outTxt, results⟩
  | .error what => do
    let errFormat ← if outTxt = "" then do
        log logLevel .debug "Obtained no output on stdout for the %1%" [request.prettyLabel]
        pure "The task executed for the %1% returned no output on stdout - stderr:%2%"
      else do
        log logLevel .debug
          "Obtained invalid JSON on stdout for the %1%; (validation error: %2%); stdout:\n%3%"
          [request.prettyLabel, what, outTxt]
        pure "The task executed for the %1% returned invalid JSON on stdout - stderr:%2%"
    let errMsg ← boostFormat errFormat
      [request.prettyLabel, if errTxt = "" then " (empty)" else "\n" ++ errTxt]
    throw (.processingError errMsg)

/-- The child of a blocking call: the action name as the only argument, the
action arguments on stdin. -/
def blockingCommand (m : ExternalModule) (request : ActionRequest) : Command :=
  { file := m.path, args := [request.action], stdin := some (getActionArguments L m request),
    pidFile := none }

/-- The child of a non-blocking call: as a blocking one, with the pid callback
writing `<results_dir>/pid`. -/
def nonBlockingCommand (m : ExternalModule) (request : ActionRequest) : Command :=
  { file := m.path, args := [request.action], stdin := some (getActionArguments L m request),
    pidFile := some (pathJoin request.resultsDir "pid") }

/-- `callBlockingAction(request)`. -/
def callBlockingAction (m : ExternalModule) (request : ActionRequest) :
    Except Exception ActionOutcome := do
  log logLevel .info "Executing the %1%" [request.prettyLabel]
  log logLevel .trace "Input for the %1%: %2%" [request.prettyLabel, getActionArguments L m request]
  let exec := execute (blockingCommand L m request)
  processRequestOutcome L logLevel request exec.exitCode exec.output exec.error

/-- `callNonBlockingAction(request)`. -/
def callNonBlockingAction (m : ExternalModule) (request : ActionRequest) :
    Except Exception ActionOutcome := do
  let outFile := pathJoin request.resultsDir "stdout"
  let errFile := pathJoin request.resultsDir "stderr"
  log logLevel .info "Starting a task for the %1%; stdout and stderr will be stored in %2%"
    [request.prettyLabel, request.resultsDir]
  log logLevel .trace "Input for the %1%: %2%" [request.prettyLabel, getActionArguments L m request]
  let exec := execute (nonBlockingCommand L m request)
  if exec.exitCode = externalModuleFileErrorEc then
    log logLevel .warning
      "The task process failed to write output on file for the %1%; stdout: %2%; stderr: %3%"
      [request.prettyLabel, if exec.output = "" then "(empty)" else exec.output,
       if exec.error = "" then "(empty)" else exec.error]
    throw (.processingError "failed to write output on file")
  let (outTxt, errTxt) ← readNonBlockingOutcome logLevel exec.files request outFile errFile
  processRequestOutcome L logLevel request exec.exitCode outTxt errTxt

/-- `callAction(request)`. The `assert` that a non-blocking request has a
results directory holds by `ActionRequest.resultsDir_ne`. -/
def callAction (m : ExternalModule) (request : ActionRequest) : Except Exception ActionOutcome :=
  match request.type with
  | .blocking => callBlockingAction L logLevel execute m request
  | .nonBlocking => callNonBlockingAction L logLevel execute m request

/-! ## §2. Each step as a function of its inputs -/

/-- Reading the result files back: only an output file that exists and cannot
be read raises; a missing or unreadable error file, and a missing output file,
are read as empty. -/
theorem readNonBlockingOutcome_eq (fs : FileSystem) (request : ActionRequest)
    (outFile errFile : String) :
    readNonBlockingOutcome logLevel fs request outFile errFile =
      match fs outFile with
      | .unreadable => .error (.processingError "failed to read")
      | _ => .ok (fileText fs outFile, fileText fs errFile) := by
  unfold readNonBlockingOutcome
  simp +decide only [log_eq_ok, ok_bind, pure_eq_ok, List.length_cons, List.length_nil, ite_self]
  cases hErr : fs errFile <;> cases hOut : fs outFile <;>
    simp [fileExists, readFile, fileText, hErr, hOut]

/-- Parsing the outcome: stdout, `null` standing for an empty one, becomes the
results; a text that does not parse raises `ProcessingError` with the message
of the source. -/
theorem processRequestOutcome_eq (request : ActionRequest) (exitCode : Int) (outTxt errTxt : String) :
    processRequestOutcome L logLevel request exitCode outTxt errTxt =
      match L.json.parse (if outTxt = "" then "null" else outTxt) with
      | .ok results => .ok ⟨exitCode, errTxt, outTxt, results⟩
      | .error _ => .error (.processingError (render
          (if outTxt = "" then "The task executed for the %1% returned no output on stdout - stderr:%2%"
           else "The task executed for the %1% returned invalid JSON on stdout - stderr:%2%")
          [request.prettyLabel, if errTxt = "" then " (empty)" else "\n" ++ errTxt])) := by
  unfold processRequestOutcome
  simp +decide only [log_eq_ok, ok_bind, pure_eq_ok, List.length_cons, List.length_nil, ite_self]
  cases L.json.parse (if outTxt = "" then "null" else outTxt) with
  | ok results => rfl
  | error what =>
    by_cases hout : outTxt = "" <;>
      simp +decide only [hout, if_true, if_false, ok_bind, boostFormat_eq_ok, List.length_cons,
        List.length_nil, throw_eq_error]

/-- A log line can raise only if its arguments do not match it; none of those of
a blocking call can. -/
theorem callBlockingAction_eq (m : ExternalModule) (request : ActionRequest) :
    callBlockingAction L logLevel execute m request =
      processRequestOutcome L logLevel request (execute (blockingCommand L m request)).exitCode
        (execute (blockingCommand L m request)).output
        (execute (blockingCommand L m request)).error := by
  unfold callBlockingAction
  simp +decide only [log_eq_ok, ok_bind, List.length_cons, List.length_nil]

/-- A non-blocking call: exit code 5 raises, an unreadable output file raises,
and otherwise the texts read back from the result files are parsed. -/
theorem callNonBlockingAction_eq (m : ExternalModule) (request : ActionRequest) :
    callNonBlockingAction L logLevel execute m request =
      let run := execute (nonBlockingCommand L m request)
      if run.exitCode = externalModuleFileErrorEc then
        .error (.processingError "failed to write output on file")
      else
        match run.files (pathJoin request.resultsDir "stdout") with
        | .unreadable => .error (.processingError "failed to read")
        | _ => processRequestOutcome L logLevel request run.exitCode
            (fileText run.files (pathJoin request.resultsDir "stdout"))
            (fileText run.files (pathJoin request.resultsDir "stderr")) := by
  unfold callNonBlockingAction
  simp +decide only [log_eq_ok, ok_bind, List.length_cons, List.length_nil, readNonBlockingOutcome_eq]
  split
  · rfl
  · split <;> simp_all

theorem processRequestOutcome_raises_iff (request : ActionRequest) (exitCode : Int)
    (outTxt errTxt : String) :
    (∃ msg, processRequestOutcome L logLevel request exitCode outTxt errTxt =
      .error (.processingError msg)) ↔ outTxt ≠ "" ∧ ∃ what, L.json.parse outTxt = .error what := by
  rw [processRequestOutcome_eq]
  by_cases hs : outTxt = ""
  · simp [hs, L.json.parse_null]
  · cases hp : L.json.parse outTxt <;> simp [hs, hp]

theorem processRequestOutcome_ok_iff (request : ActionRequest) (exitCode : Int)
    (outTxt errTxt : String) (o : ActionOutcome) :
    processRequestOutcome L logLevel request exitCode outTxt errTxt = .ok o ↔
      ∃ results, (if outTxt = "" then .ok .null else L.json.parse outTxt) = .ok results ∧
        o = ⟨exitCode, errTxt, outTxt, results⟩ := by
  rw [processRequestOutcome_eq]
  by_cases hs : outTxt = ""
  · simp [hs, L.json.parse_null, eq_comm]
  · cases hp : L.json.parse outTxt <;> simp [hs, hp, eq_comm]

/-- An empty stdout is never an error: whatever the exit code and stderr, the
outcome carries `null` results, so the message "returned no output on stdout"
is never raised. -/
theorem processRequestOutcome_empty_stdout (request : ActionRequest) (exitCode : Int)
    (errTxt : String) :
    processRequestOutcome L logLevel request exitCode "" errTxt = .ok ⟨exitCode, errTxt, "", .null⟩ := by
  rw [processRequestOutcome_eq, if_pos rfl, L.json.parse_null]

/-! ## §3. What a call does -/

/-- The path a document advertises under `output_files.<key>`, or the empty
path. -/
def advertisedFile (args : Json) (key : String) : String :=
  match args.get? "output_files" with
  | some outputFiles =>
    match outputFiles.get? key with
    | some (.str path) => path
    | _ => ""
  | none => ""

/-- The files a non-blocking call reads back are the ones its action arguments
advertise to the child. -/
theorem advertisedFile_actionArguments (m : ExternalModule) (request : ActionRequest)
    (h : request.type = .nonBlocking) :
    advertisedFile (actionArguments m request) "stdout" = pathJoin request.resultsDir "stdout" ∧
    advertisedFile (actionArguments m request) "stderr" = pathJoin request.resultsDir "stderr" := by
  simp [advertisedFile, actionArguments, h, Json.get?_set_ne]

/-- The run of the child a call launches. -/
def childRun (m : ExternalModule) (request : ActionRequest) : ExecutionResult :=
  match request.type with
  | .blocking => execute (blockingCommand L m request)
  | .nonBlocking => execute (nonBlockingCommand L m request)

/-- The stdout text a call works from: the captured pipe of a blocking run, the
advertised stdout file of a non-blocking one, read as empty when absent or
unreadable. -/
def observedStdout (m : ExternalModule) (request : ActionRequest) (run : ExecutionResult) : String :=
  match request.type with
  | .blocking => run.output
  | .nonBlocking => fileText run.files (advertisedFile (actionArguments m request) "stdout")

/-- The stderr text a call works from, in the same way. -/
def observedStderr (m : ExternalModule) (request : ActionRequest) (run : ExecutionResult) : String :=
  match request.type with
  | .blocking => run.error
  | .nonBlocking => fileText run.files (advertisedFile (actionArguments m request) "stderr")

/-- For every request and every run of the child it launches, with `c` its exit
code and `s`, `e` the stdout and stderr texts the call works from: the call
raises `ProcessingError` exactly when the request is non-blocking and `c = 5`,
or non-blocking with a stdout file that exists and cannot be read, or `s` is
non-empty and not valid JSON; otherwise it returns `ActionOutcome(c, e, s,
results)` with `null` for an empty `s` and the parse of `s` otherwise. -/
theorem callAction_outcome (m : ExternalModule) (request : ActionRequest) :
    let run := childRun L execute m request
    let s := observedStdout m request run
    let e := observedStderr m request run
    let stdoutFile := advertisedFile (actionArguments m request) "stdout"
    ((∃ msg, callAction L logLevel execute m request = .error (.processingError msg)) ↔
      (request.type = .nonBlocking ∧ run.exitCode = 5) ∨
      (request.type = .nonBlocking ∧ run.files stdoutFile = .unreadable) ∨
      (s ≠ "" ∧ ∃ what, L.json.parse s = .error what)) ∧
    ∀ o, (callAction L logLevel execute m request = .ok o ↔
      ¬(request.type = .nonBlocking ∧ run.exitCode = 5) ∧
      ¬(request.type = .nonBlocking ∧ run.files stdoutFile = .unreadable) ∧
      ∃ results, (if s = "" then .ok .null else L.json.parse s) = .ok results ∧
        o = ⟨run.exitCode, e, s, results⟩) := by
  dsimp only
  cases ht : request.type with
  | blocking =>
    simp [callAction, ht, callBlockingAction_eq, childRun, observedStdout, observedStderr,
      processRequestOutcome_raises_iff, processRequestOutcome_ok_iff]
  | nonBlocking =>
    obtain ⟨hout, herr⟩ := advertisedFile_actionArguments m request ht
    simp only [callAction, ht, childRun, observedStdout, observedStderr, hout, herr,
      callNonBlockingAction_eq, externalModuleFileErrorEc]
    by_cases h5 : (execute (nonBlockingCommand L m request)).exitCode = 5
    · simp [h5]
    · cases hf : (execute (nonBlockingCommand L m request)).files (pathJoin request.resultsDir "stdout") <;>
        simp [h5, hf, processRequestOutcome_raises_iff, processRequestOutcome_ok_iff, fileText, readFile]

end Calling

end PxpAgent
