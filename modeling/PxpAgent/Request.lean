import PxpAgent.Basic

/-!
# PxpAgent.Request — requests, outcomes, and the host the agent runs on

The value objects that flow through a call of an external module, and the part
of the operating system the call touches.

* `ActionRequest` is modelled from the spec (its class is not under src/). It
  carries the two facts the code relies on as fields: the request id is the
  `id` of the envelope (`wrapDebug` reads it from there), and a non-blocking
  request has a results directory (`callAction` asserts it).
* `ActionOutcome` is the value `processRequestOutcome` returns.
* A child run is seen through `ExecutionResult`: exit code, the captured pipes,
  and the file system the child leaves behind. `Execute` launches a `Command`
  and waits for it, as `leatherman::execution::execute` does; every behaviour of
  the child is some `Execute`.

Paths are joined as `boost::filesystem::path::operator/` does on POSIX; the
`_WIN32` branch, which launches through `cmd.exe /c`, is not modelled.
-/

namespace PxpAgent

/-! ## §1. Requests and outcomes -/

/-- Modelled from the spec: the two kinds of request. -/
inductive RequestType where
  | blocking
  | nonBlocking
  deriving DecidableEq, Repr

/-- Modelled from the spec: the envelope, data and debug chunks of a message
as the connector parsed them, with the number of debug chunks it could not
parse. -/
structure ParsedChunks where
  envelope : Json
  data : Json
  debug : List Json
  numInvalidDebug : Nat

/-- Modelled from the spec: an inbound action request. -/
structure ActionRequest where
  id : String
  transactionId : String
  sender : String
  module : String
  action : String
  type : RequestType
  params : Json
  parsedChunks : ParsedChunks
  resultsDir : String
  /-- The request id is the one the envelope carries. -/
  envelope_id : parsedChunks.envelope.get? "id" = some (.str id)
  /-- A non-blocking request has a results directory. -/
  resultsDir_ne : type = .nonBlocking → resultsDir ≠ ""

/-- Modelled from the spec: the word for a request type in log lines. -/
def RequestType.label : RequestType → String
  | .blocking => "blocking"
  | .nonBlocking => "non-blocking"

/-- Modelled from the spec: `"<type> request <id> for <module> <action>"`. -/
def ActionRequest.prettyLabel (r : ActionRequest) : String :=
  r.type.label ++ " request " ++ r.id ++ " for " ++ r.module ++ " " ++ r.action

/-- `ActionOutcome { exit_code, stderr, stdout, results }`. -/
structure ActionOutcome where
  exitCode : Int
  stderr : String
  stdout : String
  results : Json

/-! ## §2. Files and processes -/

/-- A path of the file system: missing, present but unreadable, or readable
with its contents. -/
inductive FileState where
  | absent
  | unreadable
  | contents (text : String)

/-- The file system, path by path. -/
abbrev FileSystem := String → FileState

/-- `boost::filesystem::exists(path)`. -/
def fileExists (fs : FileSystem) (path : String) : Bool :=
  match fs path with
  | .absent => false
  | _ => true

/-- `leatherman::file_util::read(path, text)`: the contents, or `none` when the
file cannot be opened (the text argument is then left as it was). -/
def readFile (fs : FileSystem) (path : String) : Option String :=
  match fs path with
  | .contents text => some text
  | _ => none

/-- The text of a file, an absent or unreadable file read as empty. -/
def fileText (fs : FileSystem) (path : String) : String :=
  (readFile fs path).getD ""

/-- `dir / name` for a relative `name`: a separator is added unless `dir` is
empty or already ends with one. -/
def pathJoin (dir name : String) : String :=
  if dir = "" ∨ dir.toList.getLast? = some '/' then dir ++ name else dir ++ "/" ++ name

/-- Two names joined to one directory give two paths. -/
theorem pathJoin_injective (dir : String) {a b : String} (h : pathJoin dir a = pathJoin dir b) :
    a = b := by
  unfold pathJoin at h
  split at h <;>
  · have h' := congrArg String.data h
    simp only [String.data_append, List.append_assoc, List.append_cancel_left_eq] at h'
    exact String.ext h'

theorem pathJoin_ne (dir : String) {a b : String} (h : a ≠ b) : pathJoin dir a ≠ pathJoin dir b :=
  fun he => h (pathJoin_injective dir he)

/-- What is handed to `leatherman::execution::execute`: the executable, its
arguments, the text written to its stdin, and the file the pid callback writes. -/
structure Command where
  file : String
  args : List String
  stdin : Option String
  pidFile : Option String

/-- What `execute` returns once the child has exited, with the file system the
child leaves behind. -/
structure ExecutionResult where
  exitCode : Int
  output : String
  error : String
  files : FileSystem

/-- A behaviour of the children the agent launches. -/
abbrev Execute := Command → ExecutionResult

end PxpAgent
