import PxpAgent.Basic

/-!
# PxpAgent.Format — boost::format and the leatherman LOG macros

Every log line of the agent goes through `boost::format`, and so does the
message of a `ProcessingError` built in `processRequestOutcome`. A format string
with a directive `%N%` expects `N` arguments; boost raises `too_few_args` from
`str()` when fewer were fed and `too_many_args` when one too many is fed. The
`LOG_<LEVEL>` macros test whether the level is enabled before they format, so a
malformed string raises only when its level is logged.

* `arity` and `render` scan a format string once, tail-recursively, as boost
  parses it.
* `boostFormat_eq_ok` and `boostFormat_too_few`: a format fed exactly `arity`
  arguments renders, one fed fewer raises `too_few_args`.
* `log_eq_ok`: a log call whose argument count matches its format string never
  raises, whatever the configured level. `log_too_few` is the other side.

Only the `%N%` and `%%` directives occur in the source's format strings; other
text after a `%` is kept as it is.
-/

namespace PxpAgent

/-! ## §1. Format strings -/

/-- Where the scanner of a format string stands: in plain text, just after a
`%`, or inside the digits of a directive `%N%`, with `N` and the digits read so
far (reversed). -/
inductive Scan where
  | text
  | percent
  | number (n : Nat) (raw : List Char)

/-- The value of a decimal digit. -/
def digitValue (c : Char) : Nat := c.toNat - '0'.toNat

/-- The largest `N` of a directive `%N%` from the scanner's position on, or
`acc` if it is larger. -/
def arityAux : Scan → Nat → List Char → Nat
  | _, acc, [] => acc
  | .text, acc, c :: cs => if c = '%' then arityAux .percent acc cs else arityAux .text acc cs
  | .percent, acc, c :: cs =>
    if c = '%' then arityAux .text acc cs
    else if c.isDigit then arityAux (.number (digitValue c) [c]) acc cs
    else arityAux .text acc cs
  | .number n raw, acc, c :: cs =>
    if c = '%' then arityAux .text (Nat.max acc n) cs
    else if c.isDigit then arityAux (.number (10 * n + digitValue c) (c :: raw)) acc cs
    else arityAux .text acc cs

/-- The number of arguments boost expects for a format string: its largest
positional directive. -/
def arity (fmt : String) : Nat := arityAux .text 0 fmt.toList

/-- The formatted text, reversed onto `acc`: a directive `%N%` is replaced by the
`N`-th argument and `%%` by `%`. -/
def renderAux (args : List String) : Scan → List Char → List Char → List Char
  | .text, acc, [] => acc
  | .percent, acc, [] => '%' :: acc
  | .number _ raw, acc, [] => raw ++ '%' :: acc
  | .text, acc, c :: cs =>
    if c = '%' then renderAux args .percent acc cs else renderAux args .text (c :: acc) cs
  | .percent, acc, c :: cs =>
    if c = '%' then renderAux args .text ('%' :: acc) cs
    else if c.isDigit then renderAux args (.number (digitValue c) [c]) acc cs
    else renderAux args .text (c :: '%' :: acc) cs
  | .number n raw, acc, c :: cs =>
    if c = '%' then renderAux args .text ((args.getD (n - 1) "").toList.reverse ++ acc) cs
    else if c.isDigit then renderAux args (.number (10 * n + digitValue c) (c :: raw)) acc cs
    else renderAux args .text (c :: raw ++ '%' :: acc) cs

/-- The text of a format string with its arguments substituted. -/
def render (fmt : String) (args : List String) : String :=
  ⟨(renderAux args .text [] fmt.toList).reverse⟩

/-- `(boost::format(fmt) % a₁ % … % aₖ).str()`. -/
def boostFormat (fmt : String) (args : List String) : Except Exception String :=
  if arity fmt < args.length then .error (.tooManyArgs (arity fmt) (arity fmt))
  else if args.length < arity fmt then .error (.tooFewArgs args.length (arity fmt))
  else .ok (render fmt args)

theorem boostFormat_eq_ok {fmt : String} {args : List String} (h : arity fmt = args.length) :
    boostFormat fmt args = .ok (render fmt args) := by
  simp [boostFormat, h]

theorem boostFormat_too_few {fmt : String} {args : List String} (h : args.length < arity fmt) :
    boostFormat fmt args = .error (.tooFewArgs args.length (arity fmt)) := by
  simp [boostFormat, h, Nat.not_lt_of_gt h]

example : render "Replied to %1% by %2%, request ID %3%" ["a", "b", "c"] =
    "Replied to a by b, request ID c" := by decide

/-! ## §2. Logging -/

/-- The log levels of leatherman, in increasing severity; `none` switches
logging off. -/
inductive LogLevel where
  | none | trace | debug | info | warning | error | fatal
  deriving DecidableEq, Repr

/-- The position of a level in the enum. -/
def LogLevel.rank : LogLevel → Nat
  | .none => 0 | .trace => 1 | .debug => 2 | .info => 3
  | .warning => 4 | .error => 5 | .fatal => 6

/-- `leatherman::logging::is_enabled(level)` under the configured level. -/
def isEnabled (configured level : LogLevel) : Bool :=
  configured != .none && configured.rank ≤ level.rank

/-- `LOG_<LEVEL>(fmt, args…)`: an enabled message is formatted, which may raise;
a disabled one is skipped. The text goes to the log, which no modelled function
reads back. -/
def log (configured level : LogLevel) (fmt : String) (args : List String) :
    Except Exception Unit :=
  if isEnabled configured level then (fun _ => ()) <$> boostFormat fmt args else pure ()

/-- A log call whose arguments match its format string never raises. -/
@[simp] theorem log_eq_ok {configured level : LogLevel} {fmt : String} {args : List String}
    (h : arity fmt = args.length) : log configured level fmt args = .ok () := by
  unfold log
  split <;> simp [boostFormat_eq_ok h]

/-- A log call below the configured level is skipped. -/
theorem log_of_disabled {configured level : LogLevel} {fmt : String} {args : List String}
    (h : isEnabled configured level = false) : log configured level fmt args = .ok () := by
  simp [log, h]

/-- An enabled log call given fewer arguments than its format string names
raises `too_few_args`. -/
theorem log_too_few {configured level : LogLevel} {fmt : String} {args : List String}
    (hen : isEnabled configured level = true) (h : args.length < arity fmt) :
    log configured level fmt args = .error (.tooFewArgs args.length (arity fmt)) := by
  simp only [log, hen, if_true, boostFormat_too_few h]
  rfl

/-- `leatherman::util::plural(n)`: the suffix of a counted noun. -/
def plural (n : Nat) : String := if n = 1 then "" else "s"

end PxpAgent
