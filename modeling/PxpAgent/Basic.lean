import Mathlib.Logic.Basic

/-!
# PxpAgent.Basic — JSON documents and the exceptions of the agent

The values the module-dispatch code passes around, as the libraries it links
against hold them:

* `Json` is a `leatherman::json_container::JsonContainer` document. Objects keep
  their members in insertion order; `Json.set` replaces a member in place or
  appends it, and the typed getters (`getString`, `getContainer`, `getArray`)
  raise a `data_error` on a missing key or a value of the wrong type.
* `Exception` lists the C++ exception classes that the modelled functions raise,
  catch or let through, so that a `catch` clause of the source becomes a match
  on the constructor it names.
* `JsonText` is the text side of `JsonContainer`: the parser behind
  `JsonContainer(std::string)` and `toString()`. The only law the modelled code
  relies on is that the text `null` parses.

Numbers are kept as integers: no modelled function reads a fractional number.
-/

namespace PxpAgent

/-! ## §1. Exceptions -/

/-- The exceptions raised, caught or propagated by the modelled code, one
constructor per C++ class. -/
inductive Exception where
  /-- `leatherman::json_container::data_error`: a missing key or a wrong type. -/
  | dataError (msg : String)
  /-- `data_parse_error`, the subclass of `data_error` raised on invalid JSON text. -/
  | dataParseError (msg : String)
  /-- `PCPClient::schema_error`: a JSON schema that cannot be parsed. -/
  | schemaError (msg : String)
  /-- `PCPClient::validation_error`. -/
  | validationError (msg : String)
  /-- `PCPClient::schema_redefinition_error`: a schema name registered twice. -/
  | schemaRedefinitionError (name : String)
  /-- `Module::LoadingError`. -/
  | loadingError (msg : String)
  /-- `Module::ProcessingError`. -/
  | processingError (msg : String)
  /-- `PCPClient::connection_error`, raised by the connector's send. -/
  | connectionError (msg : String)
  /-- `boost::io::too_few_args (cur, expected)`, raised by a format's str(). -/
  | tooFewArgs (cur expected : Nat)
  /-- `boost::io::too_many_args (cur, expected)`, raised when feeding an argument. -/
  | tooManyArgs (cur expected : Nat)
  /-- `Cthun::Common::file_error`. -/
  | fileError (msg : String)
  /-- `std::logic_error`: libstdc++ raises it for a `std::string` built from a
  null pointer, which the standard leaves undefined. -/
  | logicError (msg : String)
  deriving DecidableEq, Repr

/-- The text of an exception, as its what() returns it. -/
def Exception.what : Exception → String
  | .dataError msg | .dataParseError msg | .schemaError msg | .validationError msg
  | .loadingError msg | .processingError msg | .connectionError msg | .fileError msg
  | .logicError msg => msg
  | .schemaRedefinitionError name => name
  | .tooFewArgs _ _ => "boost::too_few_args: format-string referred to more arguments than were passed"
  | .tooManyArgs _ _ => "boost::too_many_args: format-string referred to fewer arguments than were passed"

/-- Whether a `catch (data_error&)` clause catches the exception: `data_error`
and its subclass `data_parse_error`. -/
def Exception.isDataError : Exception → Bool
  | .dataError _ | .dataParseError _ => true
  | _ => false

/-- An `Except` computation that failed stays failed through a bind. -/
@[simp] theorem error_bind {ε α β : Type} (e : ε) (f : α → Except ε β) :
    (Except.error e >>= f) = Except.error e := rfl

@[simp] theorem ok_bind {ε α β : Type} (a : α) (f : α → Except ε β) :
    (Except.ok a >>= f) = f a := rfl

@[simp] theorem pure_eq_ok {ε α : Type} (a : α) : (pure a : Except ε α) = .ok a := rfl

@[simp] theorem throw_eq_error {ε α : Type} (e : ε) : (throw e : Except ε α) = .error e := rfl

@[simp] theorem map_ok {ε α β : Type} (f : α → β) (a : α) :
    (f <$> (Except.ok a : Except ε α)) = .ok (f a) := rfl

@[simp] theorem map_error {ε α β : Type} (f : α → β) (e : ε) :
    (f <$> (Except.error e : Except ε α)) = .error e := rfl

@[simp] theorem tryCatch_ok {ε α : Type} (a : α) (h : ε → Except ε α) :
    tryCatch (Except.ok a) h = .ok a := rfl

@[simp] theorem tryCatch_error {ε α : Type} (e : ε) (h : ε → Except ε α) :
    tryCatch (Except.error e) h = h e := rfl

theorem bind_eq_ok_iff {ε α β : Type} {x : Except ε α} {f : α → Except ε β} {b : β} :
    x >>= f = .ok b ↔ ∃ a, x = .ok a ∧ f a = .ok b := by
  cases x <;> simp

theorem bind_eq_error_iff {ε α β : Type} {x : Except ε α} {f : α → Except ε β} {e : ε} :
    x >>= f = .error e ↔ x = .error e ∨ ∃ a, x = .ok a ∧ f a = .error e := by
  cases x <;> simp

/-- A try block whose handler always raises returns exactly what its body
returns. -/
theorem tryCatch_eq_ok_iff {ε α : Type} {x : Except ε α} {h : ε → Except ε α} {a : α}
    (hh : ∀ e, ∃ e', h e = .error e') : tryCatch x h = .ok a ↔ x = .ok a := by
  cases x with
  | ok b => simp
  | error e => obtain ⟨e', he⟩ := hh e; simp [he]

theorem tryCatch_eq_error_iff {ε α : Type} {x : Except ε α} {h : ε → Except ε α} {e : ε} :
    tryCatch x h = .error e ↔ ∃ e₀, x = .error e₀ ∧ h e₀ = .error e := by
  cases x <;> simp

/-! ## §2. JSON documents -/

/-- A JSON value held by a `JsonContainer`. -/
inductive Json where
  | null
  | bool (b : Bool)
  | num (n : Int)
  | str (s : String)
  | arr (elems : List Json)
  | obj (fields : List (String × Json))
  deriving Repr, Inhabited

namespace Json

/-- The value of the first member named `key` of a member list. -/
def field? : List (String × Json) → String → Option Json
  | [], _ => none
  | (k, v) :: fields, key => if k = key then some v else field? fields key

/-- The value of the first member named `key`, if the document is an object. -/
def get? : Json → String → Option Json
  | .obj fields, key => field? fields key
  | _, _ => none

@[simp] theorem get?_obj_nil (key : String) : (Json.obj []).get? key = none := rfl

/-- `JsonContainer::includes(key)`. -/
def includes (j : Json) (key : String) : Bool := (j.get? key).isSome

/-- Set the member `key` of a member list: replaced where it is, appended
otherwise. -/
def setField : List (String × Json) → String → Json → List (String × Json)
  | [], key, v => [(key, v)]
  | (k, w) :: fields, key, v =>
    if k = key then (key, v) :: fields else (k, w) :: setField fields key v

/-- `JsonContainer::set<T>(key, value)`; a document that is not an object is
made an empty object first. -/
def set : Json → String → Json → Json
  | .obj fields, key, v => .obj (setField fields key v)
  | _, key, v => .obj [(key, v)]

/-- `JsonContainer::empty()`: an empty object or an empty array. -/
def isEmpty : Json → Bool
  | .obj [] | .arr [] => true
  | _ => false

/-- `get<std::string>(key)`. -/
def getString (j : Json) (key : String) : Except Exception String :=
  match j.get? key with
  | some (.str s) => .ok s
  | some _ => .error (.dataError "not a string")
  | none => .error (.dataError "invalid key")

/-- `get<JsonContainer>(key)`: any value, as a document of its own. -/
def getContainer (j : Json) (key : String) : Except Exception Json :=
  match j.get? key with
  | some v => .ok v
  | none => .error (.dataError "invalid key")

/-- `get<std::vector<JsonContainer>>(key)`. -/
def getArray (j : Json) (key : String) : Except Exception (List Json) :=
  match j.get? key with
  | some (.arr elems) => .ok elems
  | some _ => .error (.dataError "not an array")
  | none => .error (.dataError "invalid key")

@[simp] theorem getString_eq_ok {j : Json} {key s : String} :
    j.getString key = .ok s ↔ j.get? key = some (.str s) := by
  unfold getString; split <;> simp_all

@[simp] theorem getContainer_eq_ok {j v : Json} {key : String} :
    j.getContainer key = .ok v ↔ j.get? key = some v := by
  unfold getContainer; split <;> simp_all

@[simp] theorem getArray_eq_ok {j : Json} {key : String} {vs : List Json} :
    j.getArray key = .ok vs ↔ j.get? key = some (.arr vs) := by
  unfold getArray; split <;> simp_all

/-- The typed getters raise nothing but `data_error`. -/
theorem getString_error {j : Json} {key : String} {e : Exception}
    (h : j.getString key = .error e) : ∃ msg, e = .dataError msg := by
  unfold getString at h; split at h <;> cases h <;> exact ⟨_, rfl⟩

theorem getContainer_error {j : Json} {key : String} {e : Exception}
    (h : j.getContainer key = .error e) : ∃ msg, e = .dataError msg := by
  unfold getContainer at h; split at h <;> cases h; exact ⟨_, rfl⟩

theorem getArray_error {j : Json} {key : String} {e : Exception}
    (h : j.getArray key = .error e) : ∃ msg, e = .dataError msg := by
  unfold getArray at h; split at h <;> cases h <;> exact ⟨_, rfl⟩

theorem field?_setField_self (fields : List (String × Json)) (key : String) (v : Json) :
    field? (setField fields key v) key = some v := by
  induction fields with
  | nil => simp [setField, field?]
  | cons p fields ih =>
    obtain ⟨k, w⟩ := p
    by_cases h : k = key <;> simp [setField, field?, h, ih]

theorem field?_setField_ne (fields : List (String × Json)) {key key' : String} (v : Json)
    (h : key' ≠ key) : field? (setField fields key v) key' = field? fields key' := by
  induction fields with
  | nil => simp [setField, field?, Ne.symm h]
  | cons p fields ih =>
    obtain ⟨k, w⟩ := p
    by_cases hk : k = key
    · subst hk; simp [setField, field?, Ne.symm h]
    · simp [setField, field?, hk, ih]

@[simp] theorem get?_set_self (j : Json) (key : String) (v : Json) :
    (j.set key v).get? key = some v := by
  cases j <;> simp [set, get?, field?_setField_self, field?]

@[simp] theorem get?_set_ne (j : Json) {key key' : String} (v : Json) (h : key' ≠ key) :
    (j.set key v).get? key' = j.get? key' := by
  cases j <;> simp [set, get?, field?_setField_ne _ _ h, field?, Ne.symm h]

end Json

/-- The text side of `JsonContainer`: `JsonContainer(std::string)` gives the
document or the text of the `data_parse_error` it raises, and `toString()`
serialises a document. The modelled code relies on one law: the text `null` is
valid JSON (`processRequestOutcome` substitutes it for an empty stdout). -/
structure JsonText where
  parse : String → Except String Json
  render : Json → String
  parse_null : parse "null" = .ok .null

/-- A parser that reads `null`, and each text of a table as its document, and
rejects every other text: enough to run the model on given module outputs. Its
serialiser is Lean's `repr`. -/
def JsonText.ofTable (table : List (String × Json)) : JsonText where
  parse s := if s = "null" then .ok .null else
    match table.lookup s with
    | some j => .ok j
    | none => .error "invalid JSON"
  render j := reprStr j
  parse_null := by simp

end PxpAgent
