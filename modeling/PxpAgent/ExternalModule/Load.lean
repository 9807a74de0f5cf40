import Mathlib.Data.List.Forall2
import PxpAgent.Format
import PxpAgent.Validator
import PxpAgent.Request

/-!
# PxpAgent.ExternalModule.Load — loading an external module

`ExternalModule::ExternalModule(path, config)` and `ExternalModule(path)`: probe
the executable with the argument `metadata`, parse and validate what it prints,
register the configuration schema (first constructor only), then register an
input and a results schema for every action, in the order of the metadata's
`actions` array.

* `registerAction_ok`: everything one registration step can do.
* `foldlM_registerAction_ok`: the loop of `registerActions`, by induction on
  the actions array: the names are appended in order, every name is registered
  in both validators, and nothing else changes.
* `construct_run`, `constructDefault_run`: how a successful constructor ran,
  from which `construct_ok` and `constructDefault_ok` say what it leaves.
* `construct_registers_every_action`: a loaded module's actions are the
  metadata's, each with its two schemas.
* `construct_validateConfiguration`: a loaded module validates its
  configuration against the schema its metadata declares, and only that one.
-/

namespace PxpAgent

/-! ## §1. The module and its metadata schema -/

def metadataSchemaName : String := "external_module_metadata"
def actionSchemaName : String := "action_metadata"
def metadataConfigurationEntry : String := "configuration"
def metadataActionsEntry : String := "actions"

/-- `getMetadataValidator()`: the metadata schema, with the action schema as the
sub-schema of the items of `actions`. -/
def getMetadataValidator : ConstraintSchema where
  name := metadataSchemaName
  constraints :=
    [⟨"description", .string, true⟩, ⟨metadataConfigurationEntry, .object, false⟩,
     ⟨metadataActionsEntry, .array, true⟩]
  subschemas :=
    [⟨metadataActionsEntry,
      ⟨actionSchemaName,
        [⟨"description", .string, false⟩, ⟨"name", .string, true⟩,
         ⟨"input", .object, true⟩, ⟨"results", .object, true⟩]⟩, false⟩]

/-- An external module: the executable, its configuration, and what the base
class `Module` holds (name, actions, the three validators). -/
structure ExternalModule where
  path : String
  config : Json
  moduleName : String
  actions : List String
  inputValidator : Validator
  resultsValidator : Validator
  configValidator : Validator

/-- The last component of a path. -/
def fileName (path : String) : List Char :=
  (path.toList.reverse.takeWhile (· ≠ '/')).reverse

/-- `boost::filesystem::path(path).stem()`: the file name without its last
extension. -/
def stem (path : String) : String :=
  let name := fileName path
  if name = ['.'] ∨ name = ['.', '.'] ∨ '.' ∉ name then ⟨name⟩
  else ⟨(name.reverse.dropWhile (· ≠ '.')).tail.reverse⟩

/-- The metadata probe: the executable with the single argument `metadata`. -/
def metadataCommand (path : String) : Command :=
  { file := path, args := ["metadata"], stdin := none, pidFile := none }

/-- The module as the constructor initialises it, before any registration. -/
def ExternalModule.initial (path : String) (config : Json) : ExternalModule :=
  { path, config, moduleName := stem path, actions := [],
    inputValidator := {}, resultsValidator := {}, configValidator := {} }

section Loading

variable (L : Libraries) (logLevel : LogLevel) (execute : Execute)

/-! ## §2. The loading steps -/

/-- `getMetadata()`: run the probe; fail on output on stderr, on invalid JSON,
and on metadata that does not follow the metadata schema. -/
def getMetadata (path moduleName : String) : Except Exception Json := do
  let exec := execute (metadataCommand path)
  if exec.error ≠ "" then
    log logLevel .error "Failed to load the external module metadata from %1%: %2%"
      [path, exec.error]
    throw (.loadingError "failed to load external module metadata")
  let metadata ← match L.json.parse exec.output with
    | .ok metadata => do
      log logLevel .debug "External module %1%: metadata is valid JSON" [moduleName]
      pure metadata
    | .error what =>
      throw (.loadingError ("metadata is not in a valid JSON format: " ++ what))
  match getMetadataValidator.validate metadata with
  | .ok () => do
    log logLevel .debug "External module %1%: metadata validation OK" [moduleName]
    pure metadata
  | .error e => throw (.loadingError ("metadata validation failure: " ++ e.what))

/-- `registerConfiguration(config_metadata)`. -/
def registerConfiguration (m : ExternalModule) (configMetadata : Json) :
    Except Exception ExternalModule := do
  try
    let configurationSchema ← Schema.ofJson L m.moduleName configMetadata
    log logLevel .debug "Registering module config schema for '%1%'" [m.moduleName]
    let configValidator ← m.configValidator.registerSchema L.redefinition configurationSchema
    pure { m with configValidator := configValidator }
  catch e =>
    match e with
    | .schemaError what => do
      log logLevel .error "Failed to parse the configuration schema of module '%1%': %2%"
        [m.moduleName, what]
      throw (.loadingError ("invalid configuration schema of module " ++ m.moduleName))
    | e => throw e

/-- `registerAction(action)`: the name is read outside the try block; the two
schemas are parsed, the name appended to the actions, and the schemas
registered. Only `schema_error` and `data_error` are turned into
`LoadingError`. -/
def registerAction (m : ExternalModule) (action : Json) : Except Exception ExternalModule := do
  let actionName ← action.getString "name"
  log logLevel .debug "Validating action '%1% %2%'" [m.moduleName, actionName]
  try
    let inputSchemaJson ← action.getContainer "input"
    let inputSchema ← Schema.ofJson L actionName inputSchemaJson
    let resultsSchemaJson ← action.getContainer "results"
    let resultsSchema ← Schema.ofJson L actionName resultsSchemaJson
    log logLevel .debug "Action '%1% %2%' has been validated" [m.moduleName, actionName]
    let m := { m with actions := m.actions ++ [actionName] }
    let inputValidator ← m.inputValidator.registerSchema L.redefinition inputSchema
    let resultsValidator ← m.resultsValidator.registerSchema L.redefinition resultsSchema
    pure { m with inputValidator := inputValidator, resultsValidator := resultsValidator }
  catch e =>
    match e with
    | .schemaError what => do
      log logLevel .error "Failed to parse metadata schemas of action '%1% %2%': %3%"
        [m.moduleName, actionName, what]
      throw (.loadingError ("invalid schemas of '" ++ m.moduleName ++ " " ++ actionName ++ "'"))
    | .dataError what | .dataParseError what => do
      log logLevel .error "Failed to retrieve metadata schemas of action '%1% %2%': %3%"
        [m.moduleName, actionName, what]
      throw (.loadingError ("invalid metadata of '" ++ m.moduleName ++ " " ++ actionName ++ "'"))
    | e => throw e

/-- `registerActions(metadata)`: register the entries of `actions` in order. -/
def registerActions (m : ExternalModule) (metadata : Json) : Except Exception ExternalModule := do
  let actions ← metadata.getArray metadataActionsEntry
  actions.foldlM (registerAction L logLevel) m

/-- The handler both constructors put around the registrations: a `data_error`
becomes `LoadingError`, anything else goes through. -/
def catchInvalidMetadata (moduleName : String) (e : Exception) :
    Except Exception ExternalModule :=
  if e.isDataError then do
    log logLevel .error "Failed to retrieve metadata of module %1%: %2%" [moduleName, e.what]
    throw (.loadingError ("invalid metadata of module " ++ moduleName))
  else throw e

/-- `ExternalModule(path, config)`. -/
def ExternalModule.construct (path : String) (config : Json) : Except Exception ExternalModule := do
  let m := ExternalModule.initial path config
  let metadata ← getMetadata L logLevel execute path m.moduleName
  try
    let m ← if metadata.includes metadataConfigurationEntry then do
        let configMetadata ← metadata.getContainer metadataConfigurationEntry
        registerConfiguration L logLevel m configMetadata
      else do
        log logLevel .debug "Found no configuration schema for module '%1%'" [m.moduleName]
        pure m
    registerActions L logLevel m metadata
  catch e => catchInvalidMetadata logLevel m.moduleName e

/-- `ExternalModule(path)`: the configuration is `{}` and no configuration
schema is looked for. -/
def ExternalModule.constructDefault (path : String) : Except Exception ExternalModule := do
  let m := ExternalModule.initial path (.obj [])
  let metadata ← getMetadata L logLevel execute path m.moduleName
  try
    registerActions L logLevel m metadata
  catch e => catchInvalidMetadata logLevel m.moduleName e

/-- `validateConfiguration()`: validate the configuration against the module's
configuration schema, when there is one. -/
def ExternalModule.validateConfiguration (m : ExternalModule) : Except Exception Unit :=
  if m.configValidator.includesSchema m.moduleName then
    m.configValidator.validate L m.config m.moduleName
  else
    log logLevel .debug
      "The '%1%' configuration will not be validated; no JSON schema is available" [m.moduleName]

/-! ## §3. One registration step -/

/-- What registering the action `name` with its two schemas does to a module: the
name is appended to the actions, each validator registers its schema under
`name`, and nothing else changes. -/
structure ActionStep (policy : Redefinition) (m m' : ExternalModule) (name : String)
    (inputSchema resultsSchema : Json) : Prop where
  actions : m'.actions = m.actions ++ [name]
  input : m.inputValidator.registerSchema policy ⟨name, inputSchema⟩ = .ok m'.inputValidator
  results : m.resultsValidator.registerSchema policy ⟨name, resultsSchema⟩ = .ok m'.resultsValidator
  moduleName : m'.moduleName = m.moduleName
  configValidator : m'.configValidator = m.configValidator
  config : m'.config = m.config

/-- Everything a successful `registerAction` can do: the entry has a string name
and two schemas that parse, and the step registers them under the name. -/
theorem registerAction_ok {m m' : ExternalModule} {action : Json}
    (h : registerAction L logLevel m action = .ok m') :
    ∃ name i r, action.get? "name" = some (.str name) ∧ action.get? "input" = some i ∧
      action.get? "results" = some r ∧ L.schemaParses i = true ∧ L.schemaParses r = true ∧
      ActionStep L.redefinition m m' name i r := by
  unfold registerAction at h
  simp +decide only [log_eq_ok, ok_bind, List.length_cons, List.length_nil, bind_eq_ok_iff] at h
  obtain ⟨name, hname, h⟩ := h
  rw [tryCatch_eq_ok_iff (by intro e; split <;> simp)] at h
  simp only [bind_eq_ok_iff, Schema.ofJson_eq_ok, Json.getContainer_eq_ok] at h
  obtain ⟨i, hi, _, ⟨hpi, rfl⟩, r, hr, _, ⟨hpr, rfl⟩, iv, hiv, rv, hrv, hm⟩ := h
  cases hm
  exact ⟨name, i, r, Json.getString_eq_ok.1 hname, hi, hr, hpi, hpr, rfl, hiv, hrv, rfl, rfl, rfl⟩

/-- The converse: an entry with a string name and two schemas that parse, which
both validators take, is registered. -/
theorem registerAction_eq_ok {m : ExternalModule} {action : Json} {name : String} {i r : Json}
    {iv rv : Validator} (hname : action.get? "name" = some (.str name))
    (hi : action.get? "input" = some i) (hr : action.get? "results" = some r)
    (hpi : L.schemaParses i = true) (hpr : L.schemaParses r = true)
    (hiv : m.inputValidator.registerSchema L.redefinition ⟨name, i⟩ = .ok iv)
    (hrv : m.resultsValidator.registerSchema L.redefinition ⟨name, r⟩ = .ok rv) :
    registerAction L logLevel m action =
      .ok { m with actions := m.actions ++ [name], inputValidator := iv, resultsValidator := rv } := by
  have hname' : action.getString "name" = .ok name := Json.getString_eq_ok.2 hname
  have hi' : action.getContainer "input" = .ok i := Json.getContainer_eq_ok.2 hi
  have hr' : action.getContainer "results" = .ok r := Json.getContainer_eq_ok.2 hr
  unfold registerAction
  simp +decide only [hname', hi', hr', Schema.ofJson, hpi, hpr, if_true, ok_bind, hiv, hrv,
    log_eq_ok, List.length_cons, List.length_nil, pure_eq_ok, tryCatch_ok]

/-- What `registerAction` can raise: a `data_error` from reading the name, a
`LoadingError`, or the validator's redefinition error for a name that one of
the two validators already holds. -/
theorem registerAction_error {m : ExternalModule} {action : Json} {e : Exception}
    (h : registerAction L logLevel m action = .error e) :
    (∃ msg, e = .dataError msg) ∨ (∃ msg, e = .loadingError msg) ∨
      ∃ name, action.get? "name" = some (.str name) ∧ e = .schemaRedefinitionError name ∧
        L.redefinition = .reject ∧
        (m.inputValidator.includesSchema name ∨ m.resultsValidator.includesSchema name) := by
  unfold registerAction at h
  simp +decide only [log_eq_ok, ok_bind, List.length_cons, List.length_nil, bind_eq_error_iff] at h
  rcases h with h | ⟨name, hname, h⟩
  · exact .inl (Json.getString_error h)
  obtain ⟨e₀, hbody, hcatch⟩ := tryCatch_eq_error_iff.1 h
  simp only [bind_eq_error_iff, Json.getContainer_eq_ok, Schema.ofJson_eq_ok] at hbody
  rcases hbody with h | ⟨i, -, h | ⟨_, ⟨-, rfl⟩, h | ⟨r, -, h | ⟨_, ⟨-, rfl⟩, h | ⟨iv, -, h | ⟨rv, -, h⟩⟩⟩⟩⟩⟩
  · obtain ⟨msg, rfl⟩ := Json.getContainer_error h
    simp at hcatch; exact .inr (.inl ⟨_, hcatch.symm⟩)
  · obtain ⟨msg, rfl⟩ := Schema.ofJson_error h
    simp at hcatch; exact .inr (.inl ⟨_, hcatch.symm⟩)
  · obtain ⟨msg, rfl⟩ := Json.getContainer_error h
    simp at hcatch; exact .inr (.inl ⟨_, hcatch.symm⟩)
  · obtain ⟨msg, rfl⟩ := Schema.ofJson_error h
    simp at hcatch; exact .inr (.inl ⟨_, hcatch.symm⟩)
  · obtain ⟨hp, hin, rfl⟩ := Validator.registerSchema_error h
    simp at hcatch
    exact .inr (.inr ⟨name, Json.getString_eq_ok.1 hname, hcatch.symm, hp, .inl hin⟩)
  · obtain ⟨hp, hin, rfl⟩ := Validator.registerSchema_error h
    simp at hcatch
    exact .inr (.inr ⟨name, Json.getString_eq_ok.1 hname, hcatch.symm, hp, .inr hin⟩)
  · cases h

/-! ## §4. The registration loop -/

/-- The name of an action entry, when it has a string `name`. -/
def actionName? (action : Json) : Option String :=
  match action.get? "name" with
  | some (.str n) => some n
  | _ => none

@[simp] theorem actionName?_eq_some {action : Json} {n : String} :
    actionName? action = some n ↔ action.get? "name" = some (.str n) := by
  unfold actionName?; split <;> simp_all

/-- The two schema validators hold exactly the names of the actions. -/
def SchemasMatchActions (m : ExternalModule) : Prop :=
  ∀ n, (m.inputValidator.includesSchema n ↔ n ∈ m.actions) ∧
    (m.resultsValidator.includesSchema n ↔ n ∈ m.actions)

theorem schemasMatchActions_initial (path : String) (config : Json) :
    SchemasMatchActions (ExternalModule.initial path config) := by
  intro n; simp [ExternalModule.initial]

theorem ActionStep.schemasMatch {policy : Redefinition} {m m' : ExternalModule} {name : String}
    {i r : Json} (hs : ActionStep policy m m' name i r) (hm : SchemasMatchActions m) :
    SchemasMatchActions m' := by
  intro n
  rw [Validator.includesSchema_registerSchema hs.input,
    Validator.includesSchema_registerSchema hs.results, hs.actions]
  simp [(hm n).1, (hm n).2]

/-- What registering a whole actions array does to a module. -/
structure RegistrationRun (m m' : ExternalModule) (actions : List Json) : Prop where
  names : ∃ names, List.Forall₂ (fun a n => actionName? a = some n) actions names ∧
    m'.actions = m.actions ++ names
  schemasMatch : SchemasMatchActions m → SchemasMatchActions m'
  moduleName : m'.moduleName = m.moduleName
  configValidator : m'.configValidator = m.configValidator
  config : m'.config = m.config

/-- The loop of `registerActions`, by induction on the array. -/
theorem foldlM_registerAction_ok {actions : List Json} {m m' : ExternalModule}
    (h : actions.foldlM (registerAction L logLevel) m = .ok m') : RegistrationRun m m' actions := by
  induction actions generalizing m with
  | nil =>
    cases h
    exact ⟨⟨[], .nil, by simp⟩, id, rfl, rfl, rfl⟩
  | cons a as ih =>
    rw [List.foldlM_cons, bind_eq_ok_iff] at h
    obtain ⟨m₁, h₁, h⟩ := h
    obtain ⟨name, _, _, hname, -, -, -, -, hs⟩ := registerAction_ok L logLevel h₁
    have run := ih h
    obtain ⟨names, hnames, hact⟩ := run.names
    exact ⟨⟨name :: names, .cons (actionName?_eq_some.2 hname) hnames, by simp [hact, hs.actions]⟩,
      fun hm => run.schemasMatch (hs.schemasMatch hm),
      run.moduleName.trans hs.moduleName, run.configValidator.trans hs.configValidator,
      run.config.trans hs.config⟩

/-- The names of an actions array, in order, skipping entries without a string
name. -/
def actionNames (actions : List Json) : List String := actions.filterMap actionName?

/-- What the loop of `registerActions` can raise. A redefinition error names an
action that occurs twice among the names registered so far and those of the
array. -/
theorem foldlM_registerAction_error {actions : List Json} {m : ExternalModule} {e : Exception}
    (hm : SchemasMatchActions m)
    (h : actions.foldlM (registerAction L logLevel) m = .error e) :
    (∃ msg, e = .dataError msg) ∨ (∃ msg, e = .loadingError msg) ∨
      ∃ n, e = .schemaRedefinitionError n ∧ L.redefinition = .reject ∧
        2 ≤ (m.actions ++ actionNames actions).count n := by
  induction actions generalizing m with
  | nil => cases h
  | cons a as ih =>
    rw [List.foldlM_cons, bind_eq_error_iff] at h
    rcases h with h | ⟨m₁, h₁, h⟩
    · rcases registerAction_error L logLevel h with hd | hl | ⟨n, hn, rfl, hp, hin⟩
      · exact .inl hd
      · exact .inr (.inl hl)
      · have hmem : 0 < m.actions.count n :=
          List.count_pos_iff.2 (hin.elim (hm n).1.1 (hm n).2.1)
        refine .inr (.inr ⟨n, rfl, hp, ?_⟩)
        simp only [actionNames, List.filterMap_cons, actionName?_eq_some.2 hn, List.count_append,
          List.count_cons_self]
        omega
    · obtain ⟨name, _, _, hname, -, -, -, -, hs⟩ := registerAction_ok L logLevel h₁
      rcases ih (hs.schemasMatch hm) h with hd | hl | ⟨n, rfl, hp, hc⟩
      · exact .inl hd
      · exact .inr (.inl hl)
      · refine .inr (.inr ⟨n, rfl, hp, ?_⟩)
        rw [hs.actions] at hc
        simpa [actionNames, List.filterMap_cons, actionName?_eq_some.2 hname] using hc

/-- The exceptions that may leave the registrations of a constructor: a
`data_error`, a `LoadingError`, or the redefinition error for a name the
metadata's actions array lists twice. -/
def RegistrationError (L : Libraries) (metadata : Json) (e : Exception) : Prop :=
  (∃ msg, e = .dataError msg) ∨ (∃ msg, e = .loadingError msg) ∨
    ∃ n actions, metadata.get? metadataActionsEntry = some (.arr actions) ∧
      e = .schemaRedefinitionError n ∧ L.redefinition = .reject ∧ 2 ≤ (actionNames actions).count n

theorem registerActions_error {m : ExternalModule} {metadata : Json} {e : Exception}
    (hnil : m.actions = []) (hm : SchemasMatchActions m)
    (h : registerActions L logLevel m metadata = .error e) : RegistrationError L metadata e := by
  unfold registerActions at h
  rcases bind_eq_error_iff.1 h with h | ⟨actions, hget, h⟩
  · exact .inl (Json.getArray_error h)
  rcases foldlM_registerAction_error L logLevel hm h with hd | hl | ⟨n, he, hp, hc⟩
  · exact .inl hd
  · exact .inr (.inl hl)
  · rw [hnil, List.nil_append] at hc
    exact .inr (.inr ⟨n, actions, Json.getArray_eq_ok.1 hget, he, hp, hc⟩)

/-! ## §5. The constructors -/

/-- The probe loads exactly when it prints nothing on stderr and metadata that
parses and follows the metadata schema. -/
theorem getMetadata_eq_ok_iff {path moduleName : String} {metadata : Json} :
    getMetadata L logLevel execute path moduleName = .ok metadata ↔
      (execute (metadataCommand path)).error = "" ∧
      L.json.parse (execute (metadataCommand path)).output = .ok metadata ∧
      getMetadataValidator.validate metadata = .ok () := by
  unfold getMetadata
  simp +decide only [log_eq_ok, ok_bind, pure_eq_ok, throw_eq_error, error_bind,
    List.length_cons, List.length_nil]
  split
  · simp_all
  · cases hp : L.json.parse (execute (metadataCommand path)).output with
    | error what => simp_all
    | ok doc =>
      constructor
      · intro h
        cases hv : getMetadataValidator.validate doc <;> simp_all
      · rintro ⟨-, ⟨⟩, hv⟩
        simp [hv]

theorem getMetadata_ok {path moduleName : String} {metadata : Json}
    (h : getMetadata L logLevel execute path moduleName = .ok metadata) :
    L.json.parse (execute (metadataCommand path)).output = .ok metadata :=
  ((getMetadata_eq_ok_iff L logLevel execute).1 h).2.1

theorem getMetadata_error {path moduleName : String} {e : Exception}
    (h : getMetadata L logLevel execute path moduleName = .error e) :
    ∃ msg, e = .loadingError msg := by
  unfold getMetadata at h
  simp +decide only [log_eq_ok, ok_bind, pure_eq_ok, throw_eq_error, error_bind,
    List.length_cons, List.length_nil] at h
  split at h
  · cases h; exact ⟨_, rfl⟩
  cases hp : L.json.parse (execute (metadataCommand path)).output <;> simp only [hp] at h
  · cases h; exact ⟨_, rfl⟩
  · split at h <;> cases h; exact ⟨_, rfl⟩

/-- The handler around the registrations: a `data_error` becomes
`LoadingError`, anything else is raised again. -/
theorem catchInvalidMetadata_eq (moduleName : String) (e : Exception) :
    catchInvalidMetadata logLevel moduleName e =
      .error (if e.isDataError then .loadingError ("invalid metadata of module " ++ moduleName) else e) := by
  unfold catchInvalidMetadata
  split <;> simp +decide [log_eq_ok]

theorem registerConfiguration_ok {m m' : ExternalModule} {configMetadata : Json}
    (h : registerConfiguration L logLevel m configMetadata = .ok m') :
    L.schemaParses configMetadata = true ∧
    m.configValidator.registerSchema L.redefinition ⟨m.moduleName, configMetadata⟩ =
      .ok m'.configValidator ∧ m' = { m with configValidator := m'.configValidator } := by
  unfold registerConfiguration at h
  rw [tryCatch_eq_ok_iff (by intro e; split <;> simp +decide [log_eq_ok])] at h
  simp +decide only [log_eq_ok, ok_bind, List.length_cons, List.length_nil, bind_eq_ok_iff,
    Schema.ofJson_eq_ok] at h
  obtain ⟨_, ⟨hparse, rfl⟩, v, hv, hm⟩ := h
  cases hm
  exact ⟨hparse, hv, rfl⟩

/-- The converse: a configuration schema that parses, which the validator takes,
is registered. -/
theorem registerConfiguration_eq_ok {m : ExternalModule} {configMetadata : Json} {v : Validator}
    (hparse : L.schemaParses configMetadata = true)
    (hv : m.configValidator.registerSchema L.redefinition ⟨m.moduleName, configMetadata⟩ = .ok v) :
    registerConfiguration L logLevel m configMetadata = .ok { m with configValidator := v } := by
  unfold registerConfiguration
  simp +decide only [Schema.ofJson, hparse, if_true, ok_bind, hv, log_eq_ok, List.length_cons,
    List.length_nil, pure_eq_ok, tryCatch_ok]

/-- A configuration schema registered in an empty validator raises nothing but
`LoadingError`. -/
theorem registerConfiguration_error {m : ExternalModule} {configMetadata : Json} {e : Exception}
    (hempty : m.configValidator.schemas = [])
    (h : registerConfiguration L logLevel m configMetadata = .error e) :
    ∃ msg, e = .loadingError msg := by
  unfold registerConfiguration at h
  obtain ⟨e₀, hbody, hcatch⟩ := tryCatch_eq_error_iff.1 h
  simp +decide only [log_eq_ok, ok_bind, List.length_cons, List.length_nil, bind_eq_error_iff,
    Schema.ofJson_eq_ok] at hbody
  rcases hbody with h | ⟨_, ⟨-, rfl⟩, h | ⟨_, -, h⟩⟩
  · obtain ⟨msg, rfl⟩ := Schema.ofJson_error h
    simp +decide [log_eq_ok] at hcatch; exact ⟨_, hcatch.symm⟩
  · obtain ⟨-, hin, -⟩ := Validator.registerSchema_error h
    simp [Validator.includesSchema, hempty] at hin
  · cases h

/-- What a loaded module owes its metadata: its actions are the names of the
metadata's `actions` entries, in order, and the two validators hold exactly
those names. -/
def LoadedFrom (metadata : Json) (m : ExternalModule) : Prop :=
  (∃ actions, metadata.get? metadataActionsEntry = some (.arr actions) ∧
    List.Forall₂ (fun a n => actionName? a = some n) actions m.actions) ∧
  SchemasMatchActions m

/-- A registration run from a module with no actions whose validators match
them loads the module from the metadata. -/
theorem loadedFrom_of_run {metadata : Json} {actions : List Json} {m₁ m : ExternalModule}
    (hactions : metadata.get? metadataActionsEntry = some (.arr actions))
    (hnil : m₁.actions = []) (hm₁ : SchemasMatchActions m₁)
    (run : RegistrationRun m₁ m actions) : LoadedFrom metadata m := by
  obtain ⟨names, hnames, hact⟩ := run.names
  rw [hnil, List.nil_append] at hact
  exact ⟨⟨actions, hactions, hact ▸ hnames⟩, run.schemasMatch hm₁⟩

/-- The configuration validator of a module loaded under the name `name` from
`metadata`: the `configuration` entry as its only schema, or no schema. -/
def configurationValidator (metadata : Json) (name : String) : Validator :=
  match metadata.get? metadataConfigurationEntry with
  | some schema => ⟨[⟨name, schema⟩]⟩
  | none => {}

theorem includesSchema_configurationValidator (metadata : Json) (name : String) :
    (configurationValidator metadata name).includesSchema name =
      metadata.includes metadataConfigurationEntry := by
  unfold configurationValidator Json.includes
  split <;> simp_all [Validator.includesSchema]

/-- How a successful `ExternalModule(path, config)` ran: the probe loaded the
metadata, its configuration schema (if any) parsed and was registered, and the
registration loop ran over the metadata's actions from the module so
initialised. -/
theorem construct_run {path : String} {config : Json} {m : ExternalModule}
    (h : ExternalModule.construct L logLevel execute path config = .ok m) :
    ∃ metadata actions, getMetadata L logLevel execute path (stem path) = .ok metadata ∧
      metadata.get? metadataActionsEntry = some (.arr actions) ∧
      (∀ schema, metadata.get? metadataConfigurationEntry = some schema →
        L.schemaParses schema = true) ∧
      actions.foldlM (registerAction L logLevel)
        { ExternalModule.initial path config with
          configValidator := configurationValidator metadata (stem path) } = .ok m := by
  unfold ExternalModule.construct at h
  obtain ⟨metadata, hmeta, h⟩ := bind_eq_ok_iff.1 h
  rw [tryCatch_eq_ok_iff (fun e => ⟨_, catchInvalidMetadata_eq logLevel _ e⟩)] at h
  dsimp only at h
  split at h
  · obtain ⟨cm, hcm, h⟩ := bind_eq_ok_iff.1 h
    obtain ⟨m₁, h₁, h⟩ := bind_eq_ok_iff.1 h
    obtain ⟨hparse, hv, hm₁⟩ := registerConfiguration_ok L logLevel h₁
    unfold registerActions at h
    obtain ⟨actions, hget, hrun⟩ := bind_eq_ok_iff.1 h
    have hcm' := Json.getContainer_eq_ok.1 hcm
    have hvalidator : m₁.configValidator = configurationValidator metadata (stem path) := by
      rw [configurationValidator, hcm']
      simpa [ExternalModule.initial] using hv.symm
    refine ⟨metadata, actions, hmeta, Json.getArray_eq_ok.1 hget, fun schema hs => ?_, ?_⟩
    · rw [hcm', Option.some.injEq] at hs
      exact hs ▸ hparse
    · rwa [← hvalidator, ← hm₁]
  · rename_i hconf
    simp +decide only [log_eq_ok, ok_bind, pure_eq_ok, List.length_cons, List.length_nil] at h
    unfold registerActions at h
    obtain ⟨actions, hget, hrun⟩ := bind_eq_ok_iff.1 h
    have hnone : metadata.get? metadataConfigurationEntry = none := by
      simpa [Json.includes] using hconf
    refine ⟨metadata, actions, hmeta, Json.getArray_eq_ok.1 hget, by simp [hnone], ?_⟩
    rw [configurationValidator, hnone]
    exact hrun

/-- How a successful `ExternalModule(path)` ran: the probe loaded the metadata
and the registration loop ran over its actions from the initial module. -/
theorem constructDefault_run {path : String} {m : ExternalModule}
    (h : ExternalModule.constructDefault L logLevel execute path = .ok m) :
    ∃ metadata actions, getMetadata L logLevel execute path (stem path) = .ok metadata ∧
      metadata.get? metadataActionsEntry = some (.arr actions) ∧
      actions.foldlM (registerAction L logLevel) (ExternalModule.initial path (.obj [])) = .ok m := by
  unfold ExternalModule.constructDefault at h
  obtain ⟨metadata, hmeta, h⟩ := bind_eq_ok_iff.1 h
  rw [tryCatch_eq_ok_iff (fun e => ⟨_, catchInvalidMetadata_eq logLevel _ e⟩)] at h
  unfold registerActions at h
  obtain ⟨actions, hget, hrun⟩ := bind_eq_ok_iff.1 h
  exact ⟨metadata, actions, hmeta, Json.getArray_eq_ok.1 hget, hrun⟩

/-- What a successful `ExternalModule(path, config)` leaves: a module loaded
from the probe's metadata, with the given configuration, named after the
executable's stem, and holding the metadata's configuration schema, if any. -/
theorem construct_ok {path : String} {config : Json} {m : ExternalModule}
    (h : ExternalModule.construct L logLevel execute path config = .ok m) :
    ∃ metadata, L.json.parse (execute (metadataCommand path)).output = .ok metadata ∧
      LoadedFrom metadata m ∧ m.config = config ∧ m.moduleName = stem path ∧
      m.configValidator = configurationValidator metadata (stem path) := by
  obtain ⟨metadata, actions, hmeta, hactions, -, hrun⟩ := construct_run L logLevel execute h
  have run := foldlM_registerAction_ok L logLevel hrun
  exact ⟨metadata, getMetadata_ok L logLevel execute hmeta,
    loadedFrom_of_run hactions rfl (fun n => by simp [ExternalModule.initial]) run,
    run.config, run.moduleName, run.configValidator⟩

/-- What a successful `ExternalModule(path)` leaves: a module loaded from the
probe's metadata, with no configuration schema. -/
theorem constructDefault_ok {path : String} {m : ExternalModule}
    (h : ExternalModule.constructDefault L logLevel execute path = .ok m) :
    ∃ metadata, L.json.parse (execute (metadataCommand path)).output = .ok metadata ∧
      LoadedFrom metadata m ∧ m.configValidator.schemas = [] := by
  obtain ⟨metadata, actions, hmeta, hactions, hrun⟩ := constructDefault_run L logLevel execute h
  have run := foldlM_registerAction_ok L logLevel hrun
  exact ⟨metadata, getMetadata_ok L logLevel execute hmeta,
    loadedFrom_of_run hactions rfl (schemasMatchActions_initial _ _) run,
    by rw [run.configValidator]; rfl⟩

/-- The exceptions a constructor can raise: `LoadingError`, or, when the
validator rejects redefinitions, the redefinition error for an action name that
the probe's metadata lists twice. -/
def ConstructError (L : Libraries) (execute : Execute) (path : String) (e : Exception) : Prop :=
  (∃ msg, e = .loadingError msg) ∨
    ∃ n metadata actions, L.json.parse (execute (metadataCommand path)).output = .ok metadata ∧
      metadata.get? metadataActionsEntry = some (.arr actions) ∧
      e = .schemaRedefinitionError n ∧ L.redefinition = .reject ∧ 2 ≤ (actionNames actions).count n

/-- The handler of both constructors turns what the registrations raise into a
`ConstructError`. -/
theorem constructError_of_registration {path : String} {metadata : Json} {e₀ e : Exception}
    (hmeta : L.json.parse (execute (metadataCommand path)).output = .ok metadata)
    (he₀ : RegistrationError L metadata e₀)
    (h : catchInvalidMetadata logLevel (stem path) e₀ = .error e) : ConstructError L execute path e := by
  rw [catchInvalidMetadata_eq] at h
  cases h
  rcases he₀ with ⟨msg, rfl⟩ | ⟨msg, rfl⟩ | ⟨n, actions, hget, rfl, hp, hc⟩
  · exact .inl ⟨_, rfl⟩
  · exact .inl ⟨_, rfl⟩
  · exact .inr ⟨n, metadata, actions, hmeta, hget, rfl, hp, hc⟩

theorem construct_error {path : String} {config : Json} {e : Exception}
    (h : ExternalModule.construct L logLevel execute path config = .error e) :
    ConstructError L execute path e := by
  unfold ExternalModule.construct at h
  rcases bind_eq_error_iff.1 h with h | ⟨metadata, hmeta, h⟩
  · exact .inl (getMetadata_error L logLevel execute h)
  have hparse := getMetadata_ok L logLevel execute hmeta
  obtain ⟨e₀, hbody, hcatch⟩ := tryCatch_eq_error_iff.1 h
  refine constructError_of_registration L logLevel execute hparse ?_ hcatch
  dsimp only at hbody
  split at hbody
  · rcases bind_eq_error_iff.1 hbody with h | ⟨cm, -, h⟩
    · exact .inl (Json.getContainer_error h)
    rcases bind_eq_error_iff.1 h with h | ⟨m₁, h₁, h⟩
    · exact .inr (.inl (registerConfiguration_error L logLevel rfl h))
    obtain ⟨-, -, hm₁⟩ := registerConfiguration_ok L logLevel h₁
    rw [hm₁] at h
    exact registerActions_error L logLevel rfl (fun n => by simp [ExternalModule.initial]) h
  · simp +decide only [log_eq_ok, ok_bind, pure_eq_ok, List.length_cons, List.length_nil] at hbody
    exact registerActions_error L logLevel rfl (schemasMatchActions_initial _ _) hbody

theorem constructDefault_error {path : String} {e : Exception}
    (h : ExternalModule.constructDefault L logLevel execute path = .error e) :
    ConstructError L execute path e := by
  unfold ExternalModule.constructDefault at h
  rcases bind_eq_error_iff.1 h with h | ⟨metadata, hmeta, h⟩
  · exact .inl (getMetadata_error L logLevel execute h)
  obtain ⟨e₀, hbody, hcatch⟩ := tryCatch_eq_error_iff.1 h
  exact constructError_of_registration L logLevel execute (getMetadata_ok L logLevel execute hmeta)
    (registerActions_error L logLevel rfl (schemasMatchActions_initial _ _) hbody) hcatch

/-! ## §6. Loaded modules -/

/-- The actions of a module are the `name` fields of the metadata's actions
array, in order, and each has an input and a results schema. -/
def ActionsRegistered (metadata : Json) (m : ExternalModule) : Prop :=
  (∃ actions, metadata.get? metadataActionsEntry = some (.arr actions) ∧
    List.Forall₂ (fun a n => a.get? "name" = some (.str n)) actions m.actions) ∧
  ∀ a ∈ m.actions, m.inputValidator.includesSchema a = true ∧
    m.resultsValidator.includesSchema a = true

theorem LoadedFrom.actionsRegistered {metadata : Json} {m : ExternalModule}
    (h : LoadedFrom metadata m) : ActionsRegistered metadata m := by
  obtain ⟨⟨actions, hget, hnames⟩, hm⟩ := h
  exact ⟨⟨actions, hget, hnames.imp fun _ _ => actionName?_eq_some.1⟩,
    fun a ha => ⟨(hm a).1.2 ha, (hm a).2.2 ha⟩⟩

/-- Loading a module from any probe output: its actions are the names of the
metadata's actions, in order, each with an input and a results schema; with a
configuration, the configuration schema is registered exactly when the
metadata has a `configuration` entry. -/
theorem construct_registers_every_action (path : String) (config metadata : Json)
    (m : ExternalModule)
    (hprobe : L.json.parse (execute (metadataCommand path)).output = .ok metadata) :
    (ExternalModule.construct L logLevel execute path config = .ok m →
      ActionsRegistered metadata m ∧
        (m.configValidator.includesSchema m.moduleName = true ↔
          metadata.includes metadataConfigurationEntry = true)) ∧
    (ExternalModule.constructDefault L logLevel execute path = .ok m →
      ActionsRegistered metadata m) := by
  refine ⟨fun h => ?_, fun h => ?_⟩
  · obtain ⟨metadata', hparse, hload, -, hname, hvalidator⟩ := construct_ok L logLevel execute h
    obtain rfl : metadata' = metadata := Except.ok.inj (hparse.symm.trans hprobe)
    exact ⟨hload.actionsRegistered,
      by rw [hvalidator, hname, includesSchema_configurationValidator]⟩
  · obtain ⟨metadata', hparse, hload, -⟩ := constructDefault_ok L logLevel execute h
    obtain rfl : metadata' = metadata := Except.ok.inj (hparse.symm.trans hprobe)
    exact hload.actionsRegistered

/-- A module loaded with a configuration validates it against the configuration
schema its metadata declares: `validateConfiguration` raises `validation_error`
exactly when the configuration does not conform to it, and accepts any
configuration when the metadata declares none. -/
theorem construct_validateConfiguration (path : String) (config metadata : Json)
    (m : ExternalModule)
    (hprobe : L.json.parse (execute (metadataCommand path)).output = .ok metadata)
    (h : ExternalModule.construct L logLevel execute path config = .ok m) :
    m.validateConfiguration L logLevel =
      match metadata.get? metadataConfigurationEntry with
      | some schema =>
        if L.conforms schema config then .ok () else .error (.validationError (stem path))
      | none => .ok () := by
  obtain ⟨metadata', hparse, -, hconfig, hname, hvalidator⟩ := construct_ok L logLevel execute h
  obtain rfl : metadata = metadata' := Except.ok.inj (hprobe.symm.trans hparse)
  unfold ExternalModule.validateConfiguration
  rw [hconfig, hname, hvalidator]
  cases hget : metadata.get? metadataConfigurationEntry <;>
    simp +decide [configurationValidator, hget, Validator.includesSchema, Validator.validate,
      log_eq_ok]

/-- Constructing a module, with or without a configuration, raises nothing but
`LoadingError`, except the validator's redefinition error for an action name
the probe's metadata lists twice, when the validator rejects redefinitions. -/
theorem construct_raises_loading_error_or_redefinition (path : String) (config : Json)
    (e : Exception) :
    (ExternalModule.construct L logLevel execute path config = .error e →
      ConstructError L execute path e) ∧
    (ExternalModule.constructDefault L logLevel execute path = .error e →
      ConstructError L execute path e) :=
  ⟨construct_error L logLevel execute, constructDefault_error L logLevel execute⟩

end Loading

/-- An action entry with empty input and results schemas. -/
def sampleAction (name : String) : Json :=
  .obj [("name", .str name), ("input", .obj []), ("results", .obj [])]

/-- Libraries that parse the listed probe outputs, take every object for a JSON
schema, and apply the given redefinition policy. -/
def sampleLibraries (table : List (String × Json)) (policy : Redefinition) : Libraries where
  json := JsonText.ofTable table
  schemaParses j := match j with
    | .obj _ => true
    | _ => false
  conforms _ _ := true
  redefinition := policy

/-- A child that prints the given text on stdout and nothing on stderr. -/
def printing (text : String) : Execute := fun _ => ⟨0, text, "", fun _ => .absent⟩

/-- The metadata of a module with the single action `string`. -/
def reverseMetadata : Json :=
  .obj [("description", .str "reverse"), ("actions", .arr [sampleAction "string"])]

def reverseLibraries : Libraries := sampleLibraries [("reverse-metadata", reverseMetadata)] .reject

theorem construct_registers_every_action_reverse :
    ∃ m, ExternalModule.construct reverseLibraries .info (printing "reverse-metadata")
        "/opt/modules/reverse" (.obj []) = .ok m ∧ ActionsRegistered reverseMetadata m :=
  ⟨_, rfl, ((construct_registers_every_action reverseLibraries .info (printing "reverse-metadata")
    "/opt/modules/reverse" (.obj []) reverseMetadata _ rfl).1 rfl).1⟩

theorem construct_validateConfiguration_reverse :
    ∃ m, ExternalModule.construct reverseLibraries .info (printing "reverse-metadata")
        "/opt/modules/reverse" (.obj []) = .ok m ∧
      m.validateConfiguration reverseLibraries .info = .ok () :=
  ⟨_, rfl, construct_validateConfiguration reverseLibraries .info (printing "reverse-metadata")
    "/opt/modules/reverse" (.obj []) reverseMetadata _ rfl rfl⟩

/-- The metadata of a module that lists the action `a` twice. -/
def duplicateMetadata : Json :=
  .obj [("description", .str "x"), ("actions", .arr [sampleAction "a", sampleAction "a"])]

/-- What that module prints when probed. -/
def duplicateProbe : String :=
  "\x7b\"description\":\"x\",\"actions\":[\x7b\"name\":\"a\",\"input\":\x7b\x7d,\"results\":\x7b\x7d\x7d," ++
    "\x7b\"name\":\"a\",\"input\":\x7b\x7d,\"results\":\x7b\x7d\x7d]\x7d"

/-- Loading the module that lists `a` twice: a validator that rejects
redefinitions lets its `schema_redefinition_error` out of the constructor, and
one that overwrites loads the module with the action listed twice. -/
theorem construct_duplicate_action :
    ExternalModule.construct (sampleLibraries [(duplicateProbe, duplicateMetadata)] .reject) .info
        (printing duplicateProbe) "/opt/pxp-agent/modules/dup" (.obj []) =
      .error (.schemaRedefinitionError "a") ∧
    ∃ m, ExternalModule.construct (sampleLibraries [(duplicateProbe, duplicateMetadata)] .overwrite)
        .info (printing duplicateProbe) "/opt/pxp-agent/modules/dup" (.obj []) = .ok m ∧
      m.actions = ["a", "a"] :=
  ⟨rfl, _, rfl, rfl⟩

end PxpAgent
