import PxpAgent.ExternalModule.Load
import PxpAgent.PuppetModule.Script

/-!
# PxpAgent.ExternalModule.Loaded — what loading leaves, and when it succeeds

`PxpAgent.ExternalModule.Load` follows the constructors step by step. This
module reads the registration loop as a store of schemas, filled in the order
of the metadata's `actions` array, and characterises the runs that load.

* `foldlM_registerAction_schemaOf`: after the loop each validator looks a name
  up to the schema the last entry of that name declares (`declaredSchema`),
  and to what it held before for a name the array does not declare.
* `foldlM_registerAction_registrable`, `foldlM_registerAction_of_registrable`:
  the loop succeeds exactly when every entry has a string name and two schemas
  that parse and, when the validators reject redefinitions, the names are
  distinct and new (`RegistrableActions`).
* `loaded_validators`: a loaded module validates an action's input and
  results against the schemas its metadata declares last for that action, and
  raises `validation_error` for a name the metadata does not declare.
* `construct_succeeds_iff`: either constructor succeeds exactly when the probe
  is `Loadable` (and, with a configuration, its configuration schema parses);
  the puppet module, which the agent loads (`Puppet.construct_moduleExecute`),
  is one.
-/

namespace PxpAgent

/-! ## §1. The schemas an actions array declares -/

/-- The schema that the entries of an actions array named `n` declare under
`key`: that of the last one, since registering a name again replaces what the
validator held. -/
def declaredSchema (key n : String) : List Json → Option Json
  | [] => none
  | a :: as => (declaredSchema key n as).or (if actionName? a = some n then a.get? key else none)

theorem actionNames_cons_of {a : Json} {n : String} (h : a.get? "name" = some (.str n))
    (as : List Json) : actionNames (a :: as) = n :: actionNames as := by
  simp [actionNames, List.filterMap_cons, actionName?_eq_some.2 h]

section Loaded

variable (L : Libraries) (logLevel : LogLevel) (execute : Execute)

/-- The loop of `registerActions` as a store: each validator looks `n` up to the
schema the array declares last for it, or to what it held before when the array
does not name `n`. -/
theorem foldlM_registerAction_schemaOf {actions : List Json} {m m' : ExternalModule}
    (h : actions.foldlM (registerAction L logLevel) m = .ok m') (n : String) :
    m'.inputValidator.schemaOf n =
        (declaredSchema "input" n actions).or (m.inputValidator.schemaOf n) ∧
      m'.resultsValidator.schemaOf n =
        (declaredSchema "results" n actions).or (m.resultsValidator.schemaOf n) := by
  induction actions generalizing m with
  | nil => cases h; simp [declaredSchema]
  | cons a as ih =>
    rw [List.foldlM_cons, bind_eq_ok_iff] at h
    obtain ⟨m₁, h₁, h⟩ := h
    obtain ⟨name, i, r, hname, hi, hr, -, -, hs⟩ := registerAction_ok L logLevel h₁
    rw [(ih h).1, (ih h).2, Validator.schemaOf_registerSchema hs.input,
      Validator.schemaOf_registerSchema hs.results]
    by_cases hn : n = name
    · subst hn; simp [declaredSchema, hname, hi, hr, Option.or_assoc]
    · simp [declaredSchema, hname, hn, Ne.symm hn]

/-! ## §2. When the registration loop succeeds -/

/-- An entry `registerAction` takes: a string name and an input and a results
schema that parse. -/
def Registrable (L : Libraries) (action : Json) : Prop :=
  ∃ n i r, action.get? "name" = some (.str n) ∧ action.get? "input" = some i ∧
    action.get? "results" = some r ∧ L.schemaParses i = true ∧ L.schemaParses r = true

/-- What the loop needs of an actions array, registered after the actions
`registered`: every entry registrable and, when the validators reject
redefinitions, names that are distinct and not registered yet. -/
structure RegistrableActions (L : Libraries) (registered : List String) (actions : List Json) :
    Prop where
  registrable : ∀ a ∈ actions, Registrable L a
  fresh : L.redefinition = .reject →
    (actionNames actions).Nodup ∧ ∀ n ∈ actionNames actions, n ∉ registered

/-- The freshness condition of `RegistrableActions`, one entry at a time: the
first name is new, and the others are distinct and new once it is registered. -/
theorem fresh_cons_iff {registered : List String} {a : Json} {as : List Json} {name : String}
    (hname : a.get? "name" = some (.str name)) :
    ((actionNames (a :: as)).Nodup ∧ ∀ n ∈ actionNames (a :: as), n ∉ registered) ↔
      name ∉ registered ∧ (actionNames as).Nodup ∧ ∀ n ∈ actionNames as, n ∉ registered ++ [name] := by
  simp only [actionNames_cons_of hname, List.nodup_cons, List.forall_mem_cons, List.mem_append,
    List.mem_singleton, not_or]
  constructor
  · rintro ⟨⟨hfirst, hnodup⟩, hnew, hrest⟩
    exact ⟨hnew, hnodup, fun n hn => ⟨hrest n hn, fun e => hfirst (e ▸ hn)⟩⟩
  · rintro ⟨hnew, hnodup, hrest⟩
    exact ⟨⟨fun hn => (hrest name hn).2 rfl, hnodup⟩, hnew, fun n hn => (hrest n hn).1⟩

/-- A loop that succeeds had a registrable array. -/
theorem foldlM_registerAction_registrable {actions : List Json} {m m' : ExternalModule}
    (hm : SchemasMatchActions m)
    (h : actions.foldlM (registerAction L logLevel) m = .ok m') :
    RegistrableActions L m.actions actions := by
  induction actions generalizing m with
  | nil => exact ⟨by simp, by simp [actionNames]⟩
  | cons a as ih =>
    rw [List.foldlM_cons, bind_eq_ok_iff] at h
    obtain ⟨m₁, h₁, h⟩ := h
    obtain ⟨name, i, r, hname, hi, hr, hpi, hpr, hs⟩ := registerAction_ok L logLevel h₁
    have rest := ih (hs.schemasMatch hm) h
    refine ⟨List.forall_mem_cons.2 ⟨⟨name, i, r, hname, hi, hr, hpi, hpr⟩, rest.registrable⟩,
      fun hp => (fresh_cons_iff hname).2 ⟨fun hmem => ?_, hs.actions ▸ rest.fresh hp⟩⟩
    have := (Validator.registerSchema_error_iff L.redefinition m.inputValidator ⟨name, i⟩).2
      ⟨hp, (hm name).1.2 hmem⟩
    simp [hs.input] at this

/-- A registrable array is registered. -/
theorem foldlM_registerAction_of_registrable {actions : List Json} {m : ExternalModule}
    (hm : SchemasMatchActions m) (h : RegistrableActions L m.actions actions) :
    ∃ m', actions.foldlM (registerAction L logLevel) m = .ok m' := by
  induction actions generalizing m with
  | nil => exact ⟨m, rfl⟩
  | cons a as ih =>
    obtain ⟨⟨name, i, r, hname, hi, hr, hpi, hpr⟩, hrest⟩ := List.forall_mem_cons.1 h.registrable
    have hnew := fun hp => (fresh_cons_iff hname).1 (h.fresh hp)
    obtain ⟨iv, hiv⟩ := Validator.registerSchema_isOk (v := m.inputValidator) (s := ⟨name, i⟩)
      fun hp => by simpa using mt (hm name).1.1 (hnew hp).1
    obtain ⟨rv, hrv⟩ := Validator.registerSchema_isOk (v := m.resultsValidator) (s := ⟨name, r⟩)
      fun hp => by simpa using mt (hm name).2.1 (hnew hp).1
    have h₁ := registerAction_eq_ok L logLevel hname hi hr hpi hpr hiv hrv
    obtain ⟨_, _, _, -, -, -, -, -, hs⟩ := registerAction_ok L logLevel h₁
    obtain ⟨m', hm'⟩ := ih (hs.schemasMatch hm) ⟨hrest, fun hp => (hnew hp).2⟩
    exact ⟨m', by rw [List.foldlM_cons, h₁]; exact hm'⟩

/-! ## §3. The constructors, both ways -/

/-- Metadata that follows the metadata schema has an actions array whose entries
each have a string name, an input and a results entry. -/
theorem getMetadataValidator_validate_ok {metadata : Json}
    (h : getMetadataValidator.validate metadata = .ok ()) :
    ∃ actions, metadata.get? metadataActionsEntry = some (.arr actions) ∧
      ∀ a ∈ actions, ∃ n i r, a.get? "name" = some (.str n) ∧ a.get? "input" = some i ∧
        a.get? "results" = some r := by
  unfold ConstraintSchema.validate at h
  split at h
  · rename_i hc
    simp only [getMetadataValidator, List.all_cons, List.all_nil, Bool.and_true,
      Bool.and_eq_true] at hc
    obtain ⟨⟨-, -, hact⟩, hsub⟩ := hc
    obtain ⟨v, hv, hadm⟩ := FieldConstraint.check_required hact
    cases v with
    | arr actions =>
      refine ⟨actions, hv, fun a ha => ?_⟩
      simp only [SubschemaConstraint.check, hv, List.all_eq_true] at hsub
      simp only [ObjectSchema.check, List.all_cons, List.all_nil, Bool.and_true,
        Bool.and_eq_true] at hsub
      obtain ⟨-, hn, hi, hr⟩ := hsub a ha
      obtain ⟨vn, hvn, hs⟩ := FieldConstraint.check_required hn
      obtain ⟨i, hi, -⟩ := FieldConstraint.check_required hi
      obtain ⟨r, hr, -⟩ := FieldConstraint.check_required hr
      cases vn <;> simp only [TypeConstraint.admits, reduceCtorEq] at hs
      exact ⟨_, i, r, hvn, hi, hr⟩
    | _ => simp [TypeConstraint.admits] at hadm
  · cases h

/-- The converse of `construct_run`: a probe that loads, a configuration schema
that parses and a loop that succeeds make `ExternalModule(path, config)`
succeed. -/
theorem construct_of_run {path : String} {config metadata : Json} {actions : List Json}
    {m : ExternalModule} (hmeta : getMetadata L logLevel execute path (stem path) = .ok metadata)
    (hactions : metadata.get? metadataActionsEntry = some (.arr actions))
    (hconfig : ∀ schema, metadata.get? metadataConfigurationEntry = some schema →
      L.schemaParses schema = true)
    (hrun : actions.foldlM (registerAction L logLevel)
      { ExternalModule.initial path config with
        configValidator := configurationValidator metadata (stem path) } = .ok m) :
    ExternalModule.construct L logLevel execute path config = .ok m := by
  have hget : metadata.getArray metadataActionsEntry = .ok actions := Json.getArray_eq_ok.2 hactions
  unfold ExternalModule.construct
  dsimp only
  rw [show (ExternalModule.initial path config).moduleName = stem path from rfl, hmeta, ok_bind]
  cases hc : metadata.get? metadataConfigurationEntry with
  | none =>
    rw [configurationValidator, hc] at hrun
    simp +decide only [Json.includes, hc, Option.isSome_none, Bool.false_eq_true, if_false,
      log_eq_ok, List.length_cons, List.length_nil, ok_bind, pure_eq_ok, registerActions, hget]
    exact (tryCatch_eq_ok_iff (fun e => ⟨_, catchInvalidMetadata_eq logLevel _ e⟩)).2 hrun
  | some cm =>
    rw [configurationValidator, hc] at hrun
    have hcm : metadata.getContainer metadataConfigurationEntry = .ok cm := Json.getContainer_eq_ok.2 hc
    have hreg := registerConfiguration_eq_ok L logLevel (m := ExternalModule.initial path config)
      (hconfig cm hc) (Validator.registerSchema_empty _ _)
    simp only [Json.includes, hc, Option.isSome_some, if_true, hcm, ok_bind, hreg, registerActions,
      hget]
    exact (tryCatch_eq_ok_iff (fun e => ⟨_, catchInvalidMetadata_eq logLevel _ e⟩)).2 hrun

/-- The converse of `constructDefault_run`. -/
theorem constructDefault_of_run {path : String} {metadata : Json} {actions : List Json}
    {m : ExternalModule} (hmeta : getMetadata L logLevel execute path (stem path) = .ok metadata)
    (hactions : metadata.get? metadataActionsEntry = some (.arr actions))
    (hrun : actions.foldlM (registerAction L logLevel) (ExternalModule.initial path (.obj [])) = .ok m) :
    ExternalModule.constructDefault L logLevel execute path = .ok m := by
  unfold ExternalModule.constructDefault registerActions
  dsimp only
  rw [show (ExternalModule.initial path (.obj [])).moduleName = stem path from rfl, hmeta, ok_bind,
    Json.getArray_eq_ok.2 hactions, ok_bind]
  exact (tryCatch_eq_ok_iff (fun e => ⟨_, catchInvalidMetadata_eq logLevel _ e⟩)).2 hrun

end Loaded

/-- What loading a module from the executable at `path` needs: the probe prints
nothing on stderr, and metadata that parses and follows the metadata schema,
whose actions array declares input and results schemas that parse and, when
the validators reject redefinitions, no action name twice. -/
structure Loadable (L : Libraries) (execute : Execute) (path : String) (metadata : Json)
    (actions : List Json) : Prop where
  noError : (execute (metadataCommand path)).error = ""
  parses : L.json.parse (execute (metadataCommand path)).output = .ok metadata
  valid : getMetadataValidator.validate metadata = .ok ()
  actionsEntry : metadata.get? metadataActionsEntry = some (.arr actions)
  inputParses : ∀ a ∈ actions, ∀ schema, a.get? "input" = some schema → L.schemaParses schema = true
  resultsParses : ∀ a ∈ actions, ∀ schema, a.get? "results" = some schema →
    L.schemaParses schema = true
  distinctNames : L.redefinition = .reject → (actionNames actions).Nodup

section Loaded

variable (L : Libraries) (logLevel : LogLevel) (execute : Execute)

theorem Loadable.getMetadata_eq {path : String} {metadata : Json} {actions : List Json}
    (h : Loadable L execute path metadata actions) (moduleName : String) :
    getMetadata L logLevel execute path moduleName = .ok metadata :=
  (getMetadata_eq_ok_iff L logLevel execute).2 ⟨h.noError, h.parses, h.valid⟩

/-- A loadable probe declares a registrable actions array. -/
theorem Loadable.registrableActions {path : String} {metadata : Json} {actions : List Json}
    (h : Loadable L execute path metadata actions) : RegistrableActions L [] actions := by
  obtain ⟨actions', hactions', hentries⟩ := getMetadataValidator_validate_ok h.valid
  obtain rfl : actions = actions' := by simpa [h.actionsEntry] using hactions'
  refine ⟨fun a ha => ?_, fun hp => ⟨h.distinctNames hp, fun _ _ => List.not_mem_nil _⟩⟩
  obtain ⟨n, i, r, hn, hi, hr⟩ := hentries a ha
  exact ⟨n, i, r, hn, hi, hr, h.inputParses a ha i hi, h.resultsParses a ha r hr⟩

/-- A probe that loads, with a registrable actions array, is loadable. -/
theorem loadable_of_getMetadata {path moduleName : String} {metadata : Json} {actions : List Json}
    (hmeta : getMetadata L logLevel execute path moduleName = .ok metadata)
    (hactions : metadata.get? metadataActionsEntry = some (.arr actions))
    (hreg : RegistrableActions L [] actions) : Loadable L execute path metadata actions := by
  obtain ⟨hnoError, hparses, hvalid⟩ := (getMetadata_eq_ok_iff L logLevel execute).1 hmeta
  refine ⟨hnoError, hparses, hvalid, hactions, fun a ha schema hs => ?_, fun a ha schema hs => ?_,
    fun hp => (hreg.fresh hp).1⟩
  · obtain ⟨_, i, _, -, hi, -, hpi, -⟩ := hreg.registrable a ha
    exact Option.some.inj (hs.symm.trans hi) ▸ hpi
  · obtain ⟨_, _, r, -, -, hr, -, hpr⟩ := hreg.registrable a ha
    exact Option.some.inj (hs.symm.trans hr) ▸ hpr

/-- When loading succeeds: `ExternalModule(path, config)` exactly when the probe
is loadable and the configuration schema it declares, if any, parses;
`ExternalModule(path)` exactly when the probe is loadable. -/
theorem construct_succeeds_iff (path : String) (config : Json) :
    ((∃ m, ExternalModule.construct L logLevel execute path config = .ok m) ↔
      ∃ metadata actions, Loadable L execute path metadata actions ∧
        ∀ schema, metadata.get? metadataConfigurationEntry = some schema →
          L.schemaParses schema = true) ∧
    ((∃ m, ExternalModule.constructDefault L logLevel execute path = .ok m) ↔
      ∃ metadata actions, Loadable L execute path metadata actions) := by
  refine ⟨⟨fun ⟨m, h⟩ => ?_, fun ⟨metadata, actions, hl, hconfig⟩ => ?_⟩,
    ⟨fun ⟨m, h⟩ => ?_, fun ⟨metadata, actions, hl⟩ => ?_⟩⟩
  · obtain ⟨metadata, actions, hmeta, hactions, hconfig, hrun⟩ := construct_run L logLevel execute h
    exact ⟨metadata, actions, loadable_of_getMetadata L logLevel execute hmeta hactions
      (foldlM_registerAction_registrable L logLevel (fun n => by simp [ExternalModule.initial]) hrun),
      hconfig⟩
  · obtain ⟨m, hrun⟩ := foldlM_registerAction_of_registrable L logLevel
      (m := { ExternalModule.initial path config with
        configValidator := configurationValidator metadata (stem path) })
      (fun n => by simp [ExternalModule.initial]) (hl.registrableActions L)
    exact ⟨m, construct_of_run L logLevel execute (hl.getMetadata_eq L logLevel execute _) hl.actionsEntry
      hconfig hrun⟩
  · obtain ⟨metadata, actions, hmeta, hactions, hrun⟩ := constructDefault_run L logLevel execute h
    exact ⟨metadata, actions, loadable_of_getMetadata L logLevel execute hmeta hactions
      (foldlM_registerAction_registrable L logLevel (schemasMatchActions_initial _ _) hrun)⟩
  · obtain ⟨m, hrun⟩ := foldlM_registerAction_of_registrable L logLevel
      (schemasMatchActions_initial path (.obj [])) (hl.registrableActions L)
    exact ⟨m, constructDefault_of_run L logLevel execute (hl.getMetadata_eq L logLevel execute _)
      hl.actionsEntry hrun⟩

/-- The agent loads the puppet module from the metadata its script prints, so
the script's probe is loadable. -/
theorem construct_succeeds_iff_puppetModule :
    ∃ metadata actions,
      Loadable (sampleLibraries [("meta\n", Puppet.metadataDocument)] .reject)
        (Puppet.moduleExecute Puppet.metaWriterEnv) "/opt/modules/pxp-module-puppet" metadata
        actions ∧
      ∀ schema, metadata.get? metadataConfigurationEntry = some schema →
        (sampleLibraries [("meta\n", Puppet.metadataDocument)] .reject).schemaParses schema = true :=
  (construct_succeeds_iff (sampleLibraries [("meta\n", Puppet.metadataDocument)] .reject) .info
    (Puppet.moduleExecute Puppet.metaWriterEnv) "/opt/modules/pxp-module-puppet" (.obj [])).1.1
    ⟨_, Puppet.construct_moduleExecute _ .info Puppet.metaWriterEnv _ _ rfl rfl rfl rfl⟩

/-! ## §4. The validators of a loaded module -/

/-- Either constructor's successful run ends with the registration loop over the
probe's actions array, from validators that hold nothing. -/
theorem constructed_run {path : String} {config : Json} {m : ExternalModule}
    (h : ExternalModule.construct L logLevel execute path config = .ok m ∨
      ExternalModule.constructDefault L logLevel execute path = .ok m) :
    ∃ metadata actions m₀, L.json.parse (execute (metadataCommand path)).output = .ok metadata ∧
      metadata.get? metadataActionsEntry = some (.arr actions) ∧
      m₀.inputValidator = ⟨[]⟩ ∧ m₀.resultsValidator = ⟨[]⟩ ∧
      actions.foldlM (registerAction L logLevel) m₀ = .ok m := by
  rcases h with h | h
  · obtain ⟨metadata, actions, hmeta, hactions, -, hrun⟩ := construct_run L logLevel execute h
    exact ⟨metadata, actions, _, getMetadata_ok L logLevel execute hmeta, hactions, rfl, rfl, hrun⟩
  · obtain ⟨metadata, actions, hmeta, hactions, hrun⟩ := constructDefault_run L logLevel execute h
    exact ⟨metadata, actions, _, getMetadata_ok L logLevel execute hmeta, hactions, rfl, rfl, hrun⟩

/-- A loaded module validates the input and the results of an action against the
schemas its metadata declares last for it, and raises `validation_error` for
an action the metadata does not declare. -/
theorem loaded_validators (path : String) (config metadata : Json) (m : ExternalModule)
    (hprobe : L.json.parse (execute (metadataCommand path)).output = .ok metadata)
    (h : ExternalModule.construct L logLevel execute path config = .ok m ∨
      ExternalModule.constructDefault L logLevel execute path = .ok m) (doc : Json) (n : String) :
    ∃ actions, metadata.get? metadataActionsEntry = some (.arr actions) ∧
      m.inputValidator.validate L doc n =
        Validator.checkSchema L (declaredSchema "input" n actions) n doc ∧
      m.resultsValidator.validate L doc n =
        Validator.checkSchema L (declaredSchema "results" n actions) n doc := by
  obtain ⟨metadata', actions, m₀, hparse, hactions, hin, hres, hrun⟩ :=
    constructed_run L logLevel execute h
  obtain rfl : metadata = metadata' := Except.ok.inj (hprobe.symm.trans hparse)
  obtain ⟨hi, hr⟩ := foldlM_registerAction_schemaOf L logLevel hrun n
  refine ⟨actions, hactions, ?_, ?_⟩
  · rw [Validator.validate_eq_checkSchema, hi, hin, Validator.schemaOf_empty, Option.or_none]
  · rw [Validator.validate_eq_checkSchema, hr, hres, Validator.schemaOf_empty, Option.or_none]

end Loaded

theorem loaded_validators_reverse :
    ∃ m, ExternalModule.construct reverseLibraries .info (printing "reverse-metadata")
        "/opt/modules/reverse" (.obj []) = .ok m ∧
      ∃ actions, reverseMetadata.get? metadataActionsEntry = some (.arr actions) ∧
        m.inputValidator.validate reverseLibraries (.obj []) "string" =
          Validator.checkSchema reverseLibraries (declaredSchema "input" "string" actions) "string"
            (.obj []) ∧
        m.resultsValidator.validate reverseLibraries (.obj []) "string" =
          Validator.checkSchema reverseLibraries (declaredSchema "results" "string" actions) "string"
            (.obj []) :=
  ⟨_, rfl, loaded_validators reverseLibraries .info (printing "reverse-metadata")
    "/opt/modules/reverse" (.obj []) reverseMetadata _ rfl (.inl rfl) (.obj []) "string"⟩

end PxpAgent
