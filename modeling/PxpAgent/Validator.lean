import PxpAgent.Basic

/-!
# PxpAgent.Validator — schemas and validators of cpp-pcp-client

The module code registers schemas by name in `PCPClient::Validator`s and
validates documents against them. Two kinds of schema occur:

* a constraint schema, built field by field with `addConstraint`; the agent's
  metadata schema (`getMetadataValidator`) is one, with the action schema as the
  sub-schema of the items of its `actions` array;
* a JSON schema read from a document (`Schema(name, json)`), which raises
  `schema_error` when valijson cannot parse it.

What valijson accepts as a JSON schema and which documents conform to one is
library behaviour, and so is what `registerSchema` does with a name that is
already registered: these are the fields of `Libraries`. The cpp-pcp-client of
the agent's time rejects a redefinition with `schema_redefinition_error`;
`Redefinition.overwrite` is the other policy a validator could have.

* `includesSchema_registerSchema`: after a successful registration the name is
  registered, and names registered before stay registered
  (`includesSchema_registerSchema_of`).
* `registerSchema_error_iff`: registration fails exactly when the policy is
  `reject` and the name is already registered.
* `schemaOf_registerSchema`: after a registration the name is validated against
  the new schema and every other name as before (`validate_eq_checkSchema`).
-/

namespace PxpAgent

/-! ## §1. Constraint schemas -/

/-- `PCPClient::TypeConstraint`. -/
inductive TypeConstraint where
  | object | array | string | int | double | bool | any
  deriving DecidableEq, Repr

/-- Whether a value has the type a constraint names. -/
def TypeConstraint.admits : TypeConstraint → Json → Bool
  | .object, .obj _ | .array, .arr _ | .string, .str _ | .int, .num _
  | .double, .num _ | .bool, .bool _ | .any, _ => true
  | _, _ => false

/-- `addConstraint(field, type, required)`. -/
structure FieldConstraint where
  field : String
  type : TypeConstraint
  required : Bool

/-- A field satisfies its constraint: present with the named type, or absent
and not required. -/
def FieldConstraint.check (doc : Json) (c : FieldConstraint) : Bool :=
  match doc.get? c.field with
  | some v => c.type.admits v
  | none => !c.required

/-- A required field that satisfies its constraint is present with the named
type. -/
theorem FieldConstraint.check_required {doc : Json} {field : String} {type : TypeConstraint}
    (h : FieldConstraint.check doc ⟨field, type, true⟩ = true) :
    ∃ v, doc.get? field = some v ∧ type.admits v = true := by
  unfold FieldConstraint.check at h
  split at h
  · exact ⟨_, ‹_›, h⟩
  · cases h

/-- A constraint schema whose constraints are all type constraints. -/
structure ObjectSchema where
  name : String
  constraints : List FieldConstraint

/-- `addConstraint(field, schema, required)` on an array field: every item
follows the sub-schema. -/
structure SubschemaConstraint where
  field : String
  schema : ObjectSchema
  required : Bool

/-- A constraint schema with type constraints and array sub-schemas. -/
structure ConstraintSchema where
  name : String
  constraints : List FieldConstraint
  subschemas : List SubschemaConstraint

def ObjectSchema.check (s : ObjectSchema) (doc : Json) : Bool :=
  s.constraints.all (FieldConstraint.check doc)

def SubschemaConstraint.check (doc : Json) (c : SubschemaConstraint) : Bool :=
  match doc.get? c.field with
  | some (.arr items) => items.all c.schema.check
  | some _ => false
  | none => !c.required

/-- `Validator::validate(doc, name)` for a constraint schema. -/
def ConstraintSchema.validate (s : ConstraintSchema) (doc : Json) : Except Exception Unit :=
  if s.constraints.all (FieldConstraint.check doc) && s.subschemas.all (SubschemaConstraint.check doc)
  then .ok () else .error (.validationError s.name)

/-! ## §2. JSON schemas and validators -/

/-- What `registerSchema` does with a name that is already registered. -/
inductive Redefinition where
  /-- Raise `schema_redefinition_error` (cpp-pcp-client). -/
  | reject
  /-- Replace the registered schema. -/
  | overwrite
  deriving DecidableEq, Repr

/-- The library behaviour the model takes as given: JSON text handling, whether
valijson parses a document as a JSON schema, whether a document conforms to a
JSON schema, and the redefinition policy of validators. -/
structure Libraries where
  json : JsonText
  schemaParses : Json → Bool
  conforms : Json → Json → Bool
  redefinition : Redefinition

/-- A JSON schema registered under a name. -/
structure Schema where
  name : String
  body : Json

/-- `PCPClient::Schema(name, json)`: raises `schema_error` when the document is
not a JSON schema. -/
def Schema.ofJson (L : Libraries) (name : String) (json : Json) : Except Exception Schema :=
  if L.schemaParses json then .ok ⟨name, json⟩ else .error (.schemaError "invalid JSON schema")

@[simp] theorem Schema.ofJson_eq_ok {L : Libraries} {name : String} {json : Json} {s : Schema} :
    Schema.ofJson L name json = .ok s ↔ L.schemaParses json = true ∧ s = ⟨name, json⟩ := by
  unfold Schema.ofJson
  split
  · simp_all only [Except.ok.injEq, true_and]; exact eq_comm
  · simp_all

theorem Schema.ofJson_error {L : Libraries} {name : String} {json : Json} {e : Exception}
    (h : Schema.ofJson L name json = .error e) : ∃ msg, e = .schemaError msg := by
  unfold Schema.ofJson at h; split at h <;> cases h; exact ⟨_, rfl⟩

/-- A `PCPClient::Validator`: its schemas, in registration order. -/
structure Validator where
  schemas : List Schema := []

namespace Validator

/-- `Validator::includesSchema(name)`. -/
def includesSchema (v : Validator) (name : String) : Bool :=
  v.schemas.any (·.name == name)

/-- `Validator::registerSchema(schema)`. -/
def registerSchema (policy : Redefinition) (v : Validator) (s : Schema) :
    Except Exception Validator :=
  if v.includesSchema s.name then
    match policy with
    | .reject => .error (.schemaRedefinitionError s.name)
    | .overwrite => .ok ⟨v.schemas.map fun t => if t.name = s.name then s else t⟩
  else .ok ⟨v.schemas ++ [s]⟩

/-- `Validator::validate(doc, name)` for a JSON schema. -/
def validate (L : Libraries) (v : Validator) (doc : Json) (name : String) :
    Except Exception Unit :=
  match v.schemas.find? (·.name == name) with
  | some s => if L.conforms s.body doc then .ok () else .error (.validationError name)
  | none => .error (.validationError name)

@[simp] theorem includesSchema_empty (name : String) : (⟨[]⟩ : Validator).includesSchema name = false := rfl

@[simp] theorem registerSchema_empty (policy : Redefinition) (s : Schema) :
    registerSchema policy ⟨[]⟩ s = .ok ⟨[s]⟩ := rfl

theorem includesSchema_map_overwrite (v : Validator) (s : Schema) (name : String) :
    includesSchema ⟨v.schemas.map fun t => if t.name = s.name then s else t⟩ name =
      v.includesSchema name := by
  simp only [includesSchema, List.any_map]
  congr 1
  funext t
  by_cases h : t.name = s.name <;> simp [h]

theorem registerSchema_error_iff (policy : Redefinition) (v : Validator) (s : Schema) :
    (∃ e, registerSchema policy v s = .error e) ↔
      policy = .reject ∧ v.includesSchema s.name = true := by
  unfold registerSchema
  cases policy <;> split <;> simp_all

/-- A registration succeeds unless the policy rejects a name already held. -/
theorem registerSchema_isOk {policy : Redefinition} {v : Validator} {s : Schema}
    (h : policy = .reject → v.includesSchema s.name = false) :
    ∃ v', registerSchema policy v s = .ok v' := by
  cases hr : registerSchema policy v s with
  | ok v' => exact ⟨v', rfl⟩
  | error e =>
    obtain ⟨hp, hin⟩ := (registerSchema_error_iff policy v s).1 ⟨e, hr⟩
    simp [h hp] at hin

theorem registerSchema_error {policy : Redefinition} {v : Validator} {s : Schema} {e : Exception}
    (h : registerSchema policy v s = .error e) :
    policy = .reject ∧ v.includesSchema s.name = true ∧ e = .schemaRedefinitionError s.name := by
  unfold registerSchema at h
  split at h
  · cases policy <;> cases h; simp_all
  · cases h

/-- After a registration the new name is registered and so are the old ones,
whatever the policy. -/
theorem includesSchema_registerSchema {policy : Redefinition} {v v' : Validator} {s : Schema}
    (h : registerSchema policy v s = .ok v') (name : String) :
    v'.includesSchema name = (v.includesSchema name || name == s.name) := by
  unfold registerSchema at h
  split at h
  · rename_i hin
    cases policy <;> simp only [reduceCtorEq, Except.ok.injEq] at h
    subst h
    rw [includesSchema_map_overwrite]
    by_cases hn : name = s.name
    · subst hn; simp [hin]
    · simp [hn]
  · cases h
    simp [includesSchema, List.any_append, BEq.comm]

theorem includesSchema_registerSchema_of {policy : Redefinition} {v v' : Validator} {s : Schema}
    (h : registerSchema policy v s = .ok v') {name : String} (hn : v.includesSchema name = true) :
    v'.includesSchema name = true := by
  simp [includesSchema_registerSchema h, hn]

/-- The body of the schema a validator validates `name` against: the first one
held under that name. -/
def schemaOf (v : Validator) (name : String) : Option Json :=
  (v.schemas.find? (·.name == name)).map (·.body)

@[simp] theorem schemaOf_empty (name : String) : (⟨[]⟩ : Validator).schemaOf name = none := rfl

/-- Validating against an optional schema body: conformance to it, and a
`validation_error` naming `name` when there is none. -/
def checkSchema (L : Libraries) (schema : Option Json) (name : String) (doc : Json) :
    Except Exception Unit :=
  match schema with
  | some body => if L.conforms body doc then .ok () else .error (.validationError name)
  | none => .error (.validationError name)

theorem validate_eq_checkSchema (L : Libraries) (v : Validator) (doc : Json) (name : String) :
    v.validate L doc name = checkSchema L (v.schemaOf name) name doc := by
  unfold validate schemaOf
  cases v.schemas.find? (·.name == name) <;> rfl

/-- The store law of a validator: after a registration the new name is looked up
to the new schema, and every other name as before, whatever the policy. -/
theorem schemaOf_registerSchema {policy : Redefinition} {v v' : Validator} {s : Schema}
    (h : registerSchema policy v s = .ok v') (name : String) :
    v'.schemaOf name = if name = s.name then some s.body else v.schemaOf name := by
  unfold registerSchema at h
  split at h
  · rename_i hin
    cases policy <;> simp only [reduceCtorEq, Except.ok.injEq] at h
    subst h
    have hfind : ∀ t : Schema, ((if t.name = s.name then s else t).name == name) = (t.name == name) := by
      intro t; by_cases ht : t.name = s.name <;> simp [ht]
    simp only [schemaOf, List.find?_map, Function.comp_def, hfind]
    cases hf : v.schemas.find? (·.name == name) with
    | none =>
      have hn : name ≠ s.name := by
        rintro rfl
        obtain ⟨t, ht, htn⟩ := List.any_eq_true.1 hin
        exact List.find?_eq_none.1 hf t ht htn
      simp [hn]
    | some t =>
      have htn : t.name = name := by simpa using List.find?_some hf
      by_cases hn : name = s.name <;> simp [htn, hn]
  · cases h
    rename_i hin
    have hnone : v.schemas.find? (·.name == s.name) = none := by
      simpa [includesSchema, List.find?_eq_none] using hin
    simp only [schemaOf, List.find?_append]
    split
    · subst name; simp [hnone]
    · rename_i hne
      cases v.schemas.find? (·.name == name) <;> simp [Ne.symm hne]

end Validator

end PxpAgent
