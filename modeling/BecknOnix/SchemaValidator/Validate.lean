/-
  BecknOnix.SchemaValidator.Validate

  `schemaValidator.Validate` in full: decode the payload's `context`, build the schema
  key, take the compiled schema from `getCompiledSchema`, and run it on the payload,
  turning a `*jsonschema.ValidationError` into a `SchemaValidationErr` with one
  `model.Error` per cause.

  JSON is left abstract in two parts. `parse` is `json.Unmarshal` into `any`, which fails
  only on a syntax error; `contextOf` reads the `context` fields from the parsed document
  and fails on a field of the wrong type. `json.Unmarshal` into `payload` checks the
  syntax of the whole input first, so it is `parse` followed by `contextOf`, and a payload
  that got past it parses again. The compiled schema's `Validate` is `check`, and the call
  of `getCompiledSchema` is `lookup`, whose behaviour over every interleaving is in
  `BecknOnix.SchemaValidator.CompileCache`.

  `validate_checked` and `validate_unchecked` say what `Validate` returns once the
  payload has reached its schema (`Checked`) and before.
-/
import BecknOnix.SchemaValidator.CompileCache

namespace BecknOnix.SchemaValidator

open BecknOnix.Go

/-- The name of the sentinel `errSchemaKeyNotFound`. -/
def errSchemaKeyNotFound : String := "errSchemaKeyNotFound"

/-- A cause of a `*jsonschema.ValidationError`: its `InstanceLocation` and `Error()`. -/
structure Cause where
  instanceLocation : List String
  message : String
  deriving DecidableEq, Repr

/-- What the compiled schema's `Validate(jsonData)` returns. -/
inductive CheckResult where
  /-- `nil`. -/
  | valid
  /-- A `*jsonschema.ValidationError` with its `Causes`. -/
  | invalid (causes : List Cause)
  /-- Any other error, by its `%v` text. -/
  | failed (err : String)
  deriving DecidableEq, Repr

/-- The `model.Error` `Validate` makes of a cause: the instance location joined by `.`
    as `Paths`, and the cause's text as `Message`. -/
def Cause.toModelError (c : Cause) : ModelError :=
  { code := "", message := c.message, paths := ".".intercalate c.instanceLocation }

section Validate

variable (unicodeToLower : Char → Char) {J : Type} (parse : List UInt8 → Except String J)
  (contextOf : J → Except String PayloadContext) (lookup : String → Except GoError Schema)
  (check : Schema → J → CheckResult)

/-- `schemaValidator.Validate(ctx, url, data)`. -/
def validate (url : String) (data : List UInt8) : Except GoError Unit :=
  match parse data >>= contextOf with
  | .error err => .error (.badReq (.plain ("failed to parse JSON payload: " ++ err)))
  | .ok c =>
    match schemaFileName unicodeToLower c url with
    | .error err => .error err
    | .ok key =>
      match lookup key with
      | .error err =>
        if errorsIs errSchemaKeyNotFound err then
          .error (.badReq (.plain ("schema not found for domain: " ++ requestDomain unicodeToLower c)))
        else .error (.badReq err)
      | .ok schema =>
        match parse data with
        | .error err => .error (.badReq (.plain ("failed to parse JSON data: " ++ err)))
        | .ok j =>
          match check schema j with
          | .valid => .ok ()
          | .invalid causes => .error (.schemaValidation (causes.map Cause.toModelError))
          | .failed err => .error (.plain ("validation failed: " ++ err))

/-- The payload reached its schema: it parses to `j`, its context passes `Validate`'s
    checks, and `getCompiledSchema` gave `schema` for its key. -/
def Checked (url : String) (data : List UInt8) (j : J) (schema : Schema) : Prop :=
  parse data = .ok j ∧ ∃ c key, contextOf j = .ok c ∧ schemaFileName unicodeToLower c url = .ok key ∧
    lookup key = .ok schema

/-- Once the payload has reached its schema, `Validate` returns what the schema says:
    `nil`, the causes as a `SchemaValidationErr`, or the plain "validation failed". -/
theorem validate_checked {url : String} {data : List UInt8} {j : J} {schema : Schema}
    (h : Checked unicodeToLower parse contextOf lookup url data j schema) :
    validate unicodeToLower parse contextOf lookup check url data =
      match check schema j with
      | .valid => .ok ()
      | .invalid causes => .error (.schemaValidation (causes.map Cause.toModelError))
      | .failed err => .error (.plain ("validation failed: " ++ err)) := by
  obtain ⟨hj, c, key, hc, hkey, hs⟩ := h
  simp only [validate, hj, bind, Except.bind, hc, hkey, hs]

/-- `Validate`'s checks on the context fail with bad requests. -/
theorem schemaFileName_error {c : PayloadContext} {url : String} {err : GoError}
    (h : schemaFileName unicodeToLower c url = .error err) : ∃ cause, err = .badReq cause := by
  unfold schemaFileName at h
  split_ifs at h <;> cases h <;> exact ⟨_, rfl⟩

/-- Before the payload reaches a schema, `Validate` fails with a bad request. -/
theorem validate_unchecked {url : String} {data : List UInt8}
    (h : ∀ j schema, ¬ Checked unicodeToLower parse contextOf lookup url data j schema) :
    ∃ cause, validate unicodeToLower parse contextOf lookup check url data = .error (.badReq cause) := by
  unfold validate
  cases hj : parse data with
  | error err => exact ⟨_, rfl⟩
  | ok j =>
    simp only [bind, Except.bind]
    cases hc : contextOf j with
    | error err => exact ⟨_, rfl⟩
    | ok c =>
      dsimp only
      cases hkey : schemaFileName unicodeToLower c url with
      | error err => exact schemaFileName_error unicodeToLower hkey |>.imp fun _ he => by rw [he]
      | ok key =>
        dsimp only
        cases hs : lookup key with
        | error err => dsimp only; split_ifs <;> exact ⟨_, rfl⟩
        | ok schema => exact absurd ⟨hj, c, key, hc, hkey, hs⟩ (h j schema)

end Validate

end BecknOnix.SchemaValidator
