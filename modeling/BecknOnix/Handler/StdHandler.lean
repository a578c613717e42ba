/-
  BecknOnix.Handler.StdHandler

  Building a module's handler (`NewStdHandler`): the plugins in their fixed order
  (`initPlugins`), then the step list (`initSteps`): the step plugins go into a map by
  id, later ids replacing earlier ones, and each name of `cfg.Steps` resolves to a
  built-in step or to the custom step of that id, wrapped by the instrumentation
  decorator unless wrapping fails.

  The HTTP client is opaque to the model (the dispatcher hands it on) and is left out.
-/
import BecknOnix.Handler.Step

namespace BecknOnix.Handler

open BecknOnix.Go

/-! ## Configuration -/

/-- `plugin.Config`. -/
structure PluginConfig where
  id : String
  config : List (String × String) := []
  deriving DecidableEq, Repr

/-- A capability the core only hands on (`Cache`, `RegistryLookup`, `TransportWrapper`):
    an opaque handle. -/
structure Handle where
  name : String
  deriving DecidableEq, Repr

/-- `handler.PluginCfg`. -/
structure PluginCfg where
  cache : Option PluginConfig := none
  registry : Option PluginConfig := none
  keyManager : Option PluginConfig := none
  signValidator : Option PluginConfig := none
  schemaValidator : Option PluginConfig := none
  router : Option PluginConfig := none
  publisher : Option PluginConfig := none
  signer : Option PluginConfig := none
  transportWrapper : Option PluginConfig := none
  ondcValidator : Option PluginConfig := none
  ondcWorkbench : Option PluginConfig := none
  steps : List PluginConfig := []

/-- `handler.Config`: the fields `NewStdHandler` reads. -/
structure Config where
  subscriberID : String
  role : Role
  plugins : PluginCfg
  steps : List String

/-- `handler.PluginManager`: one loader per capability. -/
structure PluginManager where
  cache : PluginConfig → Except GoError Handle
  registry : PluginConfig → Except GoError Handle
  keyManager : Handle → Option Handle → PluginConfig → Except GoError KeyManager
  signValidator : PluginConfig → Except GoError SignValidator
  schemaValidator : PluginConfig → Except GoError SchemaValidator
  router : PluginConfig → Except GoError Router
  publisher : PluginConfig → Except GoError Publisher
  signer : PluginConfig → Except GoError Signer
  transportWrapper : PluginConfig → Except GoError Handle
  ondcValidator : Option Handle → PluginConfig → Except GoError OndcValidator
  ondcWorkbench : Option Handle → PluginConfig → Except GoError OndcWorkbench
  step : PluginConfig → Except GoError Step

/-- `stdHandler`. -/
structure StdHandler where
  signer : Option Signer := none
  steps : List Step := []
  signValidator : Option SignValidator := none
  cache : Option Handle := none
  registry : Option Handle := none
  km : Option KeyManager := none
  schemaValidator : Option SchemaValidator := none
  router : Option Router := none
  publisher : Option Publisher := none
  transportWrapper : Option Handle := none
  ondcValidator : Option OndcValidator := none
  ondcWorkbench : Option OndcWorkbench := none
  subscriberID : String
  role : Role
  moduleName : String

/-! ## Plugins -/

/-- `loadPlugin`: a missing config leaves the capability unset. -/
def loadPlugin {α : Type} (name : String) (cfg : Option PluginConfig)
    (mgrFunc : PluginConfig → Except GoError α) : Except GoError (Option α) :=
  match cfg with
  | none => .ok none
  | some c =>
    match mgrFunc c with
    | .error err => .error (.wrap ("failed to load " ++ name ++ " plugin (" ++ c.id ++ "): %w") [err])
    | .ok p => .ok (some p)

/-- `loadKeyManager`: needs the cache. -/
def loadKeyManager (mgr : PluginManager) (cache : Option Handle) (registry : Option Handle)
    (cfg : Option PluginConfig) : Except GoError (Option KeyManager) :=
  match cfg with
  | none => .ok none
  | some c =>
    match cache with
    | none => .error (.plain ("failed to load KeyManager plugin (" ++ c.id ++ "): Cache plugin not configured"))
    | some cache =>
      match mgr.keyManager cache registry c with
      | .error err => .error (.wrap ("failed to load KeyManager plugin (" ++ c.id ++ "): %w") [err])
      | .ok km => .ok (some km)

/-- `loadOndcValidator`: `loadPlugin`'s shape with the cache handed to the loader. -/
def loadOndcValidator (mgr : PluginManager) (cache : Option Handle) (cfg : Option PluginConfig) :
    Except GoError (Option OndcValidator) :=
  loadPlugin "OndcValidator" cfg (mgr.ondcValidator cache)

/-- `loadOndcWorkbench`: `loadPlugin`'s shape with the cache handed to the loader. -/
def loadOndcWorkbench (mgr : PluginManager) (cache : Option Handle) (cfg : Option PluginConfig) :
    Except GoError (Option OndcWorkbench) :=
  loadPlugin "OndcWorkbench" cfg (mgr.ondcWorkbench cache)

/-- `stdHandler.initPlugins`: Cache, Registry, KeyManager, then the rest. -/
def initPlugins (h : StdHandler) (mgr : PluginManager) (cfg : PluginCfg) : Except GoError StdHandler := do
  let cache ← loadPlugin "Cache" cfg.cache mgr.cache
  let registry ← loadPlugin "Registry" cfg.registry mgr.registry
  let km ← loadKeyManager mgr cache registry cfg.keyManager
  let signValidator ← loadPlugin "SignValidator" cfg.signValidator mgr.signValidator
  let schemaValidator ← loadPlugin "SchemaValidator" cfg.schemaValidator mgr.schemaValidator
  let router ← loadPlugin "Router" cfg.router mgr.router
  let publisher ← loadPlugin "Publisher" cfg.publisher mgr.publisher
  let signer ← loadPlugin "Signer" cfg.signer mgr.signer
  let transportWrapper ← loadPlugin "TransportWrapper" cfg.transportWrapper mgr.transportWrapper
  let ondcValidator ← loadOndcValidator mgr cache cfg.ondcValidator
  let ondcWorkbench ← loadOndcWorkbench mgr cache cfg.ondcWorkbench
  pure { h with cache, registry, km, signValidator, schemaValidator, router, publisher, signer,
                transportWrapper, ondcValidator, ondcWorkbench }

/-! ## Step constructors -/

/-- The shape of the constructors of one-capability steps. -/
def newStepWith {α : Type} (plugin : String) (p : Option α) (mk : α → Step) : Except GoError Step :=
  match p with
  | none => .error (.plain ("invalid config: " ++ plugin ++ " plugin not configured"))
  | some x => .ok (mk x)

/-- `newSignStep`. -/
def newSignStep (signer : Option Signer) (km : Option KeyManager) : Except GoError Step :=
  match signer, km with
  | none, _ => .error (.plain "invalid config: Signer plugin not configured")
  | some _, none => .error (.plain "invalid config: KeyManager plugin not configured")
  | some s, some k => .ok (.sign s k)

/-- `newValidateSignStep`. -/
def newValidateSignStep (signValidator : Option SignValidator) (km : Option KeyManager) :
    Except GoError Step :=
  match signValidator, km with
  | none, _ => .error (.plain "invalid config: SignValidator plugin not configured")
  | some _, none => .error (.plain "invalid config: KeyManager plugin not configured")
  | some v, some k => .ok (.validateSign v k)

/-- `newValidateSchemaStep`. -/
def newValidateSchemaStep (v : Option SchemaValidator) : Except GoError Step :=
  newStepWith "SchemaValidator" v .validateSchema

/-- `newAddRouteStep`. -/
def newAddRouteStep (router : Option Router) : Except GoError Step :=
  newStepWith "Router" router .addRoute

/-- `newValidateOndcStep`. -/
def newValidateOndcStep (v : Option OndcValidator) : Except GoError Step :=
  newStepWith "OndcValidator" v .validateOndc

/-- `newValidateOndcCallSaveStep`. -/
def newValidateOndcCallSaveStep (v : Option OndcValidator) : Except GoError Step :=
  newStepWith "OndcValidator" v .validateOndcCallSave

/-- `newWorkbenchReceiveStep`. -/
def newWorkbenchReceiveStep (w : Option OndcWorkbench) : Except GoError Step :=
  newStepWith "OndcWorkbench" w .workbenchReceive

/-- `newWorkbenchValidateContextStep`. -/
def newWorkbenchValidateContextStep (w : Option OndcWorkbench) : Except GoError Step :=
  newStepWith "OndcWorkbench" w .workbenchValidateContext

/-- Modelled from the spec: `NewInstrumentedStep` (absent from src/) wraps a step in the
    instrumentation decorator; it may fail, and whether it does is an input (`wrapErr`). -/
def newInstrumentedStep (wrapErr : Option GoError) (s : Step) (name moduleName : String) :
    Except GoError Step :=
  match wrapErr with
  | some err => .error err
  | none => .ok (.instrumented name moduleName s)

/-! ## `initSteps` -/

/-- The first loop of `initSteps`: `steps[c.ID] = step` for every step plugin, in order. -/
def loadStepPlugins (mgr : PluginManager) :
    List PluginConfig → (String → Option Step) → Except GoError (String → Option Step)
  | [], steps => .ok steps
  | c :: cs, steps =>
    match mgr.step c with
    | .error err => .error (.wrap ("failed to initialize plugin step " ++ c.id ++ ": %w") [err])
    | .ok step => loadStepPlugins mgr cs fun k => if k = c.id then some step else steps k

/-- The `switch` of `initSteps`: a built-in name builds its step, any other name is looked
    up among the custom steps. -/
def buildStep (h : StdHandler) (custom : String → Option Step) (step : String) : Except GoError Step :=
  match step with
  | "sign" => newSignStep h.signer h.km
  | "validateSign" => newValidateSignStep h.signValidator h.km
  | "validateSchema" => newValidateSchemaStep h.schemaValidator
  | "addRoute" => newAddRouteStep h.router
  | "validateOndcPayload" => newValidateOndcStep h.ondcValidator
  | "validateOndcCallSave" => newValidateOndcCallSaveStep h.ondcValidator
  | "ondcWorkbenchReceiver" => newWorkbenchReceiveStep h.ondcWorkbench
  | "ondcWorkbenchValidateContext" => newWorkbenchValidateContextStep h.ondcWorkbench
  | _ =>
    match custom step with
    | some s => .ok s
    | none => .error (.plain ("unrecognized step: " ++ step))

/-- The second loop of `initSteps`: build each configured step and append it, wrapped by
    the decorator, or raw when wrapping fails. -/
def registerSteps (h : StdHandler) (custom : String → Option Step) (wrapErr : String → Option GoError) :
    List String → List Step → Except GoError (List Step)
  | [], acc => .ok acc
  | step :: rest, acc =>
    match buildStep h custom step with
    | .error err => .error err
    | .ok s =>
      match newInstrumentedStep (wrapErr step) s step h.moduleName with
      | .error _ => registerSteps h custom wrapErr rest (acc ++ [s])
      | .ok instrumentedStep => registerSteps h custom wrapErr rest (acc ++ [instrumentedStep])

/-- `stdHandler.initSteps`. -/
def initSteps (h : StdHandler) (mgr : PluginManager) (cfg : Config) (wrapErr : String → Option GoError) :
    Except GoError StdHandler := do
  let custom ← loadStepPlugins mgr cfg.plugins.steps fun _ => none
  let steps ← registerSteps h custom wrapErr cfg.steps h.steps
  pure { h with steps }

/-- `NewStdHandler`. -/
def newStdHandler (mgr : PluginManager) (cfg : Config) (moduleName : String)
    (wrapErr : String → Option GoError) : Except GoError StdHandler :=
  let h : StdHandler := { steps := [], subscriberID := cfg.subscriberID, role := cfg.role, moduleName }
  match initPlugins h mgr cfg.plugins with
  | .error err => .error (.wrap "failed to initialize plugins: %w" [err])
  | .ok h =>
    match initSteps h mgr cfg wrapErr with
    | .error err => .error (.wrap "failed to initialize steps: %w" [err])
    | .ok h => .ok h

end BecknOnix.Handler
