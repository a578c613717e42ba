/-
  BecknOnix.Handler.Step

  The processing steps of `step.go` and what their `Run` does to the step context.

  A step's `Run` takes the context and the wall clock and gives back the context, the
  error it returns (`none` for `nil`) and the clock after the readings it took. Only
  `signStep` reads the clock (twice: `createdAt`, then `validTill`). Metrics recording
  changes neither the context nor the returned error and is left out.

  The steps that only delegate to a plugin and wrap its error share `delegateRun`; each
  keeps its own definition with its own plugin call and message.
-/
import BecknOnix.Handler.AuthHeader
import BecknOnix.Handler.Context

namespace BecknOnix.Handler

open BecknOnix.Go

/-- `time.Time.Unix()` of a reading in Unix nanoseconds: whole seconds, rounded down. -/
def unix (t : Int) : Int := t / 1000000000

/-- `5 * time.Minute` in nanoseconds. -/
def fiveMinutes : Int := 300 * 1000000000

/-! ## `signStep` -/

/-- `signStep.Run`. -/
def signRun (signer : Signer) (km : KeyManager) (hn : AuthHeaders) (ctx : StepContext)
    (clk : Clock) : StepContext × Option GoError × Clock :=
  if ctx.subID.length = 0 then (ctx, some (.badReq (.plain "subscriberID not set")), clk)
  else
    match km.keyset ctx.subID with
    | .error err => (ctx, some (.wrap "failed to get signing key: %w" [err]), clk)
    | .ok keySet =>
      let createdAt := unix clk.head
      let validTill := unix (clk.tail.head + fiveMinutes)
      match signer.sign ctx.body keySet.signingPrivate createdAt validTill with
      | .error err => (ctx, some (.wrap "failed to sign request: %w" [err]), clk.tail.tail)
      | .ok sign =>
        let authHeader := generateAuthHeader ctx.subID keySet.uniqueKeyID createdAt validTill sign
        let header := if ctx.role = .gateway then hn.gateway else hn.subscriber
        ({ ctx with request := { ctx.request with header := ctx.request.header.set header authHeader } },
          none, clk.tail.tail)

/-! ## `validateSignStep` -/

/-- The part of `validateSignStep.validate` after the key lookup, given its answer. -/
def verifyWith (validator : SignValidator) (ctx : StepContext) (value : String)
    (lookup : Except GoError (String × String)) : Option GoError :=
  match lookup with
  | .error err => some (.wrap "failed to get validation key: %w" [err])
  | .ok (signingPublicKey, _) =>
    match validator.validate ctx.body value signingPublicKey with
    | .error err => some (.wrap "sign validation failed: %w" [err])
    | .ok () => none

/-- `validateSignStep.validate`. -/
def validate (validator : SignValidator) (km : KeyManager) (ctx : StepContext) (value : String) :
    Option GoError :=
  match parseHeader value with
  | .error _ => some (.plain "failed to parse header")
  | .ok headerVals =>
    verifyWith validator ctx value (km.lookupNPKeys headerVals.subscriberID headerVals.uniqueID)

/-- The challenge `validateHeaders` sets on a failed validation. -/
def unauthHeader (subID : String) : String :=
  "Signature realm=\"" ++ subID ++ "\",headers=\"(created) (expires) digest\""

/-- `validateSignStep.validateHeaders` (its `Run` returns what this returns). -/
def validateHeaders (validator : SignValidator) (km : KeyManager) (hn : AuthHeaders)
    (ctx : StepContext) : StepContext × Option GoError :=
  let headerValCookie := (ctx.request.cookie "header_validation").getD "true"
  if headerValCookie = "false" then (ctx, none)
  else
    let headerValue := ctx.request.header.get hn.subscriber
    if headerValue.length ≠ 0 then
      match validate validator km ctx headerValue with
      | some err =>
        ({ ctx with respHeader := ctx.respHeader.set hn.unauthorizedGateway (unauthHeader ctx.subID) },
          some (.signValidation (.wrap ("failed to validate " ++ hn.subscriber ++ ": %w") [err])))
      | none => (ctx, none)
    else (ctx, none)

/-! ## The delegating steps -/

/-- The shape of the steps that call one plugin method and wrap its error with
    `fmt.Errorf(format, err)`. -/
def delegateRun (call : Except GoError Unit) (format : String) (ctx : StepContext) :
    StepContext × Option GoError :=
  match call with
  | .error err => (ctx, some (.wrap format [err]))
  | .ok () => (ctx, none)

/-- `validateSchemaStep.Run`. -/
def validateSchemaRun (validator : SchemaValidator) (ctx : StepContext) :
    StepContext × Option GoError :=
  delegateRun (validator.validate ctx.request.url ctx.body) "schema validation failed: %w" ctx

/-- `validateOndcCallSaveStep.Run`. -/
def validateOndcCallSaveRun (validator : OndcValidator) (ctx : StepContext) :
    StepContext × Option GoError :=
  delegateRun (validator.saveValidationData ctx.request.url ctx.body)
    "ondc call save validation failed: %w" ctx

/-- `workbenchValidateContextStep.Run`, on the request the plugin leaves. -/
def workbenchValidateContextRun (workbench : OndcWorkbench) (ctx : StepContext) :
    StepContext × Option GoError :=
  let call := workbench.workbenchValidateContext ctx.request ctx.body
  delegateRun call.2 "ondc workbench context validation step failed: %w" { ctx with request := call.1 }

/-- `validateOndcStep.Run`: skipped by the cookie `protocol_validation=false`. -/
def validateOndcRun (validator : OndcValidator) (ctx : StepContext) :
    StepContext × Option GoError :=
  let skipCookie := (ctx.request.cookie "protocol_validation").getD "true"
  if skipCookie = "false" then (ctx, none)
  else delegateRun (validator.validatePayload ctx.request.url ctx.body) "ondc validation failed: %w" ctx

/-- `workbenchReceiveStep.Run`: after the plugin, a `subscriber_id` cookie of the request
    it leaves overrides the subscriber id. -/
def workbenchReceiveRun (workbench : OndcWorkbench) (ctx : StepContext) :
    StepContext × Option GoError :=
  let call := workbench.workbenchReceiver ctx.request ctx.body
  match call.2 with
  | .error err => ({ ctx with request := call.1 }, some (.wrap "ondc workbench receive step failed: %w" [err]))
  | .ok () =>
    match call.1.cookie "subscriber_id" with
    | some v => ({ ctx with request := call.1, subID := v }, none)
    | none => ({ ctx with request := call.1 }, none)

/-- `addRouteStep.Run`: copies the router's answer into `ctx.Route`, on the request the
    router leaves. -/
def addRouteRun (router : Router) (ctx : StepContext) : StepContext × Option GoError :=
  let call := router.route ctx.request.url ctx.body ctx.request
  match call.2 with
  | .error err => ({ ctx with request := call.1 }, some (.wrap "failed to determine route: %w" [err]))
  | .ok route =>
    let rt : Route := { targetType := route.targetType, publisherID := route.publisherID,
                        url := route.url, actAsProxy := route.actAsProxy }
    ({ ctx with request := call.1, route := some rt }, none)

/-! ## Steps -/

/-- A `definition.Step` of the pipeline. -/
inductive Step where
  | sign (signer : Signer) (km : KeyManager)
  | validateSign (validator : SignValidator) (km : KeyManager)
  | validateSchema (validator : SchemaValidator)
  | addRoute (router : Router)
  | validateOndc (validator : OndcValidator)
  | validateOndcCallSave (validator : OndcValidator)
  | workbenchReceive (workbench : OndcWorkbench)
  | workbenchValidateContext (workbench : OndcWorkbench)
  /-- A step loaded by `mgr.Step` from a step plugin config, with the config's id and
      what its `Run` does. -/
  | plugin (id : String) (run : StepContext → Clock → StepContext × Option GoError × Clock)
  /-- Modelled from the spec: the decorator of `NewInstrumentedStep` (absent from src/),
      which records the step name, the module, the duration and the terminal status, and
      delegates to the wrapped step once. -/
  | instrumented (name moduleName : String) (inner : Step)

/-- A `Run` that does not read the clock. -/
def withClock (r : StepContext × Option GoError) (clk : Clock) : StepContext × Option GoError × Clock :=
  (r.1, r.2, clk)

/-- `step.Run(ctx)`. The decorator reads the clock before and after the wrapped step. -/
def Step.run (hn : AuthHeaders) : Step → StepContext → Clock → StepContext × Option GoError × Clock
  | .sign signer km, ctx, clk => signRun signer km hn ctx clk
  | .validateSign validator km, ctx, clk => withClock (validateHeaders validator km hn ctx) clk
  | .validateSchema validator, ctx, clk => withClock (validateSchemaRun validator ctx) clk
  | .addRoute router, ctx, clk => withClock (addRouteRun router ctx) clk
  | .validateOndc validator, ctx, clk => withClock (validateOndcRun validator ctx) clk
  | .validateOndcCallSave validator, ctx, clk => withClock (validateOndcCallSaveRun validator ctx) clk
  | .workbenchReceive workbench, ctx, clk => withClock (workbenchReceiveRun workbench ctx) clk
  | .workbenchValidateContext workbench, ctx, clk =>
    withClock (workbenchValidateContextRun workbench ctx) clk
  | .plugin _ run, ctx, clk => run ctx clk
  | .instrumented _ _ inner, ctx, clk =>
    let r := inner.run hn ctx clk.tail
    (r.1, r.2.1, r.2.2.tail)

end BecknOnix.Handler
