/-
  BecknOnix.Handler.Serve

  Serving one request (`stdHandler.ServeHTTP`): drain the body into a step context, run
  the steps in order and stop at the first error, then restore the request body from the
  context and dispatch on the route (`route`): reverse-proxy or publish in proxy mode, or
  answer at once and register a post-response hook in async mode.

  `ServeHTTP` is the list of calls it makes (`Event`); `route` the list of its own
  (`Dispatch`). The response writes of `SendNack` and `SendAck` are in
  `BecknOnix.Response.Encoder`. `ctx.Request` and `r` are the same request: the steps
  change it in place, and the dispatcher sees their changes.
-/
import BecknOnix.Handler.StdHandler

namespace BecknOnix.Handler

open BecknOnix.Go

/-! ## The step context -/

/-- `stdHandler.subID`: the subscriber id of the request context, else the module's. -/
def StdHandler.subID (h : StdHandler) (r : Request) : String := r.ctxSubscriberID.getD h.subscriberID

/-- `stdHandler.stepCtx`: the body is read to its end and closed. -/
def stepCtx (h : StdHandler) (r : Request) (rh : Header) : Except GoError StepContext :=
  match r.body with
  | .error err => .error (.badReq err)
  | .ok body =>
    .ok { request := { r with body := .error (.plain "http: invalid Read on closed Body") }
          body := body, role := h.role, subID := h.subID r, respHeader := rh }

/-! ## `route` -/

/-- What `route` does, in order. -/
inductive Dispatch where
  /-- `proxyFunc(ctx, r, w, httpClient)`: the request handed to the reverse proxy and the
      target its director sets. -/
  | proxy (req : Request) (target : URL)
  /-- `pb.Publish(ctx, publisherID, body)`. -/
  | publish (publisherID : String) (body : List UInt8)
  | sendNack (err : GoError)
  | sendAck
  /-- `response.SendBody(ctx, w, value)`. -/
  | sendBody (value : String)
  /-- `RegisterPostResponseHook` appending the hook to the request's slice. -/
  | registerHook (hook : PostResponseHook)

/-- `RegisterPostResponseHook`: dropped when the request context carries no hook slice. -/
def registerPostResponseHook (r : Request) (fn : PostResponseHook) : List Dispatch :=
  match r.hooks with
  | none => []
  | some _ => [.registerHook fn]

/-- `makeAsyncRequest`: `POST` of the body to the route URL. -/
def makeAsyncRequest (stepCtx : StepContext) (target : URL) : List Delivery :=
  [.post target stepCtx.body]

/-- The hook `route` registers in async mode. -/
def asyncHook (ctx : StepContext) (rt : Route) (pb : Option Publisher) : PostResponseHook := fun () =>
  match rt.targetType with
  | "url" => makeAsyncRequest ctx rt.url
  | "publisher" =>
    match pb with
    | none => []
    | some _ => [.publish rt.publisherID ctx.body]
  | _ => []

/-- `proxy`: `X-Forwarded-Host` is set on the request before it is handed on. -/
def proxy (r : Request) (target : URL) : Dispatch :=
  .proxy { r with header := r.header.set "X-Forwarded-Host" r.host } target

/-- `route`, for the route `rt = ctx.Route` (set at every call). -/
def route (ctx : StepContext) (rt : Route) (r : Request) (pb : Option Publisher) : List Dispatch :=
  if rt.actAsProxy then
    match rt.targetType with
    | "url" => [proxy r rt.url]
    | "publisher" =>
      match pb with
      | none => [.sendNack (.plain "publisher plugin not configured")]
      | some p =>
        match p.publish rt.publisherID ctx.body with
        | .error err => [.publish rt.publisherID ctx.body, .sendNack err]
        | .ok () => [.publish rt.publisherID ctx.body, .sendAck]
    | targetType => [.sendNack (.plain ("unknown route type: " ++ targetType))]
  else
    let answer := match ctx.request.cookie "custom-response-body" with
      | some v => Dispatch.sendBody v
      | none => Dispatch.sendAck
    answer :: registerPostResponseHook r (asyncHook ctx rt pb)

/-! ## `ServeHTTP` -/

/-- What `ServeHTTP` does, in order. -/
inductive Event where
  /-- `step.Run(ctx)` in the loop. -/
  | run (step : Step)
  /-- `response.SendNack(ctx, w, err)`; `w.Header()` holds `respHeader`. -/
  | sendNack (err : GoError) (respHeader : Header)
  /-- `response.SendAck(w)`; `w.Header()` holds `respHeader`. -/
  | sendAck (respHeader : Header)
  /-- `route(ctx, r, w, h.publisher, h.httpClient)` with the route `rt`. -/
  | route (ctx : StepContext) (rt : Route) (r : Request)

/-- The loop over `h.steps`: the calls it makes, and either the first error with the
    context at that point, or the context after the last step. -/
def runSteps (hn : AuthHeaders) :
    List Step → StepContext → Clock → List Event × Except (GoError × StepContext) StepContext
  | [], ctx, _ => ([], .ok ctx)
  | step :: rest, ctx, clk =>
    let (ctx', err, clk') := step.run hn ctx clk
    match err with
    | some e => ([.run step], .error (e, ctx'))
    | none =>
      let (evs, res) := runSteps hn rest ctx' clk'
      (.run step :: evs, res)

/-- The end of `ServeHTTP` after the loop: restore the body from the context, then ACK
    without a route, or strip the internal headers and route. -/
def dispatchEvent (ctx : StepContext) : Event :=
  let r := { ctx.request with body := .ok ctx.body }
  match ctx.route with
  | none => .sendAck ctx.respHeader
  | some rt =>
    let r := { r with header := (r.header.del "X-Module-Name").del "X-Role" }
    .route { ctx with request := r } rt r

/-- The internal headers `ServeHTTP` stamps on the request first. -/
def stampHeaders (h : StdHandler) (r : Request) : Request :=
  { r with header := (r.header.set "X-Module-Name" h.moduleName).set "X-Role" h.role.toString }

/-- `stdHandler.ServeHTTP`, with the response writer's header map `rh` and the clock. -/
def serveHTTP (hn : AuthHeaders) (h : StdHandler) (r : Request) (rh : Header) (clk : Clock) :
    List Event :=
  match stepCtx h (stampHeaders h r) rh with
  | .error err => [.sendNack err rh]
  | .ok ctx =>
    let (evs, res) := runSteps hn h.steps ctx clk
    match res with
    | .error (err, ctx') => evs ++ [.sendNack err ctx'.respHeader]
    | .ok ctx' => evs ++ [dispatchEvent ctx']

end BecknOnix.Handler
