/-
  BecknOnix.Handler.DispatchSpec

  What the dispatcher hands on, and what the client is answered.

  After the loop `ServeHTTP` rebuilds `r.Body` from `ctx.Body` and routes: every proxied
  request, async POST and publish that `route` makes carries that body
  (`route_carries_body`). The proxied request keeps the `ContentLength` the client
  declared (`dispatchEvent_route`). The built-in steps never touch the body, as long as
  the router and the workbench leave the request they are handed as it was
  (`Step.run_payload`), so with only them the two still agree
  (`serveHTTP_builtin_keeps_body`); a custom step that changes the body's length leaves
  the declared length stale.

  In proxy mode `route` answers success only after handing the body on, and NACKs a
  route it cannot deliver. In async mode it answers success first, whatever the route;
  the body goes on only through a hook, which is registered only when the request
  carries a hook slice and which does nothing for a route it cannot deliver.
-/
import BecknOnix.Handler.PipelineSpec

namespace BecknOnix.Handler

open BecknOnix.Go

/-! ## Built-in steps keep the body -/

/-- The part of a step context the dispatcher sends on: the body the steps work on, and
    the request's own body and declared length. -/
def StepContext.payload (ctx : StepContext) : List UInt8 × Except GoError (List UInt8) × Int :=
  (ctx.body, ctx.request.body, ctx.request.contentLength)

/-- A step that neither is nor wraps a custom step plugin. -/
def Step.isBuiltin : Step → Bool
  | .plugin _ _ => false
  | .instrumented _ _ inner => inner.isBuiltin
  | _ => true

/-- The router and workbench calls of a step leave the request they are handed as it was.
    The Go plugins get the live `*http.Request`, so this is an assumption on the plugins,
    stated where a property rests on it. -/
def Step.KeepsRequest : Step → Prop
  | .addRoute router => ∀ url body r, (router.route url body r).1 = r
  | .workbenchReceive w => ∀ r body, (w.workbenchReceiver r body).1 = r
  | .workbenchValidateContext w => ∀ r body, (w.workbenchValidateContext r body).1 = r
  | .instrumented _ _ inner => inner.KeepsRequest
  | _ => True

theorem delegateRun_fst (call : Except GoError Unit) (format : String) (ctx : StepContext) :
    (delegateRun call format ctx).1 = ctx := by
  unfold delegateRun; split <;> rfl

/-- No built-in step whose plugins leave the request alone changes the payload. -/
theorem Step.run_payload (hn : AuthHeaders) :
    ∀ (s : Step), s.isBuiltin = true → s.KeepsRequest → ∀ ctx clk,
      (s.run hn ctx clk).1.payload = ctx.payload
  | .sign signer km, _, _, ctx, clk => by
    simp only [Step.run, signRun]
    split
    · rfl
    · split
      · rfl
      · split <;> rfl
  | .validateSign v km, _, _, ctx, clk => by
    simp only [Step.run, withClock, validateHeaders]
    repeat' split
    all_goals rfl
  | .validateSchema v, _, _, ctx, clk => by simp only [Step.run, withClock, validateSchemaRun, delegateRun_fst]
  | .addRoute router, _, hk, ctx, clk => by
    simp only [Step.run, withClock, addRouteRun]
    split <;> simp only [StepContext.payload, hk ctx.request.url ctx.body ctx.request]
  | .validateOndc v, _, _, ctx, clk => by
    simp only [Step.run, withClock, validateOndcRun]
    split
    · rfl
    · rw [delegateRun_fst]
  | .validateOndcCallSave v, _, _, ctx, clk => by
    simp only [Step.run, withClock, validateOndcCallSaveRun, delegateRun_fst]
  | .workbenchReceive w, _, hk, ctx, clk => by
    simp only [Step.run, withClock, workbenchReceiveRun]
    repeat' split
    all_goals simp only [StepContext.payload, hk ctx.request ctx.body]
  | .workbenchValidateContext w, _, hk, ctx, clk => by
    simp only [Step.run, withClock, workbenchValidateContextRun, delegateRun_fst, StepContext.payload,
      hk ctx.request ctx.body]
  | .instrumented _ _ inner, hs, hk, ctx, clk => Step.run_payload hn inner hs hk ctx clk.tail

/-- Every event of the loop is a step run. -/
theorem runSteps_events (hn : AuthHeaders) :
    ∀ (steps : List Step) ctx clk, ∀ ev ∈ (runSteps hn steps ctx clk).1, ∃ s, ev = .run s
  | [], _, _, ev, hev => by simp [runSteps] at hev
  | s :: rest, ctx, clk, ev, hev => by
    simp only [runSteps] at hev
    split at hev
    · exact ⟨s, by simpa using hev⟩
    · rcases List.mem_cons.mp hev with rfl | hev
      · exact ⟨s, rfl⟩
      · exact runSteps_events hn rest _ _ ev hev

/-- A loop of built-in steps whose plugins leave the request alone and that gets through
    ends on the payload it started with. -/
theorem runSteps_ok_payload (hn : AuthHeaders) :
    ∀ (steps : List Step) ctx clk ctx', (∀ s ∈ steps, s.isBuiltin = true) →
      (∀ s ∈ steps, s.KeepsRequest) → (runSteps hn steps ctx clk).2 = .ok ctx' → ctx'.payload = ctx.payload
  | [], _, _, _, _, _, hres => by simp only [runSteps, Except.ok.injEq] at hres; rw [hres]
  | s :: rest, ctx, clk, ctx', hb, hk, hres => by
    simp only [runSteps] at hres
    split at hres
    · cases hres
    · rw [runSteps_ok_payload hn rest _ _ ctx' (fun t ht => hb t (.tail _ ht)) (fun t ht => hk t (.tail _ ht))
        hres, Step.run_payload hn s (hb s (.head _)) (hk s (.head _))]

/-! ## The request handed to the dispatcher -/

/-- With a route, `ServeHTTP` hands `route` the context's request with the body rebuilt
    from `ctx.Body`, and otherwise as the steps left it: the declared length too. -/
theorem dispatchEvent_route {ctx : StepContext} {rt : Route} (h : ctx.route = some rt) :
    ∃ r, dispatchEvent ctx = .route { ctx with request := r } rt r ∧ r.body = .ok ctx.body ∧
      r.contentLength = ctx.request.contentLength ∧ r.cookies = ctx.request.cookies ∧
      r.hooks = ctx.request.hooks := by
  simp only [dispatchEvent, h]
  exact ⟨_, rfl, rfl, rfl, rfl, rfl⟩

/-- A route event of `ServeHTTP` comes from a loop that got through, dispatched on the
    context it ended with. -/
theorem serveHTTP_route_mem {hn : AuthHeaders} {h : StdHandler} {r : Request} {rh : Header}
    {clk : Clock} {ctx : StepContext} {rt : Route} {r' : Request}
    (hev : Event.route ctx rt r' ∈ serveHTTP hn h r rh clk) :
    ∃ ctx₀ ctx', stepCtx h (stampHeaders h r) rh = .ok ctx₀ ∧
      (runSteps hn h.steps ctx₀ clk).2 = .ok ctx' ∧ dispatchEvent ctx' = .route ctx rt r' := by
  unfold serveHTTP at hev
  cases hctx : stepCtx h (stampHeaders h r) rh with
  | error err => simp [hctx] at hev
  | ok ctx₀ =>
    have hevs := runSteps_events hn h.steps ctx₀ clk
    rcases hrun : runSteps hn h.steps ctx₀ clk with ⟨evs, ⟨e, ctx'⟩ | ctx'⟩ <;>
      simp only [hctx, hrun, List.mem_append, List.mem_singleton] at hev hevs
    · rcases hev with hin | hin
      · obtain ⟨s, hs⟩ := hevs _ hin
        cases hs
      · cases hin
    · rcases hev with hin | hin
      · obtain ⟨s, hs⟩ := hevs _ hin
        cases hs
      · exact ⟨ctx₀, ctx', rfl, by rw [hrun], hin.symm⟩

/-- A module of built-in steps whose plugins leave the request alone routes the body it
    read, under the length the client declared. -/
theorem serveHTTP_builtin_keeps_body {hn : AuthHeaders} {h : StdHandler} {r : Request}
    {rh : Header} {clk : Clock} {body : List UInt8} (hbody : r.body = .ok body)
    (hb : ∀ s ∈ h.steps, s.isBuiltin = true) (hk : ∀ s ∈ h.steps, s.KeepsRequest) :
    ∀ ctx rt r', Event.route ctx rt r' ∈ serveHTTP hn h r rh clk →
      ctx.body = body ∧ r'.body = .ok body ∧ r'.contentLength = r.contentLength := by
  intro ctx rt r' hev
  obtain ⟨ctx₀, ctx', hctx, hres, hd⟩ := serveHTTP_route_mem hev
  have hp := runSteps_ok_payload hn h.steps ctx₀ clk ctx' hb hk hres
  have hp₀ : ctx₀.payload = (body, .error (.plain "http: invalid Read on closed Body"), r.contentLength) := by
    simp only [stepCtx, stampHeaders, hbody, Except.ok.injEq] at hctx
    subst hctx
    rfl
  rw [hp₀] at hp
  simp only [StepContext.payload, Prod.mk.injEq] at hp
  obtain ⟨rt₀, hrt⟩ : ∃ rt₀, ctx'.route = some rt₀ := by
    cases hr : ctx'.route with
    | none => simp [dispatchEvent, hr] at hd
    | some rt₀ => exact ⟨rt₀, rfl⟩
  obtain ⟨r₀, hd₀, hb₀, hl₀, -, -⟩ := dispatchEvent_route hrt
  rw [hd₀, Event.route.injEq] at hd
  obtain ⟨rfl, -, rfl⟩ := hd
  exact ⟨hp.1, by rw [hb₀, hp.1], by rw [hl₀, hp.2.2]⟩

/-! ## What `route` hands on -/

/-- What a delivery of a post-response hook hands on. -/
def Delivery.body : Delivery → List UInt8
  | .post _ b => b
  | .publish _ b => b

/-- A dispatch hands `body` on: the proxied request reads it, a publish sends it, and the
    deliveries of a registered hook carry it. -/
def Dispatch.Carries (body : List UInt8) : Dispatch → Prop
  | .proxy req _ => req.body = .ok body
  | .publish _ b => b = body
  | .registerHook hook => ∀ d ∈ hook (), d.body = body
  | _ => True

/-- The routes `route` can deliver: a URL, or a publisher topic with a publisher
    configured. -/
def Deliverable (rt : Route) (pb : Option Publisher) : Prop :=
  rt.targetType = "url" ∨ (rt.targetType = "publisher" ∧ pb.isSome)

instance (rt : Route) (pb : Option Publisher) : Decidable (Deliverable rt pb) :=
  inferInstanceAs (Decidable (_ ∨ (_ ∧ _)))

/-- The async hook delivers the context's body. -/
theorem asyncHook_body (ctx : StepContext) (rt : Route) (pb : Option Publisher) :
    ∀ d ∈ asyncHook ctx rt pb (), d.body = ctx.body := by
  intro d hd
  unfold asyncHook makeAsyncRequest at hd
  repeat' split at hd
  all_goals simp only [List.mem_singleton, List.not_mem_nil] at hd
  all_goals subst hd; rfl

/-- The async hook delivers nothing exactly for the routes `route` cannot deliver. -/
theorem asyncHook_eq_nil_iff (ctx : StepContext) (rt : Route) (pb : Option Publisher) :
    asyncHook ctx rt pb () = [] ↔ ¬ Deliverable rt pb := by
  unfold asyncHook makeAsyncRequest Deliverable
  split <;> (try split) <;> simp_all

/-- Once the request's body is rebuilt from the context, every dispatch of `route`
    carries the context's body. -/
theorem route_carries_body (ctx : StepContext) (rt : Route) (r : Request) (pb : Option Publisher)
    (hr : r.body = .ok ctx.body) : ∀ d ∈ route ctx rt r pb, d.Carries ctx.body := by
  intro d hd
  unfold route registerPostResponseHook at hd
  dsimp only at hd
  repeat' split at hd
  all_goals simp only [List.mem_cons, List.mem_singleton, List.not_mem_nil, or_false] at hd
  all_goals rcases hd with rfl | rfl <;>
    first | exact asyncHook_body ctx rt pb | simp [Dispatch.Carries, proxy, hr]

/-! ## What the client is answered -/

/-- A success answer to the client: ACK, or the custom response body. -/
def Dispatch.isSuccess : Dispatch → Bool
  | .sendAck => true
  | .sendBody _ => true
  | _ => false

/-- In proxy mode a success answer comes only after a publish of the body that went
    through. -/
theorem route_proxy_success {ctx : StepContext} {rt : Route} {r : Request} {pb : Option Publisher}
    (hp : rt.actAsProxy = true) {d : Dispatch} (hd : d ∈ route ctx rt r pb) (hs : d.isSuccess = true) :
    ∃ p, pb = some p ∧ rt.targetType = "publisher" ∧ p.publish rt.publisherID ctx.body = .ok () ∧
      route ctx rt r pb = [.publish rt.publisherID ctx.body, .sendAck] := by
  unfold route at hd ⊢
  simp only [hp, if_true] at hd ⊢
  split at hd
  · simp [proxy] at hd
    subst hd
    cases hs
  · rename_i ht
    split at hd
    · simp only [List.mem_singleton] at hd
      subst hd
      cases hs
    · rename_i p
      split at hd
      · simp only [List.mem_cons, List.mem_singleton, List.not_mem_nil, or_false] at hd
        rcases hd with rfl | rfl <;> cases hs
      · rename_i hpub
        exact ⟨p, rfl, ht, hpub, by simp [ht, hpub]⟩
  · simp only [List.mem_singleton] at hd
    subst hd
    cases hs

/-- In proxy mode a route that cannot be delivered is answered with one NACK and nothing
    else. -/
theorem route_proxy_undeliverable {ctx : StepContext} {rt : Route} {r : Request}
    {pb : Option Publisher} (hp : rt.actAsProxy = true) (hd : ¬ Deliverable rt pb) :
    ∃ e, route ctx rt r pb = [.sendNack e] := by
  unfold Deliverable at hd
  unfold route
  simp only [hp, if_true]
  split
  · simp_all
  · cases pb with
    | none => exact ⟨_, rfl⟩
    | some p => simp_all
  · exact ⟨_, rfl⟩

/-- In async mode the client is answered with success first, whatever the route: the
    custom response body when the request has the `custom-response-body` cookie, ACK
    otherwise; then the hook is registered when the request carries a hook slice. -/
theorem route_async (ctx : StepContext) (rt : Route) (r : Request) (pb : Option Publisher)
    (hp : rt.actAsProxy = false) :
    ∃ answer, answer.isSuccess = true ∧
      (∀ v, ctx.request.cookie "custom-response-body" = some v → answer = .sendBody v) ∧
      (ctx.request.cookie "custom-response-body" = none → answer = .sendAck) ∧
      route ctx rt r pb = answer :: registerPostResponseHook r (asyncHook ctx rt pb) := by
  unfold route
  simp only [hp, Bool.false_eq_true, if_false]
  cases ctx.request.cookie "custom-response-body" with
  | none => exact ⟨.sendAck, rfl, nofun, fun _ => rfl, rfl⟩
  | some v => exact ⟨.sendBody v, rfl, fun _ h => by cases h; rfl, nofun, rfl⟩

/-- In proxy mode a publisher route with a publisher configured publishes the body, then
    answers ACK when the publish went through and NACKs its error otherwise. -/
theorem route_proxy_publish {ctx : StepContext} {rt : Route} {r : Request} {pb : Option Publisher}
    (hp : rt.actAsProxy = true) {p : Publisher} (ht : rt.targetType = "publisher") (hpb : pb = some p) :
    ∃ answer, route ctx rt r pb = [.publish rt.publisherID ctx.body, answer] ∧
      (p.publish rt.publisherID ctx.body = .ok () → answer = .sendAck) ∧
      (∀ err, p.publish rt.publisherID ctx.body = .error err → answer = .sendNack err) := by
  simp only [route, hp, if_true, ht, hpb]
  cases p.publish rt.publisherID ctx.body with
  | error e => exact ⟨_, rfl, nofun, fun _ h => by cases h; rfl⟩
  | ok u => exact ⟨_, rfl, fun _ => rfl, nofun⟩

/-- What the async hook delivers: a POST of the body to the URL of a URL route, a publish of
    the body for a publisher route with a publisher configured, and nothing for any other
    route. -/
theorem asyncHook_deliveries (ctx : StepContext) (rt : Route) (pb : Option Publisher) :
    (rt.targetType = "url" → asyncHook ctx rt pb () = [.post rt.url ctx.body]) ∧
      (rt.targetType = "publisher" → pb.isSome → asyncHook ctx rt pb () = [.publish rt.publisherID ctx.body]) ∧
      (¬ Deliverable rt pb → asyncHook ctx rt pb () = []) := by
  refine ⟨fun ht => by simp [asyncHook, ht, makeAsyncRequest], fun ht hs => ?_,
    (asyncHook_eq_nil_iff ctx rt pb).mpr⟩
  obtain ⟨p, rfl⟩ := Option.isSome_iff_exists.mp hs
  simp [asyncHook, ht]

/-- How `route` answers and what it hands on, in both modes. In proxy mode: a URL route is
    proxied; a publisher route with a publisher configured publishes the body, then answers
    ACK when the publish went through and NACKs its error otherwise, so a success answer
    comes only after a publish that went through; an undeliverable route gets one NACK. In
    async mode the client gets a success answer first whatever the route: the custom
    response body when the request has the `custom-response-body` cookie, ACK otherwise.
    The hook goes in only when the request carries a hook slice; it POSTs the body to the
    URL of a URL route, publishes it for a publisher route with a publisher configured, and
    delivers nothing for any other route. -/
theorem route_answers_and_delivers (ctx : StepContext) (rt : Route) (r : Request)
    (pb : Option Publisher) :
    (rt.actAsProxy = true →
      (rt.targetType = "url" → route ctx rt r pb = [proxy r rt.url]) ∧
      (∀ p, rt.targetType = "publisher" → pb = some p →
        ∃ answer, route ctx rt r pb = [.publish rt.publisherID ctx.body, answer] ∧
          (p.publish rt.publisherID ctx.body = .ok () → answer = .sendAck) ∧
          (∀ err, p.publish rt.publisherID ctx.body = .error err → answer = .sendNack err)) ∧
      (∀ d ∈ route ctx rt r pb, d.isSuccess = true →
        ∃ p, pb = some p ∧ rt.targetType = "publisher" ∧ p.publish rt.publisherID ctx.body = .ok () ∧
          route ctx rt r pb = [.publish rt.publisherID ctx.body, .sendAck]) ∧
      (¬ Deliverable rt pb → ∃ e, route ctx rt r pb = [.sendNack e])) ∧
    (rt.actAsProxy = false →
      ∃ answer, (∀ v, ctx.request.cookie "custom-response-body" = some v → answer = .sendBody v) ∧
        (ctx.request.cookie "custom-response-body" = none → answer = .sendAck) ∧
        (r.hooks = none → route ctx rt r pb = [answer]) ∧
        (r.hooks ≠ none → ∃ hook, route ctx rt r pb = [answer, .registerHook hook] ∧
          (rt.targetType = "url" → hook () = [.post rt.url ctx.body]) ∧
          (rt.targetType = "publisher" → pb.isSome → hook () = [.publish rt.publisherID ctx.body]) ∧
          (¬ Deliverable rt pb → hook () = []))) := by
  refine ⟨fun hp => ⟨fun hu => by simp [route, hp, hu], fun p ht hpb => route_proxy_publish hp ht hpb,
    fun d hd hs => route_proxy_success hp hd hs, route_proxy_undeliverable hp⟩, fun hp => ?_⟩
  obtain ⟨answer, -, hbody, hack, hroute⟩ := route_async ctx rt r pb hp
  refine ⟨answer, hbody, hack, fun hh => by simp [hroute, registerPostResponseHook, hh],
    fun hh => ⟨asyncHook ctx rt pb, ?_, asyncHook_deliveries ctx rt pb⟩⟩
  obtain ⟨hooks, hh⟩ := Option.ne_none_iff_exists'.mp hh
  simp [hroute, registerPostResponseHook, hh]

/-- A route of the type `msgq`, which `route` does not recognise. -/
def msgqRoute (actAsProxy : Bool) : Route :=
  { targetType := "msgq", publisherID := "search-topic", url := ⟨"", ""⟩, actAsProxy }

/-- The `msgq` route gets a NACK in proxy mode but an ACK in async mode, where the
    registered hook delivers nothing. -/
theorem route_async_acks_msgq :
    let ctx : StepContext := { request := { hooks := some [] }, body := [123, 125], role := .bpp,
                               subID := "bpp.example.com", respHeader := .empty }
    (∃ e, route ctx (msgqRoute true) ctx.request none = [.sendNack e]) ∧
      ∃ hook, route ctx (msgqRoute false) ctx.request none = [.sendAck, .registerHook hook] ∧
        hook () = [] :=
  ⟨⟨_, rfl⟩, _, rfl, rfl⟩

/-! ## A body rewritten by a custom step -/

/-- A custom step that rewrites the body `{}` to `{"a":1}` and routes it through the
    reverse proxy. -/
def rewriteBodyRun (ctx : StepContext) (clk : Clock) : StepContext × Option GoError × Clock :=
  ({ ctx with body := [123, 34, 97, 34, 58, 49, 125],
              route := some ⟨"url", "", ⟨"http://bpp.example.com/search", "bpp.example.com"⟩, true⟩ },
    none, clk)

/-- A plugin manager that loads only step plugins, each running `rewriteBodyRun`. -/
def rewriteMgr : PluginManager :=
  { emptyMgr with step := fun c => .ok (.plugin c.id rewriteBodyRun) }

/-- A caller module whose one step is the body-rewriting plugin. -/
def rewriteCfg : Config :=
  { subscriberID := "bap.example.com", role := .bap, plugins := { steps := [⟨"rewriteBody", []⟩] },
    steps := ["rewriteBody"] }

/-- A request `{}` with `Content-Length: 2` through the body-rewriting module: the proxy is
    handed a request whose body reads the 7 bytes of `{"a":1}` but which still declares
    the length 2. -/
theorem serveHTTP_proxy_stale_contentLength (hn : AuthHeaders) (clk : Clock) :
    ∃ h, newStdHandler rewriteMgr rewriteCfg "bapTxnCaller" (fun _ => none) = .ok h ∧
      ∃ s ctx rt r, serveHTTP hn h { body := .ok [123, 125], contentLength := 2 } .empty clk =
          [.run s, .route ctx rt r] ∧
        ∃ req, route ctx rt r h.publisher = [.proxy req rt.url] ∧
          req.body = .ok ctx.body ∧ ctx.body.length = 7 ∧ req.contentLength = 2 :=
  ⟨_, rfl, _, _, _, _, rfl, _, rfl, rfl, rfl, rfl⟩

end BecknOnix.Handler
