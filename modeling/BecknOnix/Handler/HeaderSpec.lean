/-
  BecknOnix.Handler.HeaderSpec

  What the headers carry from the client, through a module, to the module it proxies to.

  A built-in step whose router and workbench leave the request alone (`Step.KeepsRequest`)
  and that gets through either leaves the request, the body and the role as they were, or
  signs: it sets the signature header of the role to a header `signStep` built over the body
  (`Step.run_ok_cases`). Everything else follows from that one lemma and one induction over
  the loop (`runSteps_ok_establishes`).

  * A module of such steps is transparent to headers: the request the reverse proxy sends
    on carries every header of the client's request unchanged, except the two signature
    headers, the internal headers and `X-Forwarded-Host`, which carries the client's `Host`
    (`serveHTTP_forwards_headers`).
  * The internal headers never leave the adapter, in any spelling: HTTP compares header
    names without regard to case, and `ServeHTTP` deletes `X-Module-Name` and `X-Role` as
    `Header.Set` spells them, so neither the request `route` gets nor the one the reverse
    proxy sends on carries them, as long as every step keeps that spelling
    (`serveHTTP_strips_internal_headers`). The built-in steps do (`Step.keepsSpelling_of_builtin`).
  * What one module signs, another accepts: when the caller's signers and key managers
    agree with the receiver's validator and key manager (`KeysAgree`), the subscriber header
    a non-gateway caller sends through the reverse proxy is one a signing step of the caller
    built over the forwarded body, it reads back the signer's ids, and the receiver's
    `validateSignStep` accepts it (`serveHTTP_signature_verifies`).
  * Whom a module signs as: the subscriber id of the request's context or of the module,
    or, when the module has a workbench receive step, whatever the client's own
    `subscriber_id` cookie says (`serveHTTP_signs_as`).
-/
import BecknOnix.Handler.AnswerSpec
import BecknOnix.Handler.StepSpec

namespace BecknOnix.Handler

open BecknOnix.Go

/-! ## What a built-in step does to the request -/

/-- The step the instrumentation wraps, or the step itself. -/
def Step.inner : Step → Step
  | .instrumented _ _ inner => inner.inner
  | s => s

/-- The signer and key manager of a signing step, through the instrumentation. -/
def Step.signer? (s : Step) : Option (Signer × KeyManager) :=
  match s.inner with
  | .sign signer km => some (signer, km)
  | _ => none

/-- A step returns what the step it wraps returns, on the clock the instrumentation leaves
    it. -/
theorem Step.run_inner (hn : AuthHeaders) :
    ∀ (s : Step) ctx clk, ∃ clk', (s.run hn ctx clk).1 = (s.inner.run hn ctx clk').1 ∧
      (s.run hn ctx clk).2.1 = (s.inner.run hn ctx clk').2.1
  | .instrumented _ _ inner, ctx, clk => Step.run_inner hn inner ctx clk.tail
  | .sign .., _, clk | .validateSign .., _, clk | .validateSchema _, _, clk | .addRoute _, _, clk
  | .validateOndc _, _, clk | .validateOndcCallSave _, _, clk | .workbenchReceive _, _, clk
  | .workbenchValidateContext _, _, clk | .plugin .., _, clk => ⟨clk, rfl, rfl⟩

/-- A built-in step that does not sign, and whose plugins leave the request alone, changes at
    most the response headers, the route and the subscriber id, and the subscriber id only in a
    workbench receive step, to the value of the `subscriber_id` cookie. -/
theorem Step.run_unsigned (hn : AuthHeaders) :
    ∀ (s : Step), s.isBuiltin = true → s.KeepsRequest → s.signer? = none → ∀ ctx clk,
      ∃ rh rt sub, (s.run hn ctx clk).1 = { ctx with respHeader := rh, route := rt, subID := sub } ∧
        (sub = ctx.subID ∨ (∃ w, s.inner = .workbenchReceive w) ∧ ctx.request.cookie "subscriber_id" = some sub)
  | .validateSign v km, _, _, _, ctx, clk => by
    simp only [Step.run, withClock, validateHeaders]
    repeat' split
    all_goals exact ⟨_, _, _, rfl, .inl rfl⟩
  | .validateSchema v, _, _, _, ctx, clk => by
    simp only [Step.run, withClock, validateSchemaRun, delegateRun_fst]
    exact ⟨_, _, _, rfl, .inl rfl⟩
  | .addRoute router, _, hk, _, ctx, clk => by
    simp only [Step.run, withClock, addRouteRun, hk ctx.request.url ctx.body ctx.request]
    split <;> exact ⟨_, _, _, rfl, .inl rfl⟩
  | .validateOndc v, _, _, _, ctx, clk => by
    simp only [Step.run, withClock, validateOndcRun]
    split
    · exact ⟨_, _, _, rfl, .inl rfl⟩
    · rw [delegateRun_fst]
      exact ⟨_, _, _, rfl, .inl rfl⟩
  | .validateOndcCallSave v, _, _, _, ctx, clk => by
    simp only [Step.run, withClock, validateOndcCallSaveRun, delegateRun_fst]
    exact ⟨_, _, _, rfl, .inl rfl⟩
  | .workbenchReceive w, _, hk, _, ctx, clk => by
    simp only [Step.run, withClock, workbenchReceiveRun, hk ctx.request ctx.body]
    repeat' split
    all_goals first
      | exact ⟨_, _, _, rfl, .inl rfl⟩
      | exact ⟨_, _, _, rfl, .inr ⟨⟨w, rfl⟩, by assumption⟩⟩
  | .workbenchValidateContext w, _, hk, _, ctx, clk => by
    simp only [Step.run, withClock, workbenchValidateContextRun, delegateRun_fst, hk ctx.request ctx.body]
    exact ⟨_, _, _, rfl, .inl rfl⟩
  | .instrumented _ _ inner, hb, hk, hs, ctx, clk => Step.run_unsigned hn inner hb hk hs ctx clk.tail

/-- A signing step runs `signStep.Run` of its signer and key manager, on the clock the
    instrumentation leaves it. -/
theorem Step.run_signer (hn : AuthHeaders) {s : Step} {signer : Signer} {km : KeyManager}
    (hs : s.signer? = some (signer, km)) (ctx : StepContext) (clk : Clock) :
    ∃ clk', (s.run hn ctx clk).1 = (signRun signer km hn ctx clk').1 ∧
      (s.run hn ctx clk).2.1 = (signRun signer km hn ctx clk').2.1 := by
  have hi : s.inner = .sign signer km := by
    unfold Step.signer? at hs
    split at hs
    · cases hs
      assumption
    · cases hs
  simpa only [hi] using Step.run_inner hn s ctx clk

/-- What a built-in step whose plugins leave the request alone does when it gets through:
    without a signer, it changes at most the response headers, the route and the subscriber
    id (only to the `subscriber_id` cookie, in a workbench receive step); with one, it sets
    the signature header of the role to a header `signStep` built over the body with a key
    set of the subscriber. -/
theorem Step.run_ok_cases (hn : AuthHeaders) {s : Step} (hb : s.isBuiltin = true) (hk : s.KeepsRequest)
    {ctx : StepContext} {clk : Clock} (hok : (s.run hn ctx clk).2.1 = none) :
    (s.signer? = none ∧
      ∃ rh rt sub, (s.run hn ctx clk).1 = { ctx with respHeader := rh, route := rt, subID := sub } ∧
        (sub = ctx.subID ∨ (∃ w, s.inner = .workbenchReceive w) ∧ ctx.request.cookie "subscriber_id" = some sub)) ∨
    ∃ signer km ks created expires sig, s.signer? = some (signer, km) ∧ km.keyset ctx.subID = .ok ks ∧
      signer.sign ctx.body ks.signingPrivate created expires = .ok sig ∧
      (s.run hn ctx clk).1 = { ctx with request := { ctx.request with
        header := ctx.request.header.set (signHeaderName hn ctx.role)
          (generateAuthHeader ctx.subID ks.uniqueKeyID created expires sig) } } := by
  cases hs : s.signer? with
  | none => exact .inl ⟨rfl, Step.run_unsigned hn s hb hk hs ctx clk⟩
  | some p =>
    obtain ⟨signer, km⟩ := p
    obtain ⟨clk', hctx, herr⟩ := Step.run_signer hn hs ctx clk
    rw [herr] at hok
    obtain ⟨ks, sig, -, hks, hsig, heq⟩ := signRun_ok hok
    exact .inr ⟨signer, km, ks, _, _, sig, rfl, hks, hsig, hctx.trans heq⟩

/-- What a loop of built-in steps that gets through ends with: `Q`, which every step keeps,
    and `P`, which every signing step establishes and every other step keeps while `Q`
    holds, once some step signs or `P` held before. -/
theorem runSteps_ok_establishes (hn : AuthHeaders) (P Q : StepContext → Prop) :
    ∀ (steps : List Step) ctx clk ctx',
      (∀ s ∈ steps, ∀ ctx clk, (s.run hn ctx clk).2.1 = none → Q ctx →
        Q (s.run hn ctx clk).1 ∧ (s.signer?.isSome ∨ P ctx → P (s.run hn ctx clk).1)) →
      (runSteps hn steps ctx clk).2 = .ok ctx' → Q ctx → (P ctx ∨ ∃ s ∈ steps, s.signer?.isSome) →
      Q ctx' ∧ P ctx'
  | [], _, _, _, _, hres, hq, hp => by
    simp only [runSteps, Except.ok.injEq] at hres
    rw [← hres]
    exact ⟨hq, hp.resolve_right fun ⟨_, hs, _⟩ => List.not_mem_nil _ hs⟩
  | s :: rest, ctx, clk, ctx', hstep, hres, hq, hp => by
    simp only [runSteps] at hres
    split at hres
    · cases hres
    · rename_i hok
      obtain ⟨hq', hp'⟩ := hstep s (.head _) ctx clk hok hq
      refine runSteps_ok_establishes hn P Q rest _ _ ctx' (fun t ht => hstep t (.tail _ ht)) hres hq' ?_
      rcases hp with hp | ⟨t, ht, hts⟩
      · exact .inl (hp' (.inr hp))
      · rcases List.mem_cons.mp ht with rfl | ht
        · exact .inl (hp' (.inl hts))
        · exact .inr ⟨t, ht, hts⟩

/-- A property every built-in step that gets through keeps holds after a loop of them that
    gets through. -/
theorem runSteps_ok_preserves (hn : AuthHeaders) (P : StepContext → Prop) {steps : List Step}
    {ctx : StepContext} {clk : Clock} {ctx' : StepContext}
    (hstep : ∀ s ∈ steps, ∀ ctx clk, (s.run hn ctx clk).2.1 = none → P ctx → P (s.run hn ctx clk).1)
    (hres : (runSteps hn steps ctx clk).2 = .ok ctx') (hp : P ctx) : P ctx' :=
  (runSteps_ok_establishes hn (fun _ => True) P steps ctx clk ctx'
    (fun s hs c k hok hq => ⟨hstep s hs c k hok hq, fun _ => trivial⟩) hres hp (.inl trivial)).1

/-! ## Headers forwarded unchanged -/

/-- What the built-in steps keep of the request: the host, and every header but the two
    signature headers. -/
def Request.Frame (hn : AuthHeaders) (r r' : Request) : Prop :=
  r'.host = r.host ∧ ∀ k, k ≠ hn.subscriber → k ≠ hn.gateway → r'.header.get k = r.header.get k

theorem Request.Frame.trans {hn : AuthHeaders} {r₁ r₂ r₃ : Request} (h₁ : Request.Frame hn r₁ r₂)
    (h₂ : Request.Frame hn r₂ r₃) : Request.Frame hn r₁ r₃ :=
  ⟨h₂.1.trans h₁.1, fun k hs hg => (h₂.2 k hs hg).trans (h₁.2 k hs hg)⟩

/-- The only request `route` hands to the reverse proxy is its own, with
    `X-Forwarded-Host` set. -/
theorem route_proxy_mem {ctx : StepContext} {rt : Route} {r req : Request} {pb : Option Publisher}
    {target : URL} (h : Dispatch.proxy req target ∈ route ctx rt r pb) :
    req = { r with header := r.header.set "X-Forwarded-Host" r.host } := by
  unfold route registerPostResponseHook at h
  repeat' split at h
  all_goals simp only [List.mem_cons, List.mem_singleton, List.not_mem_nil, or_false, proxy,
    reduceCtorEq, Dispatch.proxy.injEq] at h
  exact h.1

/-- The request the reverse proxy gets comes from a loop that got through: it is the
    request the loop ended with, its body rebuilt from the context, the internal headers
    deleted and `X-Forwarded-Host` set to its host; the loop started on the request as
    context `stepCtx` builds from the request as `ServeHTTP` stamped it. -/
theorem serveHTTP_proxy_request {hn : AuthHeaders} {h : StdHandler} {r : Request} {rh : Header}
    {clk : Clock} {ctx : StepContext} {rt : Route} {r' : Request}
    (hev : Event.route ctx rt r' ∈ serveHTTP hn h r rh clk) {req : Request} {target : URL}
    (hp : Dispatch.proxy req target ∈ route ctx rt r' h.publisher) :
    ∃ body ctx', (runSteps hn h.steps
        { request := { stampHeaders h r with body := .error (.plain "http: invalid Read on closed Body") }
          body, role := h.role, subID := h.subID r, respHeader := rh } clk).2 = .ok ctx' ∧
      req.header = ((ctx'.request.header.del "X-Module-Name").del "X-Role").set "X-Forwarded-Host"
        ctx'.request.host ∧ req.body = .ok ctx'.body := by
  obtain ⟨ctx₀, ctx', hctx, hres, hd⟩ := serveHTTP_route_mem hev
  simp only [stepCtx] at hctx
  split at hctx
  · cases hctx
  · cases hctx
    simp only [dispatchEvent] at hd
    split at hd
    · cases hd
    · obtain ⟨-, -, rfl⟩ := Event.route.inj hd
      rw [route_proxy_mem hp]
      exact ⟨_, ctx', hres, rfl, rfl⟩

/-- A router that sends every request through the reverse proxy to a BPP, leaving the
    request as it was. -/
def proxyRouter : Router :=
  ⟨fun _ _ r => (r, .ok ⟨"url", "", ⟨"http://bpp.example.com/search", "bpp.example.com"⟩, true⟩)⟩

/-- Two header names are one name: HTTP compares names without regard to ASCII case. -/
def Header.SameName (a b : String) : Prop := a.data.map Char.toLower = b.data.map Char.toLower

instance (a b : String) : Decidable (Header.SameName a b) := inferInstanceAs (Decidable (_ = _))

/-- The names a header map holds. -/
def Header.names (hd : Header) : List String := hd.entries.map (·.1)

/-- The header map spells the name `n` one way: every name it holds that is `n` up to case is
    `n` itself, as `Header.Set` and the server's header parser write it. -/
def Header.Spells (hd : Header) (n : String) : Prop := ∀ k ∈ hd.names, Header.SameName k n → k = n

instance (hd : Header) (n : String) : Decidable (hd.Spells n) :=
  inferInstanceAs (Decidable (∀ k ∈ hd.names, _))

theorem Header.mem_names_set {hd : Header} {k v x : String} (hx : x ∈ (hd.set k v).names) :
    x = k ∨ x ∈ hd.names := by
  simp only [Header.names, Header.set, List.map_cons, List.mem_cons, List.mem_map, List.mem_filter] at hx
  rcases hx with rfl | ⟨p, ⟨hp, -⟩, rfl⟩
  exacts [.inl rfl, .inr (List.mem_map_of_mem _ hp)]

theorem Header.mem_names_del {hd : Header} {k x : String} (hx : x ∈ (hd.del k).names) :
    x ≠ k ∧ x ∈ hd.names := by
  simp only [Header.names, Header.del, List.mem_map, List.mem_filter, bne_iff_ne, ne_eq] at hx
  obtain ⟨p, ⟨hp, hne⟩, rfl⟩ := hx
  exact ⟨hne, List.mem_map_of_mem _ hp⟩

theorem Header.Spells.set {hd : Header} {n k : String} (h : hd.Spells n) (hk : Header.SameName k n → k = n)
    (v : String) : (hd.set k v).Spells n := fun x hx hs => by
  rcases Header.mem_names_set hx with rfl | hx
  exacts [hk hs, h x hx hs]

/-- The headers `ServeHTTP` stamps on the request and deletes before it routes. -/
def internalHeaders : List String := ["X-Module-Name", "X-Role"]

/-- A request that carries neither internal header, in any spelling. -/
def Request.Stripped (r : Request) : Prop :=
  ∀ k ∈ r.header.names, ∀ n ∈ internalHeaders, ¬ Header.SameName k n

/-- Deleting both internal headers from a header map that spells them one way leaves none of
    them, in any spelling. -/
theorem Header.stripped_del {hd : Header} (h : ∀ n ∈ internalHeaders, hd.Spells n) :
    ∀ k ∈ ((hd.del "X-Module-Name").del "X-Role").names, ∀ n ∈ internalHeaders, ¬ Header.SameName k n := by
  intro k hk n hn hs
  obtain ⟨hrole, hk⟩ := Header.mem_names_del hk
  obtain ⟨hmod, hk⟩ := Header.mem_names_del hk
  have hkn := h n hn k hk hs
  simp only [internalHeaders, List.mem_cons, List.mem_singleton, List.not_mem_nil, or_false] at hn
  rcases hn with rfl | rfl
  exacts [hmod hkn, hrole hkn]

/-- `X-Forwarded-Host` is not an internal header, so setting it keeps a request stripped. -/
theorem Request.Stripped.set_forwarded {r : Request} (h : r.Stripped) (v : String) :
    Request.Stripped { r with header := r.header.set "X-Forwarded-Host" v } := fun k hk n hn => by
  rcases Header.mem_names_set hk with rfl | hk
  · simp only [internalHeaders, List.mem_cons, List.mem_singleton, List.not_mem_nil, or_false] at hn
    rcases hn with rfl | rfl <;> decide
  · exact h k hk n hn

/-- The internal headers are spelled one way once `ServeHTTP` has stamped them, when they were
    before. -/
theorem stampHeaders_spells (h : StdHandler) {r : Request} (hr : ∀ n ∈ internalHeaders, r.header.Spells n) :
    ∀ n ∈ internalHeaders, (stampHeaders h r).header.Spells n := fun n hn =>
  have hnames : ∀ k ∈ internalHeaders, ∀ n ∈ internalHeaders, Header.SameName k n → k = n := by decide
  ((hr n hn).set (hnames _ (.head _) n hn) _).set (hnames _ (.tail _ (.head _)) n hn) _

/-- The request of a route event is the context's, with both internal headers deleted: when
    the context's request spells them one way, it carries neither, in any spelling. -/
theorem dispatchEvent_stripped {ctx ctx' : StepContext} {rt : Route} {r : Request}
    (hs : ∀ n ∈ internalHeaders, ctx.request.header.Spells n) (h : dispatchEvent ctx = .route ctx' rt r) :
    ctx'.request = r ∧ r.Stripped := by
  unfold dispatchEvent at h
  split at h
  · cases h
  · obtain ⟨rfl, -, rfl⟩ := Event.route.inj h
    exact ⟨rfl, Header.stripped_del hs⟩

/-- A step that gets through keeps the internal headers spelled one way. -/
def Step.KeepsSpelling (hn : AuthHeaders) (s : Step) : Prop :=
  ∀ ctx clk, (s.run hn ctx clk).2.1 = none → (∀ n ∈ internalHeaders, ctx.request.header.Spells n) →
    ∀ n ∈ internalHeaders, (s.run hn ctx clk).1.request.header.Spells n

/-- A built-in step whose plugins leave the request alone keeps the internal headers spelled
    one way, when neither signature header is an internal header in any spelling. -/
theorem Step.keepsSpelling_of_builtin (hn : AuthHeaders) {s : Step} (hb : s.isBuiltin = true)
    (hk : s.KeepsRequest) (hapart : ∀ k ∈ [hn.subscriber, hn.gateway], ∀ n ∈ internalHeaders, ¬ Header.SameName k n) :
    s.KeepsSpelling hn := by
  intro ctx clk hok hsp n hn'
  rcases Step.run_ok_cases hn hb hk hok with ⟨-, _, _, _, h, -⟩ | ⟨_, _, _, _, _, _, -, -, -, h⟩ <;> rw [h]
  · exact hsp n hn'
  · refine (hsp n hn').set (fun hs => absurd hs (hapart _ ?_ n hn')) _
    unfold signHeaderName
    split_ifs <;> simp

/-- The internal headers never leave the adapter: when the client's request spells them one
    way, as the server's header parser does, and every step keeps that spelling, the request
    `ServeHTTP` routes and the one the reverse proxy sends on carry neither `X-Module-Name`
    nor `X-Role`, in any spelling, whatever the steps did with them. -/
theorem serveHTTP_strips_internal_headers {hn : AuthHeaders} {h : StdHandler} {r : Request}
    {rh : Header} {clk : Clock} (hspell : ∀ n ∈ internalHeaders, r.header.Spells n)
    (hsteps : ∀ s ∈ h.steps, s.KeepsSpelling hn) {ctx : StepContext} {rt : Route} {r' : Request}
    (hev : Event.route ctx rt r' ∈ serveHTTP hn h r rh clk) :
    ctx.request = r' ∧ r'.Stripped ∧
      ∀ req target, Dispatch.proxy req target ∈ route ctx rt r' h.publisher → req.Stripped := by
  obtain ⟨ctx₀, ctx', hctx, hres, hd⟩ := serveHTTP_route_mem hev
  have h₀ : ∀ n ∈ internalHeaders, ctx₀.request.header.Spells n := by
    simp only [stepCtx] at hctx
    split at hctx
    · cases hctx
    · cases hctx
      exact stampHeaders_spells h hspell
  obtain ⟨hreq, hstrip⟩ := dispatchEvent_stripped
    (runSteps_ok_preserves hn (fun c => ∀ n ∈ internalHeaders, c.request.header.Spells n) hsteps hres h₀) hd
  refine ⟨hreq, hstrip, fun req target hp => ?_⟩
  rw [route_proxy_mem hp]
  exact hstrip.set_forwarded _

/-- A caller module whose one step routes through the reverse proxy, and a client that
    sent its own `X-Role` header: the request handed on carries neither internal header. -/
theorem serveHTTP_strips_internal_headers_proxy :
    let h : StdHandler :=
      { steps := [.addRoute proxyRouter], subscriberID := "bap.example.com", role := .bap,
        moduleName := "bapTxnCaller" }
    let r : Request := { header := ⟨[("X-Role", "bpp")]⟩, body := .ok [123, 125] }
    let hn : AuthHeaders := ⟨"Authorization", "X-Gateway-Authorization", "WWW-Authenticate"⟩
    (∀ n ∈ internalHeaders, r.header.Spells n) ∧ (∀ s ∈ h.steps, s.KeepsSpelling hn) ∧
      ∃ ctx rt r', serveHTTP hn h r .empty (fun _ => 0) = [.run (.addRoute proxyRouter), .route ctx rt r'] ∧
        ctx.request = r' ∧ r'.Stripped ∧
          ∀ req target, Dispatch.proxy req target ∈ route ctx rt r' h.publisher → req.Stripped := by
  intro h r hn
  have hspell : ∀ n ∈ internalHeaders, r.header.Spells n := by decide
  have hsteps : ∀ s ∈ h.steps, s.KeepsSpelling hn := fun s hs => by
    rw [List.mem_singleton.mp hs]
    exact Step.keepsSpelling_of_builtin hn rfl (fun _ _ _ => rfl) (by decide)
  obtain ⟨ctx, rt, r', hrun⟩ : ∃ ctx rt r', serveHTTP hn h r .empty (fun _ => 0) =
      [.run (.addRoute proxyRouter), .route ctx rt r'] := ⟨_, _, _, rfl⟩
  refine ⟨hspell, hsteps, ctx, rt, r', hrun,
    @serveHTTP_strips_internal_headers hn h r .empty (fun _ => 0) hspell hsteps ctx rt r' ?_⟩
  rw [hrun]
  exact List.mem_cons_of_mem _ (List.mem_singleton_self _)

/-! ## What one module signs, another accepts -/

/-- The plugins of a module that signs and of one that validates agree: for every subscriber
    the signer's key manager has a key set for, the subscriber id and the key id fit the
    `keyId` field, the validator's key manager looks the key id up to a signing public key,
    and the validator accepts under it every header `signStep` builds around a signature the
    signer made with the key set's private key. -/
def KeysAgree (signer : Signer) (km : KeyManager) (validator : SignValidator) (kmR : KeyManager) : Prop :=
  ∀ sub ks, km.keyset sub = .ok ks → KeyIdSafe sub ∧ KeyIdSafe ks.uniqueKeyID ∧
    ∃ pub enc, kmR.lookupNPKeys sub ks.uniqueKeyID = .ok (pub, enc) ∧
      ∀ body created expires sig, signer.sign body ks.signingPrivate created expires = .ok sig →
        validator.validate body (generateAuthHeader sub ks.uniqueKeyID created expires sig) pub = .ok ()

/-- The signature header of the role is one a signing step of `steps` built over the body, for
    a subscriber of `W` and with a key set its key manager has for that subscriber. -/
def SignedBy (hn : AuthHeaders) (steps : List Step) (W : String → Prop) (ctx : StepContext) : Prop :=
  ∃ s ∈ steps, ∃ signer km, s.signer? = some (signer, km) ∧
    ∃ sub ks created expires sig, W sub ∧ km.keyset sub = .ok ks ∧
      signer.sign ctx.body ks.signingPrivate created expires = .ok sig ∧
      ctx.request.header.get (signHeaderName hn ctx.role) = generateAuthHeader sub ks.uniqueKeyID created expires sig

/-- A built-in step of `steps` whose plugins leave the request alone and that gets through
    keeps the role and the cookies, moves the subscriber id only to the `subscriber_id`
    cookie, in a workbench receive step, keeps a signature header a signing step of `steps`
    built for a subscriber of `W`, and, signing, writes one for its own subscriber id. -/
theorem Step.run_ok_signedBy (hn : AuthHeaders) {steps : List Step} {W : String → Prop} {s : Step}
    (hs : s ∈ steps) (hb : s.isBuiltin = true) (hk : s.KeepsRequest) {ctx : StepContext} {clk : Clock}
    (hok : (s.run hn ctx clk).2.1 = none) (hW : W ctx.subID)
    (hcookie : ∀ w v, s.inner = .workbenchReceive w → ctx.request.cookie "subscriber_id" = some v → W v) :
    (s.run hn ctx clk).1.role = ctx.role ∧ (s.run hn ctx clk).1.request.cookies = ctx.request.cookies ∧
      W (s.run hn ctx clk).1.subID ∧
      (s.signer?.isSome ∨ SignedBy hn steps W ctx → SignedBy hn steps W (s.run hn ctx clk).1) := by
  rcases Step.run_ok_cases hn hb hk hok with
    ⟨hsg, rh, rt, sub, h, hsub⟩ | ⟨signer, km, ks, c, e, sig, hsg, hks, hsig, h⟩ <;> rw [h]
  · refine ⟨rfl, rfl, ?_, fun hp => hp.resolve_left (by rw [hsg]; nofun)⟩
    rcases hsub with rfl | ⟨⟨w, hw⟩, hc⟩
    exacts [hW, hcookie w sub hw hc]
  · exact ⟨rfl, rfl, hW, fun _ =>
      ⟨s, hs, signer, km, hsg, ctx.subID, ks, c, e, sig, hW, hks, hsig, Header.get_set_self _ _ _⟩⟩

/-- `validateSignStep.validate` accepts the subscriber header of the context's request over
    the context's body. -/
def Verifies (validator : SignValidator) (km : KeyManager) (hn : AuthHeaders) (ctx : StepContext) : Prop :=
  validate validator km ctx (ctx.request.header.get hn.subscriber) = none

/-- `validate` accepts a header that reads back a subscriber id and a key id the key manager
    resolves to a key under which the validator accepts the body. -/
theorem Verifies.of_accepts {validator : SignValidator} {km : KeyManager} {hn : AuthHeaders}
    {ctx : StepContext} {sub kid pub enc : String}
    (hparse : parseHeader (ctx.request.header.get hn.subscriber) = .ok ⟨sub, kid, "ed25519"⟩)
    (hlook : km.lookupNPKeys sub kid = .ok (pub, enc))
    (hval : validator.validate ctx.body (ctx.request.header.get hn.subscriber) pub = .ok ()) :
    Verifies validator km hn ctx := by
  simp only [Verifies, validate, hparse, verifyWith, hlook, hval]

/-- `validate` reads the context only through its body. -/
theorem Verifies.of_eq {validator : SignValidator} {km : KeyManager} {hn : AuthHeaders}
    {ctx ctx' : StepContext} (h : Verifies validator km hn ctx)
    (hhdr : ctx'.request.header.get hn.subscriber = ctx.request.header.get hn.subscriber)
    (hbody : ctx'.body = ctx.body) : Verifies validator km hn ctx' := by
  unfold Verifies validate verifyWith at *
  rwa [hhdr, hbody]

/-- `validateHeaders` lets through a context whose subscriber header verifies. -/
theorem validateHeaders_of_verifies {validator : SignValidator} {km : KeyManager} {hn : AuthHeaders}
    {ctx : StepContext} (h : Verifies validator km hn ctx) : validateHeaders validator km hn ctx = (ctx, none) := by
  unfold validateHeaders
  dsimp only
  split_ifs
  · rfl
  · unfold Verifies at h
    simp only [h]
  · rfl

/-- What one module signs, another accepts: when the signing steps of a non-gateway module of
    built-in steps agree with a receiver's validator and key manager, its router and
    workbench leave the request alone, and one of its steps signs, the subscriber header of
    the request it sends through the reverse proxy is one a signing step built, with its
    signer, over the forwarded body; it reads back the subscriber id and the key id of the key
    set signed with, the receiver's key manager resolves them to a key under which its
    validator accepts the forwarded body, and the request, delivered with its headers and
    body, passes the `validateSignStep` of every receiving module. -/
theorem serveHTTP_signature_verifies {hn : AuthHeaders} {h : StdHandler} {r : Request} {rh : Header}
    {clk : Clock} {validator : SignValidator} {kmR : KeyManager}
    (hname : hn.subscriber ∉ ["X-Module-Name", "X-Role", "X-Forwarded-Host"])
    (hrole : h.role ≠ .gateway) (hb : ∀ s ∈ h.steps, s.isBuiltin = true) (hk : ∀ s ∈ h.steps, s.KeepsRequest)
    (hagree : ∀ s ∈ h.steps, ∀ p ∈ s.signer?, KeysAgree p.1 p.2 validator kmR)
    (hsigns : ∃ s ∈ h.steps, s.signer?.isSome) {ctx : StepContext} {rt : Route} {r' : Request}
    (hev : Event.route ctx rt r' ∈ serveHTTP hn h r rh clk) {req : Request} {target : URL}
    (hp : Dispatch.proxy req target ∈ route ctx rt r' h.publisher) :
    ∃ body, req.body = .ok body ∧
      (∃ s ∈ h.steps, ∃ signer km, s.signer? = some (signer, km) ∧
        ∃ sub ks created expires sig pub enc,
          req.header.get hn.subscriber = generateAuthHeader sub ks.uniqueKeyID created expires sig ∧
          km.keyset sub = .ok ks ∧ signer.sign body ks.signingPrivate created expires = .ok sig ∧
          parseHeader (req.header.get hn.subscriber) = .ok ⟨sub, ks.uniqueKeyID, "ed25519"⟩ ∧
          kmR.lookupNPKeys sub ks.uniqueKeyID = .ok (pub, enc) ∧
          validator.validate body (req.header.get hn.subscriber) pub = .ok ()) ∧
      ∀ (hR : StdHandler) (rR : Request) (rhR : Header) (clkR : Clock),
        rR.header = req.header → rR.body = req.body →
        ∃ ctxR, stepCtx hR (stampHeaders hR rR) rhR = .ok ctxR ∧
          (Step.validateSign validator kmR).run hn ctxR clkR = (ctxR, none, clkR) := by
  simp only [List.mem_cons, List.mem_singleton, List.not_mem_nil, or_false, not_or] at hname
  obtain ⟨hmod, hroleh, hfwd⟩ := hname
  obtain ⟨_, ctx', hres, hhdr, hbody'⟩ := serveHTTP_proxy_request hev hp
  obtain ⟨hrole', s, hs, signer, km, hsg, sub, ks, c, e, sig, -, hks, hsig, hget⟩ :=
    runSteps_ok_establishes hn (SignedBy hn h.steps fun _ => True) (fun c => c.role = h.role) h.steps _ clk ctx'
      (fun s hs _ _ hok hr => by
        obtain ⟨hr', -, -, hP⟩ := Step.run_ok_signedBy hn (W := fun _ => True) hs (hb s hs) (hk s hs) hok trivial
          fun _ _ _ _ => trivial
        exact ⟨hr'.trans hr, hP⟩)
      hres rfl (.inr hsigns)
  have hsent : ctx'.request.header.get hn.subscriber = generateAuthHeader sub ks.uniqueKeyID c e sig := by
    rw [← hget, hrole', signHeaderName, if_neg hrole]
  have hfwded : req.header.get hn.subscriber = ctx'.request.header.get hn.subscriber := by
    rw [hhdr, Header.get_set_ne _ _ hfwd, Header.get_del_ne _ hroleh, Header.get_del_ne _ hmod]
  obtain ⟨hsafe, hkid, pub, enc, hlook, hval⟩ := hagree s hs _ hsg sub ks hks
  have hparse := parseHeader_generateAuthHeader c e sig hsafe hkid
  have hv : Verifies validator kmR hn ctx' :=
    Verifies.of_accepts (by rw [hsent]; exact hparse) hlook (by rw [hsent]; exact hval _ _ _ _ hsig)
  refine ⟨ctx'.body, hbody', ⟨s, hs, signer, km, hsg, sub, ks, c, e, sig, pub, enc, hfwded.trans hsent, hks,
    hsig, by rw [hfwded, hsent]; exact hparse, hlook, by rw [hfwded, hsent]; exact hval _ _ _ _ hsig⟩,
    fun hR rR rhR clkR hheader hbody => ?_⟩
  simp only [stepCtx, stampHeaders, hbody, hbody']
  refine ⟨_, rfl, ?_⟩
  simp only [Step.run, withClock]
  rw [validateHeaders_of_verifies]
  exact hv.of_eq (by rw [Header.get_set_ne _ _ hroleh, Header.get_set_ne _ _ hmod, hheader, hfwded]) rfl

/-- A BAP caller that signs with `key-1` and routes through the reverse proxy, and a BPP
    receiver whose key manager resolves `key-1` to the key its validator accepts: the
    forwarded header reads back `bap.example.com` and `key-1`, and the receiver's
    `validateSignStep` lets the forwarded request through. -/
theorem serveHTTP_signature_verifies_bap :
    let signer : Signer := ⟨fun _ priv _ _ => .ok (priv ++ "-sig")⟩
    let km : KeyManager :=
      ⟨fun sub => if sub = "bap.example.com" then .ok ⟨"key-1", "priv-1"⟩ else .error (.plain "no key set"),
        fun _ _ => .error (.plain "no lookup")⟩
    let validator : SignValidator := ⟨fun _ _ pub => if pub = "pub-1" then .ok () else .error (.plain "bad key")⟩
    let kmR : KeyManager :=
      ⟨fun _ => .error (.plain "no key set"),
        fun _ kid => if kid = "key-1" then .ok ("pub-1", "enc-1") else .error (.plain "unknown key")⟩
    let h : StdHandler :=
      { steps := [.sign signer km, .addRoute proxyRouter], subscriberID := "bap.example.com", role := .bap,
        moduleName := "bapTxnCaller" }
    let r : Request := { body := .ok [123, 125] }
    let hn : AuthHeaders := ⟨"Authorization", "X-Gateway-Authorization", "WWW-Authenticate"⟩
    ∃ ctx rt r' req target,
      serveHTTP hn h r .empty (fun _ => 0) =
        [.run (.sign signer km), .run (.addRoute proxyRouter), .route ctx rt r'] ∧
      route ctx rt r' h.publisher = [.proxy req target] ∧
      parseHeader (req.header.get hn.subscriber) = .ok ⟨"bap.example.com", "key-1", "ed25519"⟩ ∧
      ∃ body, req.body = .ok body ∧
        (∃ s ∈ h.steps, ∃ signer km, s.signer? = some (signer, km) ∧
          ∃ sub ks created expires sig pub enc,
            req.header.get hn.subscriber = generateAuthHeader sub ks.uniqueKeyID created expires sig ∧
            km.keyset sub = .ok ks ∧ signer.sign body ks.signingPrivate created expires = .ok sig ∧
            parseHeader (req.header.get hn.subscriber) = .ok ⟨sub, ks.uniqueKeyID, "ed25519"⟩ ∧
            kmR.lookupNPKeys sub ks.uniqueKeyID = .ok (pub, enc) ∧
            validator.validate body (req.header.get hn.subscriber) pub = .ok ()) ∧
        ∀ (hR : StdHandler) (rR : Request) (rhR : Header) (clkR : Clock),
          rR.header = req.header → rR.body = req.body →
          ∃ ctxR, stepCtx hR (stampHeaders hR rR) rhR = .ok ctxR ∧
            (Step.validateSign validator kmR).run hn ctxR clkR = (ctxR, none, clkR) := by
  intro signer km validator kmR h r hn
  have hagree : KeysAgree signer km validator kmR := fun sub ks hks => by
    by_cases hsub : sub = "bap.example.com"
    · subst hsub
      cases hks
      exact ⟨by decide, by decide, "pub-1", "enc-1", rfl, fun _ _ _ _ _ => rfl⟩
    · simp only [km, if_neg hsub, reduceCtorEq] at hks
  refine ⟨_, _, _, _, _, rfl, rfl, parseHeader_generateAuthHeader _ _ _ (by decide) (by decide), ?_⟩
  refine @serveHTTP_signature_verifies hn h r .empty (fun _ => 0) validator kmR (by decide) nofun
    (fun s hs => ?_) (fun s hs => ?_) (fun s hs p hp => ?_) ⟨_, List.mem_cons_self _ _, rfl⟩ _ _ _
    (List.mem_cons_of_mem _ (List.mem_cons_of_mem _ (List.mem_singleton_self _))) _ _
    (List.mem_singleton_self _)
  · rcases List.mem_pair.mp hs with rfl | rfl <;> rfl
  · rcases List.mem_pair.mp hs with rfl | rfl
    exacts [trivial, fun _ _ _ => rfl]
  · rcases List.mem_pair.mp hs with rfl | rfl
    · cases hp
      exact hagree
    · cases hp

/-! ## Whom a module signs as -/

/-- Whom a module signs as: the signature header a module of built-in steps with a signing
    step, whose router and workbench leave the request alone, sends through the reverse proxy
    is one `signStep` built for the subscriber id of the request's context or of the module,
    or else for the value of the client's own `subscriber_id` cookie, and the latter only when
    the module has a workbench receive step. -/
theorem serveHTTP_signs_as {hn : AuthHeaders} {h : StdHandler} {r : Request} {rh : Header}
    {clk : Clock} (hname : signHeaderName hn h.role ∉ ["X-Module-Name", "X-Role", "X-Forwarded-Host"])
    (hb : ∀ s ∈ h.steps, s.isBuiltin = true) (hk : ∀ s ∈ h.steps, s.KeepsRequest)
    (hsigns : ∃ s ∈ h.steps, s.signer?.isSome) {ctx : StepContext} {rt : Route} {r' : Request}
    (hev : Event.route ctx rt r' ∈ serveHTTP hn h r rh clk) {req : Request} {target : URL}
    (hp : Dispatch.proxy req target ∈ route ctx rt r' h.publisher) :
    ∃ sub kid created expires sig,
      req.header.get (signHeaderName hn h.role) = generateAuthHeader sub kid created expires sig ∧
      (sub = h.subID r ∨
        r.cookie "subscriber_id" = some sub ∧ ∃ s ∈ h.steps, ∃ w, s.inner = .workbenchReceive w) := by
  simp only [List.mem_cons, List.mem_singleton, List.not_mem_nil, or_false, not_or] at hname
  obtain ⟨hmod, hrole, hfwd⟩ := hname
  obtain ⟨_, ctx', hres, hhdr, -⟩ := serveHTTP_proxy_request hev hp
  let W : String → Prop := fun sub => sub = h.subID r ∨
    r.cookie "subscriber_id" = some sub ∧ ∃ s ∈ h.steps, ∃ w, s.inner = .workbenchReceive w
  obtain ⟨⟨hrole', -, -⟩, -, -, -, -, -, sub, ks, c, e, sig, hW, -, -, hget⟩ :=
    runSteps_ok_establishes hn (SignedBy hn h.steps W)
      (fun c => c.role = h.role ∧ c.request.cookies = r.cookies ∧ W c.subID) h.steps _ clk ctx'
      (fun s hs c k hok ⟨hr, hc, hW⟩ => by
        obtain ⟨hr', hc', hW', hP⟩ := Step.run_ok_signedBy hn (W := W) hs (hb s hs) (hk s hs) hok hW
          fun w v hw hv => .inr ⟨by simpa only [Request.cookie, hc] using hv, s, hs, w, hw⟩
        exact ⟨⟨hr'.trans hr, hc'.trans hc, hW'⟩, hP⟩)
      hres ⟨rfl, rfl, .inl rfl⟩ (.inr hsigns)
  refine ⟨sub, ks.uniqueKeyID, c, e, sig, ?_, hW⟩
  rw [hhdr, Header.get_set_ne _ _ hfwd, Header.get_del_ne _ hrole, Header.get_del_ne _ hmod, ← hget, hrole']

/-- A BAP caller whose workbench receive step reads the client's `subscriber_id` cookie
    before it signs: the request it hands on is signed as the subscriber the cookie names,
    not as the module's own. -/
theorem serveHTTP_signs_as_cookie :
    let wb : OndcWorkbench := ⟨fun r _ => (r, .ok ()), fun r _ => (r, .ok ())⟩
    let signer : Signer := ⟨fun _ priv _ _ => .ok (priv ++ "-sig")⟩
    let km : KeyManager := ⟨fun _ => .ok ⟨"key-1", "priv-1"⟩, fun _ _ => .error (.plain "no lookup")⟩
    let h : StdHandler :=
      { steps := [.workbenchReceive wb, .sign signer km, .addRoute proxyRouter],
        subscriberID := "bap.example.com", role := .bap, moduleName := "bapTxnCaller" }
    let r : Request := { cookies := [("subscriber_id", "other.example.com")], body := .ok [123, 125] }
    let hn : AuthHeaders := ⟨"Authorization", "X-Gateway-Authorization", "WWW-Authenticate"⟩
    ∃ ctx rt r' req target,
      serveHTTP hn h r .empty (fun _ => 0) =
        [.run (.workbenchReceive wb), .run (.sign signer km), .run (.addRoute proxyRouter), .route ctx rt r'] ∧
      route ctx rt r' h.publisher = [.proxy req target] ∧
      req.header.get "Authorization" = generateAuthHeader "other.example.com" "key-1" 0 300 "priv-1-sig" ∧
      ∃ sub kid created expires sig,
        req.header.get (signHeaderName hn h.role) = generateAuthHeader sub kid created expires sig ∧
        (sub = h.subID r ∨
          r.cookie "subscriber_id" = some sub ∧ ∃ s ∈ h.steps, ∃ w, s.inner = .workbenchReceive w) := by
  intro wb signer km h r hn
  refine ⟨_, _, _, _, _, rfl, rfl, rfl, ?_⟩
  have hsteps : ∀ s ∈ h.steps, s = .workbenchReceive wb ∨ s = .sign signer km ∨ s = .addRoute proxyRouter := by
    simp only [h, List.mem_cons, List.mem_singleton, List.not_mem_nil, or_false, imp_self, implies_true]
  exact @serveHTTP_signs_as hn h r .empty (fun _ => 0) (by decide)
    (fun s hs => by rcases hsteps s hs with rfl | rfl | rfl <;> rfl)
    (fun s hs => by
      rcases hsteps s hs with rfl | rfl | rfl
      exacts [fun _ _ => rfl, trivial, fun _ _ _ => rfl])
    ⟨_, List.mem_cons_of_mem _ (List.mem_cons_self _ _), rfl⟩ _ _ _
    (List.mem_cons_of_mem _ (List.mem_cons_of_mem _ (List.mem_cons_of_mem _ (List.mem_singleton_self _))))
    _ _ (List.mem_singleton_self _)

end BecknOnix.Handler
