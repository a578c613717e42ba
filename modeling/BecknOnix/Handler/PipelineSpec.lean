/-
  BecknOnix.Handler.PipelineSpec

  The pipeline law: a handler that `NewStdHandler` built runs, for every request whose
  body can be read, the steps built from `cfg.Steps` in the configured order, each at
  most once; at the first step that returns an error it stops, calls `SendNack` once
  with that error and the response headers the steps left, and dispatches nothing; when
  every step succeeds it ACKs a final context without a route, and otherwise routes it
  with the body restored from `ctx.Body` and the internal headers deleted.

  `registerSteps_ok` says what the building loop produced, `runSteps_first_error` and
  `runSteps_all_ok` what the serving loop did, each by induction on its list;
  `serveHTTP_nack_after_run` names the step whose error a NACK answers.
-/
import BecknOnix.Handler.Serve

namespace BecknOnix.Handler

open BecknOnix.Go

/-! ## Building the steps -/

/-- The step at a position of `h.steps` was built from the configured name there: the
    step `buildStep` gives for the name, raw or in the decorator. -/
def BuiltFrom (h : StdHandler) (custom : String → Option Step) (name : String) (s : Step) : Prop :=
  ∃ b, buildStep h custom name = .ok b ∧ (s = b ∨ s = .instrumented name h.moduleName b)

/-- The building loop appends one step per configured name, in order. -/
theorem registerSteps_ok {h : StdHandler} {custom : String → Option Step}
    {wrapErr : String → Option GoError} :
    ∀ {names : List String} {acc steps : List Step},
      registerSteps h custom wrapErr names acc = .ok steps →
      ∃ built, steps = acc ++ built ∧ List.Forall₂ (BuiltFrom h custom) names built
  | [], acc, steps, hreg => ⟨[], by simpa [registerSteps] using hreg.symm, .nil⟩
  | name :: rest, acc, steps, hreg => by
    simp only [registerSteps] at hreg
    cases hb : buildStep h custom name with
    | error err => simp [hb] at hreg
    | ok s =>
      rw [hb] at hreg
      cases hw : wrapErr name with
      | some err =>
        simp only [newInstrumentedStep, hw] at hreg
        obtain ⟨built, rfl, hall⟩ := registerSteps_ok hreg
        exact ⟨s :: built, by simp, .cons ⟨s, hb, .inl rfl⟩ hall⟩
      | none =>
        simp only [newInstrumentedStep, hw] at hreg
        obtain ⟨built, rfl, hall⟩ := registerSteps_ok hreg
        exact ⟨_ :: built, by simp, .cons ⟨s, hb, .inr rfl⟩ hall⟩

/-- A computation in `Except` that succeeds went through every `←` of it with a value. -/
theorem bind_eq_ok {ε α β : Type} {x : Except ε α} {f : α → Except ε β} {b : β}
    (h : x >>= f = .ok b) : ∃ a, x = .ok a ∧ f a = .ok b := by
  cases x with
  | error e => cases h
  | ok a => exact ⟨a, rfl, h⟩

/-- `initPlugins` sets only the plugin fields. -/
theorem initPlugins_frame {h h' : StdHandler} {mgr : PluginManager} {cfg : PluginCfg}
    (hp : initPlugins h mgr cfg = .ok h') :
    h'.steps = h.steps ∧ h'.moduleName = h.moduleName ∧ h'.role = h.role ∧
      h'.subscriberID = h.subscriberID := by
  unfold initPlugins at hp
  repeat obtain ⟨_, -, hp⟩ := bind_eq_ok hp
  cases hp
  exact ⟨rfl, rfl, rfl, rfl⟩

/-- `NewStdHandler` succeeds only with plugins from `initPlugins`, a custom-step map from
    the step plugins, and one step per configured name, built from it in order. -/
theorem newStdHandler_ok {mgr : PluginManager} {cfg : Config} {moduleName : String}
    {wrapErr : String → Option GoError} {h : StdHandler}
    (hnew : newStdHandler mgr cfg moduleName wrapErr = .ok h) :
    ∃ h₁ custom, initPlugins { subscriberID := cfg.subscriberID, role := cfg.role, moduleName }
        mgr cfg.plugins = .ok h₁ ∧
      loadStepPlugins mgr cfg.plugins.steps (fun _ => none) = .ok custom ∧
      h = { h₁ with steps := h.steps } ∧ List.Forall₂ (BuiltFrom h₁ custom) cfg.steps h.steps := by
  unfold newStdHandler at hnew
  cases hp : initPlugins { subscriberID := cfg.subscriberID, role := cfg.role, moduleName } mgr cfg.plugins with
  | error err => simp [hp] at hnew
  | ok h₁ =>
    cases hi : initSteps h₁ mgr cfg wrapErr with
    | error err => simp [hp, hi] at hnew
    | ok h₂ =>
      simp only [hp, hi, Except.ok.injEq] at hnew
      subst hnew
      obtain ⟨custom, hc, hi⟩ := bind_eq_ok hi
      obtain ⟨steps, hr, hi⟩ := bind_eq_ok hi
      cases hi
      obtain ⟨built, hb, hall⟩ := registerSteps_ok hr
      rw [(initPlugins_frame hp).1, List.nil_append] at hb
      subst hb
      exact ⟨h₁, custom, rfl, hc, rfl, hall⟩

/-! ## Running the steps -/

section Run

variable (hn : AuthHeaders)

/-- The context and clock before step `j` of the loop, every earlier step having
    succeeded. -/
def stateBefore (steps : List Step) (ctx : StepContext) (clk : Clock) (j : Nat) : StepContext × Clock :=
  (steps.take j).foldl (fun st s => ((s.run hn st.1 st.2).1, (s.run hn st.1 st.2).2.2)) (ctx, clk)

/-- What step `j` returns when it runs on `stateBefore j` (`none` past the end). -/
def stepError (steps : List Step) (ctx : StepContext) (clk : Clock) (j : Nat) : Option GoError :=
  match steps[j]? with
  | none => none
  | some s => (s.run hn (stateBefore hn steps ctx clk j).1 (stateBefore hn steps ctx clk j).2).2.1

@[simp] theorem stateBefore_zero (steps : List Step) (ctx : StepContext) (clk : Clock) :
    stateBefore hn steps ctx clk 0 = (ctx, clk) := by
  simp [stateBefore]

@[simp] theorem stateBefore_cons_succ (s : Step) (steps : List Step) (ctx : StepContext) (clk : Clock)
    (j : Nat) :
    stateBefore hn (s :: steps) ctx clk (j + 1) =
      stateBefore hn steps (s.run hn ctx clk).1 (s.run hn ctx clk).2.2 j := by
  simp [stateBefore]

@[simp] theorem stepError_cons_zero (s : Step) (steps : List Step) (ctx : StepContext) (clk : Clock) :
    stepError hn (s :: steps) ctx clk 0 = (s.run hn ctx clk).2.1 := by
  simp [stepError]

@[simp] theorem stepError_cons_succ (s : Step) (steps : List Step) (ctx : StepContext) (clk : Clock)
    (j : Nat) :
    stepError hn (s :: steps) ctx clk (j + 1) =
      stepError hn steps (s.run hn ctx clk).1 (s.run hn ctx clk).2.2 j := by
  simp [stepError]

/-- The loop stops at the first failing step: it has run exactly the steps up to it, and
    hands back its error and the context it left. -/
theorem runSteps_first_error :
    ∀ {steps : List Step} {ctx : StepContext} {clk : Clock} {i : Nat} {e : GoError},
      (∀ j < i, stepError hn steps ctx clk j = none) → stepError hn steps ctx clk i = some e →
      runSteps hn steps ctx clk =
        ((steps.take (i + 1)).map .run, .error (e, (stateBefore hn steps ctx clk (i + 1)).1))
  | [], _, _, i, _, _, herr => by cases i <;> simp [stepError] at herr
  | s :: steps, ctx, clk, 0, e, _, herr => by
    simp only [stepError_cons_zero] at herr
    simp [runSteps, herr, stateBefore]
  | s :: steps, ctx, clk, i + 1, e, hok, herr => by
    have h0 : (s.run hn ctx clk).2.1 = none := by simpa using hok 0 (Nat.succ_pos i)
    have ih := @runSteps_first_error steps _ _ i e
      (fun j hj => by simpa using hok (j + 1) (Nat.succ_lt_succ hj)) (by simpa using herr)
    simp [runSteps, h0, ih]

/-- When every step succeeds, the loop has run them all, in order, and hands back the
    context after the last. -/
theorem runSteps_all_ok :
    ∀ {steps : List Step} {ctx : StepContext} {clk : Clock},
      (∀ j < steps.length, stepError hn steps ctx clk j = none) →
      runSteps hn steps ctx clk = (steps.map .run, .ok (stateBefore hn steps ctx clk steps.length).1)
  | [], _, _, _ => by simp [runSteps]
  | s :: steps, ctx, clk, hok => by
    have h0 : (s.run hn ctx clk).2.1 = none := by simpa using hok 0 (Nat.succ_pos _)
    have ih := @runSteps_all_ok steps _ _
      (fun j hj => by simpa using hok (j + 1) (Nat.succ_lt_succ hj))
    simp [runSteps, h0, ih]

/-- A loop that fails ends with the run of the failing step, on the context and clock the
    steps before it left: the step returned the error and the context the loop hands
    back. -/
theorem runSteps_error_last :
    ∀ (steps : List Step) ctx clk {evs : List Event} {e : GoError} {ctx' : StepContext},
      runSteps hn steps ctx clk = (evs, .error (e, ctx')) →
      ∃ pre s, evs = pre ++ [.run s] ∧
        (s.run hn (stateBefore hn steps ctx clk pre.length).1 (stateBefore hn steps ctx clk pre.length).2).1 =
          ctx' ∧
        (s.run hn (stateBefore hn steps ctx clk pre.length).1 (stateBefore hn steps ctx clk pre.length).2).2.1 =
          some e
  | [], _, _, _, _, _, h => by simp [runSteps] at h
  | s :: rest, ctx, clk, evs, e, ctx', h => by
    simp only [runSteps] at h
    split at h
    · rename_i e' hs
      obtain ⟨rfl, he⟩ := Prod.mk.inj h
      obtain ⟨rfl, rfl⟩ := Prod.mk.inj (Except.error.inj he)
      exact ⟨[], s, rfl, by simp, by simpa using hs⟩
    · obtain ⟨rfl, he⟩ := Prod.mk.inj h
      obtain ⟨pre, s', hevs, h1, h2⟩ := runSteps_error_last rest _ _ (Prod.ext rfl he)
      exact ⟨.run s :: pre, s', congrArg (.run s :: ·) hevs, by simpa using h1, by simpa using h2⟩

end Run

/-- A NACK that follows a step run in `ServeHTTP` answers the error that step returned on the
    context and clock the steps before it left, with the response headers it left. -/
theorem serveHTTP_nack_after_run {hn : AuthHeaders} {h : StdHandler} {r : Request} {rh : Header}
    {clk : Clock} {evs : List Event} {s : Step} {err : GoError} {hdr : Header}
    (hrun : serveHTTP hn h r rh clk = evs ++ [.run s, .sendNack err hdr]) :
    ∃ ctx₀, stepCtx h (stampHeaders h r) rh = .ok ctx₀ ∧
      (s.run hn (stateBefore hn h.steps ctx₀ clk evs.length).1
        (stateBefore hn h.steps ctx₀ clk evs.length).2).2.1 = some err ∧
      (s.run hn (stateBefore hn h.steps ctx₀ clk evs.length).1
        (stateBefore hn h.steps ctx₀ clk evs.length).2).1.respHeader = hdr := by
  rw [show evs ++ [.run s, .sendNack err hdr] = (evs ++ [.run s]) ++ [.sendNack err hdr] by simp] at hrun
  unfold serveHTTP at hrun
  cases hctx : stepCtx h (stampHeaders h r) rh with
  | error e =>
    have hlen := congrArg List.length hrun
    simp only [hctx, List.length_singleton, List.length_append, List.length_cons, List.length_nil] at hlen
    omega
  | ok ctx₀ =>
    simp only [hctx] at hrun
    rcases hres : runSteps hn h.steps ctx₀ clk with ⟨evsR, ⟨e, ctx'⟩ | ctx'⟩ <;>
      simp only [hres] at hrun <;>
      obtain ⟨hpre, hlast⟩ := List.append_inj' hrun rfl
    · obtain ⟨pre, s', rfl, h1, h2⟩ := runSteps_error_last hn _ _ _ hres
      obtain ⟨hpre', hs⟩ := List.append_inj' hpre rfl
      simp only [List.cons.injEq, Event.run.injEq, Event.sendNack.injEq, and_true] at hs hlast
      obtain ⟨rfl, rfl⟩ := hlast
      subst hs hpre'
      exact ⟨ctx₀, rfl, h2, congrArg StepContext.respHeader h1⟩
    · simp only [List.cons.injEq, and_true] at hlast
      unfold dispatchEvent at hlast
      split at hlast <;> cases hlast

/-! ## The pipeline law -/

/-- `buildStep` reads the plugins and the module name, not the step list. -/
theorem builtFrom_with_steps (h : StdHandler) (ss : List Step) (custom : String → Option Step) :
    BuiltFrom { h with steps := ss } custom = BuiltFrom h custom := rfl

/-- `stepCtx` of a request whose body reads to `body`. -/
theorem stepCtx_ok {h : StdHandler} {r : Request} {rh : Header} {body : List UInt8}
    (hbody : r.body = .ok body) :
    ∃ ctx₀, stepCtx h r rh = .ok ctx₀ ∧ ctx₀.body = body ∧ ctx₀.respHeader = rh := by
  simp only [stepCtx, hbody]
  exact ⟨_, rfl, rfl, rfl⟩

/-- The pipeline law (module doc): the steps are built from `cfg.Steps` in order; the loop
    runs them in that order up to the first failing one, which ends the request with one
    `SendNack` of its error carrying the response headers the steps left; when none fails,
    the request is ACKed when the final context has no route, and otherwise routed on that
    context with the body restored from `ctx.Body` and the internal headers deleted. -/
theorem serveHTTP_pipeline (hn : AuthHeaders) (mgr : PluginManager) (cfg : Config)
    (moduleName : String) (wrapErr : String → Option GoError) (h : StdHandler) (r : Request)
    (rh : Header) (clk : Clock) (body : List UInt8)
    (hnew : newStdHandler mgr cfg moduleName wrapErr = .ok h) (hbody : r.body = .ok body) :
    (∃ custom, loadStepPlugins mgr cfg.plugins.steps (fun _ => none) = .ok custom ∧
      h.moduleName = moduleName ∧ List.Forall₂ (BuiltFrom h custom) cfg.steps h.steps) ∧
    ∃ ctx₀, stepCtx h (stampHeaders h r) rh = .ok ctx₀ ∧ ctx₀.body = body ∧ ctx₀.respHeader = rh ∧
      (∀ i e, (∀ j < i, stepError hn h.steps ctx₀ clk j = none) →
        stepError hn h.steps ctx₀ clk i = some e →
        serveHTTP hn h r rh clk = (h.steps.take (i + 1)).map .run ++
          [.sendNack e (stateBefore hn h.steps ctx₀ clk (i + 1)).1.respHeader]) ∧
      ((∀ j < h.steps.length, stepError hn h.steps ctx₀ clk j = none) →
        let ctx' := (stateBefore hn h.steps ctx₀ clk h.steps.length).1
        (ctx'.route = none → serveHTTP hn h r rh clk = h.steps.map .run ++ [.sendAck ctx'.respHeader]) ∧
        ∀ rt, ctx'.route = some rt →
          let r' := { ctx'.request with body := .ok ctx'.body,
                                        header := (ctx'.request.header.del "X-Module-Name").del "X-Role" }
          serveHTTP hn h r rh clk = h.steps.map .run ++ [.route { ctx' with request := r' } rt r']) := by
  obtain ⟨h₁, custom, hp, hc, hh, hall⟩ := newStdHandler_ok hnew
  have hname : h.moduleName = moduleName := by rw [hh]; exact (initPlugins_frame hp).2.1
  refine ⟨⟨custom, hc, hname, by rwa [hh, builtFrom_with_steps, ← hh]⟩, ?_⟩
  obtain ⟨ctx₀, hctx, hb, hrh⟩ := @stepCtx_ok h (stampHeaders h r) rh body hbody
  refine ⟨ctx₀, hctx, hb, hrh, fun i e hok herr => ?_, fun hok => ?_⟩
  · simp [serveHTTP, hctx, runSteps_first_error hn hok herr]
  · refine ⟨fun hr => ?_, fun rt hr => ?_⟩ <;> simp [serveHTTP, hctx, runSteps_all_ok hn hok, dispatchEvent, hr]

/-- A plugin manager whose loaders all fail. -/
def emptyMgr : PluginManager where
  cache _ := .error (.plain "no cache")
  registry _ := .error (.plain "no registry")
  keyManager _ _ _ := .error (.plain "no key manager")
  signValidator _ := .error (.plain "no sign validator")
  schemaValidator _ := .error (.plain "no schema validator")
  router _ := .error (.plain "no router")
  publisher _ := .error (.plain "no publisher")
  signer _ := .error (.plain "no signer")
  transportWrapper _ := .error (.plain "no transport wrapper")
  ondcValidator _ _ := .error (.plain "no ondc validator")
  ondcWorkbench _ _ := .error (.plain "no ondc workbench")
  step _ := .error (.plain "no step plugin")

/-- A plugin manager that loads only a schema validator, which rejects every payload. -/
def schemaOnlyMgr : PluginManager :=
  { emptyMgr with schemaValidator := fun _ => .ok ⟨fun _ _ => .error (.plain "schema mismatch")⟩ }

/-- A BAP module configured with the schema validator and the one step `validateSchema`. -/
def schemaOnlyCfg : Config :=
  { subscriberID := "bap.example.com", role := .bap,
    plugins := { schemaValidator := some ⟨"schemavalidator", []⟩ }, steps := ["validateSchema"] }

/-- The law on a module whose one step is `validateSchema`. -/
theorem serveHTTP_pipeline_schemaOnly :
    let hn : AuthHeaders := ⟨"Authorization", "X-Gateway-Authorization", "WWW-Authenticate"⟩
    let r : Request := { body := .ok [123, 125] }
    ∃ h, newStdHandler schemaOnlyMgr schemaOnlyCfg "bapTxnReceiver" (fun _ => none) = .ok h ∧
      r.body = .ok [123, 125] ∧
      ((∃ custom, loadStepPlugins schemaOnlyMgr schemaOnlyCfg.plugins.steps (fun _ => none) = .ok custom ∧
        h.moduleName = "bapTxnReceiver" ∧
        List.Forall₂ (BuiltFrom h custom) schemaOnlyCfg.steps h.steps) ∧
      ∃ ctx₀, stepCtx h (stampHeaders h r) .empty = .ok ctx₀ ∧ ctx₀.body = [123, 125] ∧
        ctx₀.respHeader = .empty ∧
        (∀ i e, (∀ j < i, stepError hn h.steps ctx₀ (fun _ => 0) j = none) →
          stepError hn h.steps ctx₀ (fun _ => 0) i = some e →
          serveHTTP hn h r .empty (fun _ => 0) = (h.steps.take (i + 1)).map .run ++
            [.sendNack e (stateBefore hn h.steps ctx₀ (fun _ => 0) (i + 1)).1.respHeader]) ∧
        ((∀ j < h.steps.length, stepError hn h.steps ctx₀ (fun _ => 0) j = none) →
          let ctx' := (stateBefore hn h.steps ctx₀ (fun _ => 0) h.steps.length).1
          (ctx'.route = none → serveHTTP hn h r .empty (fun _ => 0) = h.steps.map .run ++ [.sendAck ctx'.respHeader]) ∧
          ∀ rt, ctx'.route = some rt →
            let r' := { ctx'.request with body := .ok ctx'.body,
                                          header := (ctx'.request.header.del "X-Module-Name").del "X-Role" }
            serveHTTP hn h r .empty (fun _ => 0) = h.steps.map .run ++ [.route { ctx' with request := r' } rt r'])) :=
  ⟨_, rfl, rfl, serveHTTP_pipeline _ schemaOnlyMgr schemaOnlyCfg "bapTxnReceiver" (fun _ => none) _
    { body := .ok [123, 125] } .empty (fun _ => 0) [123, 125] rfl rfl⟩

end BecknOnix.Handler
