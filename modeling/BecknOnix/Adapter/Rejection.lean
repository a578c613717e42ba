/-
  BecknOnix.Adapter.Rejection

  What the client is answered when a step rejects a request: the plugin or the step's
  own check, the step's error, `ServeHTTP`'s loop and `SendNack`'s choice of status,
  together.

  * The `validateSchema` step, running the schema validator plugin: a payload that
    reached its schema and broke it gets a 200 NACK whose error lists the causes; a
    schema that failed otherwise gives a 500 with the internal-server-error body; a
    payload that never reached a schema gets a 400 NACK of its bad request
    (`validateSchema_answer`).
  * The `validateSignStep`, wrapped or not: `ServeHTTP` answers its rejection with one
    401 NACK of the `SignValidationErr`, and the response headers carry the challenge
    naming the subscriber id of the context the step ran on
    (`serveHTTP_signature_rejected`).
-/
import BecknOnix.SchemaValidator.Validate
import BecknOnix.Handler.HeaderSpec
import BecknOnix.Response.SendNackSpec

namespace BecknOnix.Adapter

open BecknOnix.Go

/-! ## Schema rejections -/

/-- The schema validator plugin as the handler's `SchemaValidator` capability: its
    `Validate` method. -/
def schemaValidatorPlugin (unicodeToLower : Char → Char) {J : Type} (parse : List UInt8 → Except String J)
    (contextOf : J → Except String SchemaValidator.PayloadContext)
    (lookup : String → Except GoError SchemaValidator.Schema)
    (check : SchemaValidator.Schema → J → SchemaValidator.CheckResult) : Handler.SchemaValidator :=
  ⟨SchemaValidator.validate unicodeToLower parse contextOf lookup check⟩

/-- The error a delegating step returns is its call's error, wrapped with `%w`. -/
theorem delegateRun_snd {call : Except GoError Unit} {format : String} {ctx : Handler.StepContext}
    {e : GoError} (h : (Handler.delegateRun call format ctx).2 = some e) :
    ∃ err, call = .error err ∧ e = .wrap format [err] := by
  cases call with
  | error err => exact ⟨err, rfl, (Option.some.inj h).symm⟩
  | ok u => cases h

/-- How `SendNack` answers the `validateSchema` step's error: a payload that reached its
    schema and broke it gets a 200 NACK carrying each cause, its path joined by `.` and its
    message; a schema that failed otherwise gives a 500 with the internal-server-error
    body; a payload that never reached a schema (it does not parse, its context lacks a
    domain or a version, no schema is filed for its key, or the schema does not compile)
    gets a 400 NACK of the bad request. -/
theorem validateSchema_answer (unicodeToLower : Char → Char) {J : Type} (parse : List UInt8 → Except String J)
    (contextOf : J → Except String SchemaValidator.PayloadContext)
    (lookup : String → Except GoError SchemaValidator.Schema)
    (check : SchemaValidator.Schema → J → SchemaValidator.CheckResult)
    (bk : GoError → ModelError) (msgID : Option String) (ctx : Handler.StepContext) {e : GoError}
    (he : (Handler.validateSchemaRun (schemaValidatorPlugin unicodeToLower parse contextOf lookup check) ctx).2 =
      some e) :
    (∀ j schema, SchemaValidator.Checked unicodeToLower parse contextOf lookup ctx.request.url ctx.body j schema →
      (∀ causes, check schema j = .invalid causes →
        Encoder.sendNack bk msgID e =
          Encoder.nack (bk (.schemaValidation (causes.map SchemaValidator.Cause.toModelError))) 200) ∧
      (∀ err, check schema j = .failed err →
        Encoder.sendNack bk msgID e = Encoder.nack (Encoder.internalServerError msgID) 500)) ∧
    ((∀ j schema, ¬ SchemaValidator.Checked unicodeToLower parse contextOf lookup ctx.request.url ctx.body j schema) →
      ∃ cause, Encoder.sendNack bk msgID e = Encoder.nack (bk (.badReq cause)) 400) := by
  obtain ⟨err, hv, rfl⟩ := delegateRun_snd he
  refine ⟨fun j schema hc => ⟨fun causes hcheck => ?_, fun msg hcheck => ?_⟩, fun hnot => ?_⟩
  · have := SchemaValidator.validate_checked unicodeToLower parse contextOf lookup check hc
    rw [hcheck] at this
    rw [show err = _ from Except.error.inj (hv.symm.trans this)]
    rfl
  · have := SchemaValidator.validate_checked unicodeToLower parse contextOf lookup check hc
    rw [hcheck] at this
    rw [show err = _ from Except.error.inj (hv.symm.trans this)]
    rfl
  · obtain ⟨cause, hcause⟩ := SchemaValidator.validate_unchecked unicodeToLower parse contextOf lookup check hnot
    rw [show err = _ from Except.error.inj (hv.symm.trans hcause)]
    exact ⟨cause, rfl⟩

/-- A `search` payload of domain `ONDC:TRV10` whose schema finds `message.intent`
    missing: the step fails, and the answer is the one the theorem gives. -/
theorem validateSchema_answer_intent :
    let parse : List UInt8 → Except String Unit := fun _ => .ok ()
    let contextOf : Unit → Except String SchemaValidator.PayloadContext :=
      fun _ => .ok { domain := "ONDC:TRV10", version := "2.0.0" }
    let lookup : String → Except GoError SchemaValidator.Schema := fun _ => .ok 0
    let check : SchemaValidator.Schema → Unit → SchemaValidator.CheckResult :=
      fun _ _ => .invalid [⟨["message", "intent"], "missing property"⟩]
    let bk : GoError → ModelError := fun _ => ⟨"30000", "schema error", "", none⟩
    let ctx : Handler.StepContext :=
      ⟨{ url := "https://bpp.example.com/search" }, [123, 125], .bpp, "bpp.example.com", .empty, none⟩
    ∃ e, (Handler.validateSchemaRun (schemaValidatorPlugin Char.toLower parse contextOf lookup check) ctx).2 =
      some e ∧
    (∀ j schema, SchemaValidator.Checked Char.toLower parse contextOf lookup ctx.request.url ctx.body j schema →
      (∀ causes, check schema j = .invalid causes →
        Encoder.sendNack bk none e =
          Encoder.nack (bk (.schemaValidation (causes.map SchemaValidator.Cause.toModelError))) 200) ∧
      (∀ err, check schema j = .failed err →
        Encoder.sendNack bk none e = Encoder.nack (Encoder.internalServerError none) 500)) ∧
    ((∀ j schema, ¬ SchemaValidator.Checked Char.toLower parse contextOf lookup ctx.request.url ctx.body j schema) →
      ∃ cause, Encoder.sendNack bk none e = Encoder.nack (bk (.badReq cause)) 400) :=
  ⟨_, rfl, validateSchema_answer Char.toLower _ _ _ _ _ none _ rfl⟩

/-! ## Signature rejections -/

/-- A rejection of `validateHeaders` is a `SignValidationErr`, and it sets the challenge on
    the response headers. -/
theorem validateHeaders_rejects {v : Handler.SignValidator} {km : Handler.KeyManager}
    {hn : Handler.AuthHeaders} {ctx : Handler.StepContext} {e : GoError}
    (h : (Handler.validateHeaders v km hn ctx).2 = some e) :
    (∃ inner, e = .signValidation inner) ∧ (Handler.validateHeaders v km hn ctx).1.respHeader =
      ctx.respHeader.set hn.unauthorizedGateway (Handler.unauthHeader ctx.subID) := by
  unfold Handler.validateHeaders at h ⊢
  cases hv : Handler.validate v km ctx (ctx.request.header.get hn.subscriber) with
  | none => simp only [hv, ite_self, reduceCtorEq] at h
  | some err =>
    simp only [hv] at h ⊢
    split_ifs at h ⊢
    cases h
    exact ⟨⟨_, rfl⟩, rfl⟩

/-- `ServeHTTP` answers a request the `validateSignStep` rejects, wrapped in the
    instrumentation or not, with one 401 NACK of the step's `SignValidationErr`, and the
    response headers it writes carry the challenge
    `Signature realm="<subscriber>",headers="(created) (expires) digest"`, whose realm is the
    subscriber id of the context the step ran on. -/
theorem serveHTTP_signature_rejected {hn : Handler.AuthHeaders} {h : Handler.StdHandler}
    {r : Handler.Request} {rh : Handler.Header} {clk : Handler.Clock} {evs : List Handler.Event}
    {s : Handler.Step} {v : Handler.SignValidator} {km : Handler.KeyManager} {err : GoError}
    {hdr : Handler.Header} (hs : s.inner = .validateSign v km)
    (hrun : Handler.serveHTTP hn h r rh clk = evs ++ [.run s, .sendNack err hdr])
    (bk : GoError → ModelError) (msgID : Option String) :
    ∃ ctx₀, Handler.stepCtx h (Handler.stampHeaders h r) rh = .ok ctx₀ ∧
      ∃ inner, err = .signValidation inner ∧
        hdr.get hn.unauthorizedGateway =
          Handler.unauthHeader (Handler.stateBefore hn h.steps ctx₀ clk evs.length).1.subID ∧
        Encoder.sendNack bk msgID err = Encoder.nack (bk err) 401 := by
  obtain ⟨ctx₀, hctx, herr, hhdr⟩ := Handler.serveHTTP_nack_after_run hrun
  obtain ⟨clk', h1, h2⟩ := Handler.Step.run_inner hn s (Handler.stateBefore hn h.steps ctx₀ clk evs.length).1
    (Handler.stateBefore hn h.steps ctx₀ clk evs.length).2
  rw [hs] at h1 h2
  simp only [Handler.Step.run, Handler.withClock] at h1 h2
  rw [h2] at herr
  obtain ⟨⟨inner, rfl⟩, hrh⟩ := validateHeaders_rejects herr
  exact ⟨ctx₀, hctx, inner, rfl, by rw [← hhdr, h1, hrh, Handler.Header.get_set_self], rfl⟩

/-- A receiver whose one step validates signatures, and a request whose `Authorization`
    header has no `keyId`: the answer is a 401 NACK whose challenge names the module's
    subscriber id. -/
theorem serveHTTP_signature_rejected_garbled :
    let v : Handler.SignValidator := ⟨fun _ _ _ => .ok ()⟩
    let km : Handler.KeyManager := ⟨fun _ => .error (.plain "no key set"), fun _ _ => .ok ("pub-1", "enc-1")⟩
    let h : Handler.StdHandler :=
      { steps := [.validateSign v km], subscriberID := "bpp.example.com", role := .bpp,
        moduleName := "bppTxnReceiver" }
    let r : Handler.Request := { header := ⟨[("Authorization", "Signature garbled")]⟩, body := .ok [123, 125] }
    let hn : Handler.AuthHeaders := ⟨"Authorization", "X-Gateway-Authorization", "WWW-Authenticate"⟩
    let bk : GoError → ModelError := fun _ => ⟨"10001", "invalid signature", "", none⟩
    ∃ err hdr, Handler.serveHTTP hn h r .empty (fun _ => 0) = [] ++ [.run (.validateSign v km), .sendNack err hdr] ∧
      hdr.get hn.unauthorizedGateway = Handler.unauthHeader "bpp.example.com" ∧
      ∃ ctx₀, Handler.stepCtx h (Handler.stampHeaders h r) .empty = .ok ctx₀ ∧
        ∃ inner, err = .signValidation inner ∧
          hdr.get hn.unauthorizedGateway =
            Handler.unauthHeader (Handler.stateBefore hn h.steps ctx₀ (fun _ => 0) ([] : List Handler.Event).length).1.subID ∧
          Encoder.sendNack bk none err = Encoder.nack (bk err) 401 := by
  intro v km h r hn bk
  exact ⟨_, _, rfl, rfl, @serveHTTP_signature_rejected hn h r .empty (fun _ => 0) [] (.validateSign v km) v km _ _
    rfl rfl bk none⟩

end BecknOnix.Adapter
