/-
  BecknOnix.Handler.StepSpec

  What the signing and the signature-validating steps do, for every context, plugin
  answer and clock.

  * `signRun_ok`: a `signStep.Run` that returns `nil` read two clock values, got a key
    set and a signature, and set exactly one header, chosen by the role.
  * The signature window: `validTill - createdAt` is `300` plus the number of second
    boundaries between the two clock readings, so it is `301` when a second boundary
    falls between them.
  * `validateHeaders` accepts exactly the requests that skip validation by cookie, that
    carry no subscriber auth header, or whose header parses, resolves to a key and
    validates; every rejection is a `SignValidationErr` with the challenge header set.
-/
import BecknOnix.Handler.Step

namespace BecknOnix.Handler

open BecknOnix.Go

/-! ## `signStep` -/

/-- The header name `signStep` writes for a role. -/
def signHeaderName (hn : AuthHeaders) (role : Role) : String :=
  if role = .gateway then hn.gateway else hn.subscriber

/-- `createdAt` and `validTill` as `signStep.Run` computes them from its two clock
    readings. -/
def signTimes (clk : Clock) : Int × Int := (unix clk.head, unix (clk.tail.head + fiveMinutes))

/-- A successful `signStep.Run`: the key set, the signature over the body with the two
    timestamps, and the one header it sets. -/
theorem signRun_ok {signer : Signer} {km : KeyManager} {hn : AuthHeaders} {ctx : StepContext}
    {clk : Clock} (h : (signRun signer km hn ctx clk).2.1 = none) :
    ∃ ks sig, ctx.subID ≠ "" ∧ km.keyset ctx.subID = .ok ks ∧
      signer.sign ctx.body ks.signingPrivate (signTimes clk).1 (signTimes clk).2 = .ok sig ∧
      (signRun signer km hn ctx clk).1 = { ctx with request := { ctx.request with
        header := ctx.request.header.set (signHeaderName hn ctx.role)
          (generateAuthHeader ctx.subID ks.uniqueKeyID (signTimes clk).1 (signTimes clk).2 sig) } } := by
  have hsub : ¬ ctx.subID.length = 0 := fun e => by simp only [signRun, e, if_true, reduceCtorEq] at h
  cases hks : km.keyset ctx.subID with
  | error err => simp only [signRun, hsub, if_false, hks, reduceCtorEq] at h
  | ok ks =>
    cases hsig : signer.sign ctx.body ks.signingPrivate (unix clk.head)
        (unix (clk.tail.head + fiveMinutes)) with
    | error err => simp only [signRun, hsub, if_false, hks, hsig, reduceCtorEq] at h
    | ok sig =>
      refine ⟨ks, sig, fun e => hsub (by rw [e]; rfl), rfl, hsig, ?_⟩
      simp only [signRun, hsub, if_false, hks, hsig, signHeaderName, signTimes]

/-- Adding five minutes adds exactly 300 to the Unix seconds. -/
theorem unix_add_fiveMinutes (t : Int) : unix (t + fiveMinutes) = unix t + 300 := by
  unfold unix fiveMinutes
  omega

/-- The window `signStep` signs: `validTill - createdAt` is 300 plus the whole seconds
    between the two clock readings. -/
theorem signTimes_window (clk : Clock) :
    (signTimes clk).2 - (signTimes clk).1 = 300 + (unix clk.tail.head - unix clk.head) := by
  simp only [signTimes, unix_add_fiveMinutes]
  omega

/-- Two readings a nanosecond apart across a second boundary. -/
def boundaryClock : Clock := fun n => if n = 0 then 999999999 else 1000000000

/-- At the second boundary `signStep.Run` signs and writes `created="0"` and
    `expires="301"`: the window is 301 seconds. -/
theorem signRun_boundary_window (hn : AuthHeaders) :
    signTimes boundaryClock = (0, 301) ∧
    ((signRun ⟨fun _ _ _ _ => .ok "sig"⟩ ⟨fun _ => .ok ⟨"k1", "priv"⟩, fun _ _ => .ok ("", "")⟩ hn
        { request := {}, body := [], role := .bap, subID := "bap.example.com", respHeader := .empty }
        boundaryClock).1.request.header.get hn.subscriber =
      generateAuthHeader "bap.example.com" "k1" 0 301 "sig") := by
  have hc : (signTimes boundaryClock).1 = 0 := by decide
  have hstep : unix boundaryClock.tail.head - unix boundaryClock.head = 1 := by decide
  have ht : signTimes boundaryClock = (0, 301) := by
    have hw := signTimes_window boundaryClock
    rw [hstep, hc] at hw
    exact Prod.ext hc (by omega)
  refine ⟨ht, ?_⟩
  simp only [signTimes, Prod.mk.injEq] at ht
  have hlen : ¬ "bap.example.com".length = 0 := by decide
  simp only [signRun, hlen, if_false, ht.1, ht.2, reduceCtorEq, Header.get_set_self]

/-! ## From `signStep` to `validateSignStep` -/

/-- The header a successful `signStep.Run` writes for a non-gateway role, as the
    validating step reads it back. -/
theorem signRun_header_get {signer : Signer} {km : KeyManager} {hn : AuthHeaders}
    {ctx : StepContext} {clk : Clock} {ks : Keyset} {sig : String}
    (hrole : ctx.role ≠ .gateway)
    (hrun : (signRun signer km hn ctx clk).1 = { ctx with request := { ctx.request with
      header := ctx.request.header.set (signHeaderName hn ctx.role)
        (generateAuthHeader ctx.subID ks.uniqueKeyID (signTimes clk).1 (signTimes clk).2 sig) } }) :
    (signRun signer km hn ctx clk).1.request.header.get hn.subscriber =
      generateAuthHeader ctx.subID ks.uniqueKeyID (signTimes clk).1 (signTimes clk).2 sig := by
  rw [hrun, signHeaderName, if_neg hrole]
  exact Header.get_set_self _ _ _

/-- The auth-header round trip, and through it the sign/validate agreement: the header a
    successful `signStep.Run` sets for a non-gateway role makes `validateSignStep.validate`
    look up exactly the subscriber id and key id that were used for signing. -/
theorem authHeader_roundTrip :
    (∀ (sub kid : String) (c e : Int) (sig : String), KeyIdSafe sub → KeyIdSafe kid →
      parseHeader (generateAuthHeader sub kid c e sig) = .ok ⟨sub, kid, "ed25519"⟩) ∧
    (∀ (signer : Signer) (km : KeyManager) (hn : AuthHeaders) (ctx : StepContext) (clk : Clock),
      ctx.role ≠ .gateway → KeyIdSafe ctx.subID →
      (∀ ks, km.keyset ctx.subID = .ok ks → KeyIdSafe ks.uniqueKeyID) →
      (signRun signer km hn ctx clk).2.1 = none →
      ∃ ks, km.keyset ctx.subID = .ok ks ∧
        ∀ (v : SignValidator) (km' : KeyManager) (vctx : StepContext),
          validate v km' vctx ((signRun signer km hn ctx clk).1.request.header.get hn.subscriber) =
            verifyWith v vctx ((signRun signer km hn ctx clk).1.request.header.get hn.subscriber)
              (km'.lookupNPKeys ctx.subID ks.uniqueKeyID)) := by
  refine ⟨fun sub kid c e sig => parseHeader_generateAuthHeader c e sig, ?_⟩
  intro signer km hn ctx clk hrole hsub hkid hok
  obtain ⟨ks, sig, -, hks, -, hrun⟩ := signRun_ok hok
  refine ⟨ks, hks, fun v km' vctx => ?_⟩
  rw [signRun_header_get hrole hrun, validate,
    parseHeader_generateAuthHeader _ _ _ hsub (hkid ks hks)]

/-- The round trip at a concrete subscriber id and key id, and at a BAP `signStep.Run` on
    the clock reading `0` whose signer answers `c2ln` and whose key set is `key-1`. -/
theorem authHeader_roundTrip_sample :
    let signer : Signer := ⟨fun _ _ _ _ => .ok "c2ln"⟩
    let km : KeyManager := ⟨fun _ => .ok ⟨"key-1", "priv-1"⟩, fun _ _ => .error (.plain "no lookup")⟩
    let hn : AuthHeaders := ⟨"Authorization", "X-Gateway-Authorization", "WWW-Authenticate"⟩
    let ctx : StepContext :=
      { request := {}, body := [123, 125], role := .bap, subID := "bap.example.com", respHeader := .empty }
    (KeyIdSafe "bap.example.com" ∧ KeyIdSafe "key-1" ∧
      parseHeader (generateAuthHeader "bap.example.com" "key-1" 0 300 "c2ln") =
        .ok ⟨"bap.example.com", "key-1", "ed25519"⟩) ∧
    (ctx.role ≠ .gateway ∧ KeyIdSafe ctx.subID ∧
      (∀ ks, km.keyset ctx.subID = .ok ks → KeyIdSafe ks.uniqueKeyID) ∧
      (signRun signer km hn ctx (fun _ => 0)).2.1 = none ∧
      ∃ ks, km.keyset ctx.subID = .ok ks ∧
        ∀ (v : SignValidator) (km' : KeyManager) (vctx : StepContext),
          validate v km' vctx ((signRun signer km hn ctx (fun _ => 0)).1.request.header.get hn.subscriber) =
            verifyWith v vctx ((signRun signer km hn ctx (fun _ => 0)).1.request.header.get hn.subscriber)
              (km'.lookupNPKeys ctx.subID ks.uniqueKeyID)) := by
  intro signer km hn ctx
  have hrole : ctx.role ≠ .gateway := nofun
  have hsub : KeyIdSafe ctx.subID := by decide
  have hkid : ∀ ks, km.keyset ctx.subID = .ok ks → KeyIdSafe ks.uniqueKeyID := fun ks hks => by
    cases hks
    decide
  have hok : (signRun signer km hn ctx (fun _ => 0)).2.1 = none := rfl
  exact ⟨⟨by decide, by decide, authHeader_roundTrip.1 _ _ _ _ _ (by decide) (by decide)⟩,
    hrole, hsub, hkid, hok, authHeader_roundTrip.2 signer km hn ctx _ hrole hsub hkid hok⟩

/-! ## `validateSignStep` -/

/-- The cookie gate of `validateHeaders`: a missing cookie reads as `"true"`. -/
theorem cookie_getD_true_eq_false (o : Option String) : o.getD "true" = "false" ↔ o = some "false" := by
  cases o <;> simp

/-- `validate` passes exactly when the header parses, the parsed pair has a key and the
    validator accepts the body and the header under that key. -/
theorem validate_eq_none {v : SignValidator} {km : KeyManager} {ctx : StepContext} {value : String} :
    validate v km ctx value = none ↔
      ∃ hv pk enc, parseHeader value = .ok hv ∧ km.lookupNPKeys hv.subscriberID hv.uniqueID = .ok (pk, enc) ∧
        v.validate ctx.body value pk = .ok () := by
  unfold validate
  cases hp : parseHeader value with
  | error e => simp only [reduceCtorEq, false_and, exists_const, exists_false]
  | ok hv =>
    cases hl : km.lookupNPKeys hv.subscriberID hv.uniqueID with
    | error e =>
      simp only [verifyWith, hl, reduceCtorEq, Except.ok.injEq, exists_and_left, exists_and_right,
        exists_eq_left', exists_const, false_and]
    | ok keys =>
      obtain ⟨pk, enc⟩ := keys
      cases hv' : v.validate ctx.body value pk <;>
        simp only [verifyWith, hl, hv', reduceCtorEq, Except.ok.injEq, exists_and_left,
          exists_and_right, exists_eq_left', Prod.mk.injEq, exists_eq', and_true]

/-- The context after a rejected validation: the challenge set on the response header. -/
def challenge (hn : AuthHeaders) (ctx : StepContext) : StepContext :=
  { ctx with respHeader := ctx.respHeader.set hn.unauthorizedGateway (unauthHeader ctx.subID) }

/-- `validateSignStep.Run` (what `validateHeaders` returns) when the cookie does not skip
    it: it returns `nil` exactly for a request with no subscriber auth header or one that
    parses, resolves to a key and validates, and then leaves the context as it was; any
    other request gets a `SignValidationErr` and the challenge header. -/
theorem validateSign_run_spec (v : SignValidator) (km : KeyManager) (hn : AuthHeaders)
    (ctx : StepContext) (hc : ctx.request.cookie "header_validation" ≠ some "false") :
    ((validateHeaders v km hn ctx).2 = none ↔
      (ctx.request.header.get hn.subscriber = "" ∨
        ∃ hv pk enc, parseHeader (ctx.request.header.get hn.subscriber) = .ok hv ∧
          km.lookupNPKeys hv.subscriberID hv.uniqueID = .ok (pk, enc) ∧
          v.validate ctx.body (ctx.request.header.get hn.subscriber) pk = .ok ())) ∧
    ((validateHeaders v km hn ctx).2 = none → (validateHeaders v km hn ctx).1 = ctx) ∧
    (∀ err, (validateHeaders v km hn ctx).2 = some err →
      (∃ e, err = .signValidation e) ∧ (validateHeaders v km hn ctx).1 = challenge hn ctx) := by
  have hgate : ¬ (ctx.request.cookie "header_validation").getD "true" = "false" := by
    rwa [cookie_getD_true_eq_false]
  by_cases hempty : ctx.request.header.get hn.subscriber = ""
  · have hrun : validateHeaders v km hn ctx = (ctx, none) := by
      simp [validateHeaders, hgate, hempty]
    rw [hrun]
    exact ⟨iff_of_true rfl (.inl hempty), fun _ => rfl, by simp⟩
  · have hlen : (ctx.request.header.get hn.subscriber).length ≠ 0 := fun h =>
      hempty (String.ext (List.length_eq_zero.mp h))
    have hv : validate v km ctx (ctx.request.header.get hn.subscriber) = none ↔ _ :=
      validate_eq_none
    cases hval : validate v km ctx (ctx.request.header.get hn.subscriber) with
    | none =>
      have hrun : validateHeaders v km hn ctx = (ctx, none) := by
        simp [validateHeaders, hgate, hlen, hval]
      rw [hrun]
      exact ⟨iff_of_true rfl (Or.inr (hv.mp hval)), fun _ => rfl, by simp⟩
    | some e =>
      have hrun : validateHeaders v km hn ctx = (challenge hn ctx,
          some (.signValidation (.wrap ("failed to validate " ++ hn.subscriber ++ ": %w") [e]))) := by
        simp [validateHeaders, hgate, hlen, hval, challenge]
      simp only [hval, reduceCtorEq, false_iff] at hv
      rw [hrun]
      exact ⟨iff_of_false (by simp) (not_or.mpr ⟨hempty, hv⟩), by simp,
        fun err herr => ⟨⟨_, (Option.some.inj herr).symm⟩, rfl⟩⟩

/-! ## Concrete runs -/

/-- Header names for the concrete runs (the `model` constants are absent from src/). -/
def sampleHeaders : AuthHeaders := ⟨"Authorization", "X-Gateway-Authorization", "WWW-Authenticate"⟩

/-- A signature validator that rejects every signature. -/
def rejectAllValidator : SignValidator := ⟨fun _ _ _ => .error (.plain "invalid signature")⟩

/-- A key manager that knows no key. -/
def noKeys : KeyManager := ⟨fun _ => .error (.plain "no keyset"), fun _ _ => .error (.plain "no key")⟩

/-- A request that carries no subscriber auth header and no cookie. -/
def unsignedCtx : StepContext :=
  { request := {}, body := [], role := .bpp, subID := "bpp.example.com", respHeader := .empty }

/-- A request whose subscriber auth header names a key nobody has. -/
def forgedCtx : StepContext :=
  { request := { header := Header.empty.set "Authorization" "Signature keyId=\"x|k|ed25519\"" },
    body := [], role := .bpp, subID := "bpp.example.com", respHeader := .empty }

/-- An unsigned request passes `validateSignStep.Run`, even with a validator and a key
    manager that reject everything. -/
theorem validateSign_accepts_unsigned :
    unsignedCtx.request.header.get sampleHeaders.subscriber = "" ∧
      unsignedCtx.request.cookie "header_validation" = none ∧
      (validateHeaders rejectAllValidator noKeys sampleHeaders unsignedCtx).2 = none :=
  ⟨by decide, by decide, rfl⟩

/-- A forged header is rejected with a `SignValidationErr` and the challenge. -/
theorem validateSign_rejects_forged :
    forgedCtx.request.cookie "header_validation" ≠ some "false" ∧
      ∀ err, (validateHeaders rejectAllValidator noKeys sampleHeaders forgedCtx).2 = some err →
        (∃ e, err = .signValidation e) ∧
        (validateHeaders rejectAllValidator noKeys sampleHeaders forgedCtx).1 =
          challenge sampleHeaders forgedCtx :=
  ⟨by decide, (validateSign_run_spec _ _ _ _ (by decide)).2.2⟩

end BecknOnix.Handler
