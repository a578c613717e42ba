/-
  BecknOnix.Handler.Context

  The data the request pipeline threads through its steps: the HTTP request as the
  handler sees it, the response-header sink, the route a step resolves, and
  `model.StepContext`; and the plugin capabilities the steps and the dispatcher call,
  each as the functions of its Go interface.

  Plugins are external collaborators: a capability is any family of functions of the
  arguments the code passes, so every statement over them holds for every plugin. The
  router and the workbench are handed the live `*http.Request`, so each of their calls
  also returns the request as it leaves it; a property that needs the request unchanged
  says so (`Step.KeepsRequest`). The URL pointer and the body slice the other plugins
  get are taken to be read only, and the ambient `context.Context` argument of each call
  carries nothing the core reads and is left out.
-/
import BecknOnix.Go.Errors
import Mathlib.Data.Stream.Defs

namespace BecknOnix.Handler

open BecknOnix.Go

/-! ## `http.Header` -/

/-- `http.Header` with its keys in canonical form (every key the code uses already is);
    `Set` replaces all values of a key and `Get` reads the first. -/
structure Header where
  entries : List (String × String)
  deriving DecidableEq, Repr

namespace Header

/-- The empty header map. -/
def empty : Header := ⟨[]⟩

/-- `Header.Get`: the first value, or `""` when the key is absent. -/
def get (h : Header) (k : String) : String := (h.entries.lookup k).getD ""

/-- `Header.Set`. -/
def set (h : Header) (k v : String) : Header := ⟨(k, v) :: h.entries.filter (·.1 != k)⟩

/-- `Header.Del`. -/
def del (h : Header) (k : String) : Header := ⟨h.entries.filter (·.1 != k)⟩

@[simp] theorem get_set_self (h : Header) (k v : String) : (h.set k v).get k = v := by
  simp [get, set]

theorem lookup_filter_self (l : List (String × String)) (k : String) :
    (l.filter (·.1 != k)).lookup k = none := by
  induction l with
  | nil => rfl
  | cons p l ih =>
    by_cases ha : p.1 = k
    · rwa [List.filter_cons_of_neg (by simp [ha])]
    · rw [List.filter_cons_of_pos (by simpa using ha), List.lookup_cons, beq_false_of_ne (Ne.symm ha)]
      exact ih

theorem lookup_filter_ne (l : List (String × String)) {k k' : String} (hk : k' ≠ k) :
    (l.filter (·.1 != k)).lookup k' = l.lookup k' := by
  induction l with
  | nil => rfl
  | cons p l ih =>
    by_cases ha : p.1 = k
    · rw [List.filter_cons_of_neg (by simp [ha]), ih, List.lookup_cons,
        beq_false_of_ne (by rw [ha]; exact hk)]
    · rw [List.filter_cons_of_pos (by simpa using ha), List.lookup_cons, List.lookup_cons, ih]

@[simp] theorem get_del_self (h : Header) (k : String) : (h.del k).get k = "" := by
  simp only [get, del, lookup_filter_self, Option.getD_none]

theorem get_del_ne (h : Header) {k k' : String} (hk : k' ≠ k) : (h.del k).get k' = h.get k' := by
  simp only [get, del, lookup_filter_ne _ hk]

theorem get_set_ne (h : Header) {k k' : String} (v : String) (hk : k' ≠ k) :
    (h.set k v).get k' = h.get k' := by
  simp only [get, set, List.lookup_cons, beq_false_of_ne hk, lookup_filter_ne _ hk]

end Header

/-! ## Requests, routes and deliveries -/

/-- `*url.URL`, as the dispatcher reads it: its `String()` and its `Host`. -/
structure URL where
  text : String
  host : String
  deriving DecidableEq, Repr

/-- What the adapter hands on to the network after the pipeline. -/
inductive Delivery where
  /-- The request `makeAsyncRequest` sends: `POST url` with `body`. -/
  | post (url : URL) (body : List UInt8)
  /-- `Publisher.Publish(ctx, publisherID, body)`. -/
  | publish (publisherID : String) (body : List UInt8)
  deriving DecidableEq, Repr

/-- `handler.PostResponseHook`, a `func()`: what it delivers when the post-response
    middleware runs it. -/
def PostResponseHook := Unit → List Delivery

/-- `*http.Request`: the parts the handler, the steps and the dispatcher read or write. -/
structure Request where
  header : Header := .empty
  /-- The parsed `Cookie` header; `Request.Cookie name` returns the first match. -/
  cookies : List (String × String) := []
  /-- `r.URL.String()`. -/
  url : String := ""
  /-- `r.Host`. -/
  host : String := ""
  /-- What reading `r.Body` to its end yields. -/
  body : Except GoError (List UInt8) := .ok []
  contentLength : Int := 0
  /-- `r.Context().Value(model.ContextKeySubscriberID).(string)`, when it is a string. -/
  ctxSubscriberID : Option String := none
  /-- `r.Context().Value(model.ContextKeyMsgID)`, when set. -/
  ctxMsgID : Option String := none
  /-- `r.Context().Value(PostResponseKey{}).(*[]PostResponseHook)`, when present and
      non-nil: the slice the post-response middleware runs after the response. -/
  hooks : Option (List PostResponseHook) := none

/-- `Request.Cookie(name)`: the value, or `none` for `http.ErrNoCookie`. -/
def Request.cookie (r : Request) (name : String) : Option String := r.cookies.lookup name

/-- `model.Route`: the fields `addRoute` copies from the router's answer. -/
structure Route where
  targetType : String
  publisherID : String
  url : URL
  actAsProxy : Bool
  deriving DecidableEq, Repr

/-- `model.Role`. Modelled from the spec: one of `bap`, `bpp`, `gateway`. -/
inductive Role where
  | bap
  | bpp
  | gateway
  deriving DecidableEq, Repr

/-- `string(role)`. -/
def Role.toString : Role → String
  | .bap => "bap"
  | .bpp => "bpp"
  | .gateway => "gateway"

/-- `model.StepContext`. The embedded `context.Context` is left out; `respHeader` is the
    response writer's own header map (`w.Header()`), shared with it. -/
structure StepContext where
  request : Request
  body : List UInt8
  role : Role
  subID : String
  respHeader : Header
  route : Option Route := none

/-! ## Plugin capabilities -/

/-- `model.Keyset`: the fields the signing step reads. -/
structure Keyset where
  uniqueKeyID : String
  signingPrivate : String
  deriving DecidableEq, Repr

/-- `definition.Signer`. -/
structure Signer where
  /-- `Sign(ctx, body, privateKey, createdAt, expiresAt)`. -/
  sign : List UInt8 → String → Int → Int → Except GoError String

/-- `definition.KeyManager`. -/
structure KeyManager where
  /-- `Keyset(ctx, subscriberID)`. -/
  keyset : String → Except GoError Keyset
  /-- `LookupNPKeys(ctx, subscriberID, uniqueKeyID)`: signing and encryption public keys. -/
  lookupNPKeys : String → String → Except GoError (String × String)

/-- `definition.SignValidator`. -/
structure SignValidator where
  /-- `Validate(ctx, body, header, publicKey)`. -/
  validate : List UInt8 → String → String → Except GoError Unit

/-- `definition.SchemaValidator`. -/
structure SchemaValidator where
  /-- `Validate(ctx, url, body)`. -/
  validate : String → List UInt8 → Except GoError Unit

/-- `definition.Router`. -/
structure Router where
  /-- `Route(ctx, url, body, request)`: the request as the call leaves it, and the route. -/
  route : String → List UInt8 → Request → Request × Except GoError Route

/-- `definition.Publisher`. -/
structure Publisher where
  /-- `Publish(ctx, publisherID, body)`. -/
  publish : String → List UInt8 → Except GoError Unit

/-- `definition.OndcValidator`. -/
structure OndcValidator where
  validatePayload : String → List UInt8 → Except GoError Unit
  saveValidationData : String → List UInt8 → Except GoError Unit

/-- `definition.OndcWorkbench`. Each method returns the request as the call leaves it,
    and its error. -/
structure OndcWorkbench where
  workbenchReceiver : Request → List UInt8 → Request × Except GoError Unit
  workbenchValidateContext : Request → List UInt8 → Request × Except GoError Unit

/-- The header-name constants of the `model` package (absent from src/), taken as
    parameters: `AuthHeaderSubscriber`, `AuthHeaderGateway`,
    `UnaAuthorizedHeaderGateway`. -/
structure AuthHeaders where
  subscriber : String
  gateway : String
  unauthorizedGateway : String

/-- The wall clock: the successive readings of `time.Now()`, in Unix nanoseconds. -/
abbrev Clock := Stream' Int

end BecknOnix.Handler
