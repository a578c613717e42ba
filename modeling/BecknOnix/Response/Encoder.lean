/-
  BecknOnix.Response.Encoder

  The response encoder of package `response`: `SendAck`, `SendBody`, `nack`,
  `internalServerError` and `SendNack`, as the sequence of calls they make on the
  `http.ResponseWriter`.

  `WriteHeader` is the standard library's: a status outside `[100, 999]` panics
  (`checkWriteHeaderCode`), which is the `Except` error here. Writes are taken to
  succeed, so the `http.Error` fallbacks after a failed `Write` are not reached.
-/
import BecknOnix.Go.Errors

namespace BecknOnix.Encoder

open BecknOnix.Go

/-- `model.StatusACK` and `model.StatusNACK`. -/
inductive AckStatus where
  | ack
  | nack
  deriving DecidableEq, Repr

/-- `model.Message`. Modelled from the spec: the `model` package is absent from src/; the
    `Error` field of the message is a value whose `Message` the encoder overwrites for a
    code `"500"` (the spec's redacted `INTERNAL_SERVER_ERROR`). -/
structure Message where
  ack : AckStatus
  errorMessage : Option String := none
  deriving DecidableEq, Repr

/-- `model.Response`, the JSON body of an ACK or a NACK. -/
structure Response where
  message : Message
  error : Option ModelError := none
  context : Option String := none
  deriving DecidableEq, Repr

/-- A JSON body written to the client. -/
inductive Body where
  /-- `json.Marshal` of a `model.Response`. -/
  | response (r : Response)
  /-- The `custom-response-body` cookie value, as `SendBody` renders it: parsed as JSON,
      or wrapped as `{"message": value}` when it does not parse. -/
  | custom (value : String)
  deriving DecidableEq, Repr

/-- A call on the `http.ResponseWriter`. -/
inductive WriterEvent where
  | setHeader (key value : String)
  | writeHeader (code : Int)
  | write (body : Body)
  deriving DecidableEq, Repr

/-- What an encoder writes, or the message of the panic it raises. -/
abbrev Writes := Except String (List WriterEvent)

/-- `w.WriteHeader(code)`: the standard library panics on a status outside `[100, 999]`. -/
def writeHeader (code : Int) : Writes :=
  if code < 100 ∨ 999 < code then .error ("invalid WriteHeader code " ++ toString code)
  else .ok [.writeHeader code]

/-- `Content-Type: application/json`, the status, then the body. -/
def writeJSON (status : Int) (body : Body) : Writes :=
  (writeHeader status).map fun wh => .setHeader "Content-Type" "application/json" :: wh ++ [.write body]

/-- `SendAck`. -/
def sendAck : Writes := writeJSON 200 (.response { message := { ack := .ack } })

/-- `SendBody` for a string body (the only use: the `custom-response-body` cookie). -/
def sendBody (value : String) : Writes := writeJSON 200 (.custom value)

/-- The body `nack` builds: the error's code and message (and its context), the message of
    the `Message.Error` redacted for code `"500"`. -/
def nackBody (err : ModelError) : Response :=
  { message := { ack := .nack, errorMessage := if err.code = "500" then some "INTERNAL_SERVER_ERROR" else none }
    error := some { code := err.code, message := err.message }
    context := err.context }

/-- `nack`. -/
def nack (err : ModelError) (status : Int) : Writes := writeJSON status (.response (nackBody err))

/-- `internalServerError`: `ctx.Value(model.ContextKeyMsgID)` formatted with `%s`. -/
def internalServerError (msgID : Option String) : ModelError :=
  { code := "Internal Server Error"
    message := "Internal server error, MessageID: " ++ msgID.getD "%!s(<nil>)" }

/-- The `Behavior` and `Err` fields of a `*model.WorkbenchErr`. -/
def workbenchFields : GoError → String × ModelError
  | .workbench behavior err => (behavior, err)
  | _ => ("", { code := "", message := "" })

/-- `SendNack`. `becknError` is the `BecknError()` method of the typed errors (the `model`
    package is absent from src/); the first `case` whose `errors.As` succeeds runs, and
    the inner `switch` on `Behavior` has no `default`. -/
def sendNack (becknError : GoError → ModelError) (msgID : Option String) (err : GoError) : Writes :=
  match errorsAs .workbench err with
  | some wb =>
    let (behavior, e) := workbenchFields wb
    if behavior = "NACK" then nack (becknError wb) 200
    else if behavior = "HTTP" then nack (becknError wb) (atoi e.code)
    else .ok []
  | none =>
    match errorsAs .schemaValidation err with
    | some n => nack (becknError n) 200
    | none =>
      match errorsAs .signValidation err with
      | some n => nack (becknError n) 401
      | none =>
        match errorsAs .badReq err with
        | some n => nack (becknError n) 400
        | none =>
          match errorsAs .notFound err with
          | some n => nack (becknError n) 404
          | none => nack (internalServerError msgID) 500

end BecknOnix.Encoder
