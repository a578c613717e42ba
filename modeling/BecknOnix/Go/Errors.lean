/-
  BecknOnix.Go.Errors

  Go error values as the handler, the steps and the schema validator build them, and
  `errors.As` / `errors.Is` over them.

  An error is a tree: `fmt.Errorf` with `%w` verbs and `errors.Join` have children (what
  their `Unwrap` returns); everything else is a leaf. `errors.As` and `errors.Is` visit the
  tree depth first, the error itself before its children, children left to right, and
  stop at the first node that matches (`GoError.tree` lists the nodes in that order).
-/
import BecknOnix.Go.Strings

namespace BecknOnix.Go

/-- `model.Error`, the Beckn error object a NACK carries: the fields the encoder reads.
    Modelled from the spec: the `model` package is absent from src/; `context` is the
    optional JSON context object, kept opaque. -/
structure ModelError where
  code : String
  message : String
  paths : String := ""
  context : Option String := none
  deriving DecidableEq, Repr

/-- Go error values. The typed kinds are modelled from the spec (the `model` package is
    absent from src/): each embeds its cause for `Error()` and has no `Unwrap`, so it is a
    leaf of the wrap tree. -/
inductive GoError where
  /-- `errors.New msg`, or `fmt.Errorf` without a `%w` verb. -/
  | plain (msg : String)
  /-- A package-level error variable, compared by identity (`errSchemaKeyNotFound`). -/
  | sentinel (name : String)
  /-- `fmt.Errorf format ...` with `%w` verbs; `wrapped` are the `%w` operands. -/
  | wrap (format : String) (wrapped : List GoError)
  /-- `errors.Join errs`. -/
  | join (errs : List GoError)
  /-- `&model.SchemaValidationErr{Errors: errors}`. -/
  | schemaValidation (errors : List ModelError)
  /-- `model.NewSignValidationErr cause`. -/
  | signValidation (cause : GoError)
  /-- `model.NewBadReqErr cause`. -/
  | badReq (cause : GoError)
  /-- `model.NewNotFoundErr cause`. -/
  | notFound (cause : GoError)
  /-- `*model.WorkbenchErr` with its `Behavior` and `Err` fields. -/
  | workbench (behavior : String) (err : ModelError)
  deriving Repr

/-- The typed kinds the response encoder recognises. -/
inductive Kind where
  | workbench
  | schemaValidation
  | signValidation
  | badReq
  | notFound
  deriving DecidableEq, Repr

namespace GoError

/-- The kind of a node, when it is one of the typed model errors. -/
def kind? : GoError → Option Kind
  | .workbench .. => some .workbench
  | .schemaValidation _ => some .schemaValidation
  | .signValidation _ => some .signValidation
  | .badReq _ => some .badReq
  | .notFound _ => some .notFound
  | _ => none

/-- The nodes of the wrap tree in the order `errors.As` and `errors.Is` visit them. -/
def tree : GoError → List GoError
  | .wrap f es => .wrap f es :: forest es
  | .join es => .join es :: forest es
  | e => [e]
where
  /-- The nodes of a list of trees, left to right. -/
  forest : List GoError → List GoError
    | [] => []
    | e :: es => e.tree ++ forest es

@[simp] theorem tree_wrap (f : String) (es : List GoError) :
    (wrap f es).tree = wrap f es :: tree.forest es := rfl
@[simp] theorem tree_join (es : List GoError) : (join es).tree = join es :: tree.forest es := rfl
@[simp] theorem forest_nil : tree.forest [] = [] := rfl
@[simp] theorem forest_cons (e : GoError) (es : List GoError) :
    tree.forest (e :: es) = e.tree ++ tree.forest es := rfl

end GoError

/-- `errors.As(err, &target)` for the pointer type of kind `k`: the first node of that
    kind, `none` when `errors.As` returns false. -/
def errorsAs (k : Kind) (e : GoError) : Option GoError :=
  e.tree.find? fun n => n.kind? == some k

/-- `errors.Is(err, target)` for a package-level sentinel. -/
def errorsIs (name : String) (e : GoError) : Bool :=
  e.tree.any fun n => match n with
    | .sentinel m => m == name
    | _ => false

end BecknOnix.Go
