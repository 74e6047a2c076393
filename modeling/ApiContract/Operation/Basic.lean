import ApiContract.Mode
import ApiContract.Pointer
import ApiContract.Text.Letter
import ApiContract.Text.Template
import ApiContract.Validator.Record
import ApiContract.Value.Alike

/-!
# Operations

An `Operation` is the compiled contract of one route and method: validators of its request and of its
response, and what security it requires. This module also names operations and merges parameters.
-/

namespace ApiContract

open ApiContract.Text

/-- A security scheme that an operation requires, with its scopes. -/
structure SecurityRequirement where
  scheme : String
  permissions : List String
  deriving DecidableEq, Repr

structure Operation where
  method : String
  route : String
  request : Validator
  response : Validator
  security : Option (List SecurityRequirement)

namespace Operation

/-! ## Names -/

/-- A route with `:name` in place of each `{name}`. -/
def colonRoute (route : String) : String :=
  String.ofList ((pieces anyName? route.toList).flatMap (Piece.fill (':' :: ·)))

/-- The name of an operation: the one it states, or its method and route. -/
def idOf (operation : Value) (method route : String) : Except Fault String := do
  let stated ← operation.getOrNull "operationId"
  return if stated.isVacant then upperString method ++ " " ++ colonRoute route else stated.display

/-! ## Parameters -/

/-- A parameter with references resolved, and where it stands. -/
structure Parameter where
  fields : Value
  path : String

/-- The parameters of a list at `path`, which may be left out. -/
def resolveParameters (document raw : Value) (path : String) : Except Fault (List Parameter) := do
  (← raw.membersOrNone).zipIdx.mapM fun (parameter, i) => do
    let place := Pointer.item (Pointer.raw path "parameters") i
    return ⟨← Pointer.resolve document parameter place, place⟩

/-- A scalar, as every part of a name that is compared must be. -/
def scalarOf : Value → Except Fault Scalar
  | .scalar s => .ok s
  | _ => .error .unexpected

/-- The name and the location by which a parameter is known. -/
def Parameter.identity (p : Parameter) : Except Fault (Scalar × Scalar) := do
  let name ← scalarOf ((← p.fields.get "name").getD (.text ""))
  let location ← scalarOf ((← p.fields.get "in").getD (.text ""))
  return (name, location)

/-- Parameters of a path, without those that the operation has itself, before those of the
operation. -/
def mergeParameters (ofPath ofOperation : List Parameter) : Except Fault (List Parameter) := do
  let own ← ofOperation.mapM Parameter.identity
  let kept ← ofPath.filterMapM fun p => do
    let (name, location) ← p.identity
    let overridden := own.any fun (n, l) => n.alike name && l.alike location
    return if overridden then none else some p
  return kept ++ ofOperation

end Operation

/-! ## Records -/

def SecurityRequirement.toValue (r : SecurityRequirement) : Value :=
  .object [("scheme_name", .text r.scheme),
    ("required_permissions", .list (r.permissions.map .text))]

def Operation.toValue (o : Operation) : Value :=
  .object [("method", .text o.method), ("route", .text o.route), ("request", o.request.toValue),
    ("response", o.response.toValue),
    ("security", (o.security.map fun rs => Value.list (rs.map (·.toValue))).getD .null)]

end ApiContract
