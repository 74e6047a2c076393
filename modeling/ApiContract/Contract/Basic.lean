import ApiContract.Declaration.Order
import ApiContract.Operation.Compile
import ApiContract.Service.Basic

/-!
# Contracts

A `Contract` is everything compiled from one document: declarations in an order in which they can be
written down, operations by name, and the service configuration. `Contract.compile` checks the version
of the document first.
-/

namespace ApiContract

/-- The settings of a compilation. -/
structure Options where
  mode : Mode := .handler
  namePrefix : String := ""
  deriving DecidableEq, Repr

structure Contract where
  options : Options
  service : Service
  declarations : List Declaration
  operations : List (String × Operation)

namespace Contract

/-- The version of a document, which has to be a version 3. -/
def version (document : Value) : Except Fault String := do
  match ← document.get "swagger" with
  | some version => uncompilable (.version (.swagger version)) "#/swagger"
  | none =>
    let marker ← document.getOrNull "openapi"
    if marker.isNull then uncompilable (.version .noMarker) "#"
    else
      let version := marker.display
      if version.toList.takeWhile (· != '.') = ['3'] then return version
      else uncompilable (.version (.unsupported version)) "#/openapi"

/-! ## Declarations -/

/-- The sides for which every component schema is compiled. -/
def sidesOf (mode : Mode) : List Side :=
  if mode.isDirectional then [.of mode .request, .of mode .response] else [.of mode .unknown]

/-- The declaration of one component schema on one side. -/
def compileDeclaration (document : Value) (namePrefix name : String) (schema : Schema)
    (path : String) (side : Side) : Reported Declaration := do
  let s : Setting := { document, crossing := side.crossing, namePrefix, suffix := side.suffix }
  let c ← schema.compileValue s true path
  return {
    name := s.declarationName name, validator := c.validator, dependsOn := c.dependsOn,
    source := some path }

/-- The declarations of one component schema. -/
def compileComponent (document : Value) (options : Options) (key : Scalar) (raw : Value) :
    Reported (List Declaration) := do
  let name ← key.asText
  let path := Pointer.child "#/components/schemas" name
  let schema ← Schema.read raw path 0
  (sidesOf options.mode).mapM (compileDeclaration document options.namePrefix name schema path)

/-- The declarations of all component schemas in document order. -/
def compileComponents (document : Value) (options : Options) : Reported (List Declaration) := do
  let components ← Service.componentsOf document "schemas"
  return (← components.mapM fun (key, raw) => compileComponent document options key raw).flatten

/-! ## Operations -/

/-- The methods that are compiled, in the order in which a path is walked. -/
def methods : List String := ["get", "post", "put", "patch", "delete"]

/-- An operation as it stands in a document. -/
structure Site where
  route : Scalar
  method : String
  operation : Value
  pathItem : Value

/-- The operations of a list of paths: routes in document order, methods in walk order. -/
def sites (paths : List (Scalar × Value)) : List Site :=
  paths.flatMap fun (route, pathItem) =>
    methods.filterMap fun method =>
      match pathItem.get? method with
      | none | some .null => none
      | some operation => some { route, method, operation, pathItem }

/-- The operation of a site under its name, which none of the `earlier` ones may have. -/
def compileSite (document : Value) (options : Options) (earlier : List (String × Operation))
    (site : Site) : Reported (List (String × Operation)) := do
  let route ← site.route.asText
  let path := Pointer.raw (Pointer.child "#/paths" route) site.method
  let id ← Operation.idOf site.operation site.method route
  if earlier.any (·.1 == id) then
    Reported.fail (.uncompilable (.duplicateOperation id) path)
  let pathParameters ← site.pathItem.getOrNull "parameters"
  let operation ← Operation.compile document site.operation site.method route options.mode
    options.namePrefix path pathParameters
  return earlier ++ [(id, operation)]

/-- All operations of a document in walk order. -/
def compileOperations (document : Value) (options : Options) :
    Reported (List (String × Operation)) := do
  let paths ← (← document.getOrNull "paths").entriesOrNone
  (sites paths).foldlM (compileSite document options) []

/-- The contract of a document. -/
def compile (document : Value) (options : Options) : Reported Contract := do
  let _ ← version document
  let service ← Service.compile document
  let declarations ← Declaration.order (← compileComponents document options)
  let operations ← compileOperations document options
  return { options, service, declarations, operations }

def toValue (c : Contract) : Value :=
  .object [("mode", .text c.options.mode.name), ("prefix", .text c.options.namePrefix),
    ("config", c.service.toValue), ("declarations", .list (c.declarations.map (·.toValue))),
    ("operations", .object (c.operations.map fun (id, o) => (id, o.toValue)))]

end Contract

end ApiContract
