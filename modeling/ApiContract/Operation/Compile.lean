import ApiContract.Operation.Basic
import ApiContract.Schema.Compile
import ApiContract.Schema.Reader

/-!
# Compiling operations

`Operation.compile` combines path, query and header parameters with the request body into the request,
and the variants of all statuses and content types into the response.
-/

namespace ApiContract.Operation

open ApiContract.Number ApiContract.Text

/-- The settings of one side of an exchange. -/
def sideSetting (document : Value) (namePrefix : String) (side : Side) (use : Use) : Setting :=
  { document, crossing := side.crossing, namePrefix, suffix := side.suffix, use }

/-- The passage of a parameter at `location` on a side that has a direction. -/
def conversionAt (side : Side) (location : Location) : Option Conversion :=
  side.direction.map fun direction => ⟨direction, location⟩

/-! ## Parameters -/

/-- How a parameter says that an array is written. -/
def readStyle (fields : Value) : Except Fault ArrayStyle := do
  let style := (← fields.get "style").getD (.text "form")
  let isForm : Bool :=
    match style with
    | .text s => s == "form"
    | _ => false
  let explode := (← fields.get "explode").getD (.bool isForm)
  (ArrayStyle.mk <$> (Field.text style).under "style" <*>
    (Field.flag explode).under "explode").accept "StyleExplode"

/-- The schema of a parameter, compiled. A query array that is parsed item by item is not parsed from
one string. -/
def compileField (s : Setting) (required : Bool) (path : String) (schema : Schema)
    (convert : Option Conversion) (style : ArrayStyle) : Reported Compiled :=
  match schema, convert with
  | .array .., some ⟨.fromString, .query⟩ =>
    if style.explode then schema.compileRepeated s required path convert
    else schema.compileValue s required path convert style
  | _, _ => schema.compileValue s required path convert style

/-- The key of a parameter in its group; header names are in lower case. -/
def groupKey (location : Location) (name : Value) : Except Fault Scalar :=
  match location, name with
  | .header, .text s => .ok (.text (lowerString s))
  | .header, _ => .error .unexpected
  | _, name => scalarOf name

/-- The location that a parameter names. -/
def locationOf? : Value → Option Location
  | .text s => Location.ofName? s
  | _ => none

def compileParameter (s : Setting) (side : Side) (p : Parameter) :
    Reported (Location × Scalar × Validator) := do
  let name := (← p.fields.get "name").getD (.text "")
  let stated ← p.fields.getOrNull "in"
  let some location := locationOf? stated
    | .fail (.uncompilable (.parameterLocation stated name) (Pointer.raw p.path "in"))
  let path := Pointer.raw p.path "schema"
  let raw ← p.fields.getOrNull "schema"
  if raw.isNull then
    Reported.fail (.uncompilable (.missingSchema (.parameter name.display)) path)
  let schema ← Schema.read raw path 0
  let style ← readStyle p.fields
  let required := (← p.fields.getOrNull "required").isTrue
  let c ← compileField s required path schema (conversionAt side location) style
  return (location, ← groupKey location name, c.validator)

/-- The parameters of one location. A later one replaces one of the same key. -/
def groupAt {ν : Type} (location : Location) (parameters : List (Location × Scalar × ν)) :
    List (Scalar × ν) :=
  (parameters.filter (·.1 == location)).foldl
    (fun group (_, key, v) => insertBy Scalar.alike key v group) []

/-- An object of fields whose keys have to be texts. -/
def closedObject (fields : List (Scalar × Validator)) : Except Fault Validator :=
  let issues := fields.filterMap fun
    | (.text _, _) => none
    | (k, _) => some ⟨"fields." ++ Field.keyPlace k ++ ".[key]", .textExpected⟩
  if issues.isEmpty then
    .ok (.object (fields.filterMap fun
      | (.text name, v) => some (name, v)
      | _ => none) .closed)
  else .error (.rejected ⟨"ObjectExpr", issues⟩)

/-- The groups of parameters in the order in which they stand in a request. -/
def groupNames : List (Location × String) :=
  [(.header, "headers"), (.path, "params"), (.query, "query")]

/-- The object of the groups that have parameters, if there is one. -/
def parameterObject (compiled : List (Location × Scalar × Validator)) :
    Except Fault (Option Validator) := do
  let groups ← groupNames.filterMapM fun (location, name) => do
    let group := groupAt location compiled
    if group.isEmpty then return none
    return some (name, ← closedObject group)
  return if groups.isEmpty then none else some (.object groups .closed)

/-! ## Bodies -/

def jsonContent : String := "application/json"

/-- The fields of one variant of a payload. Every content type but JSON is told by a header. -/
def payloadFields (body : Validator) (contentType : String) (headers : List (String × Validator)) :
    List (String × Validator) :=
  let headers :=
    if contentType = jsonContent then headers
    else insertEntry "content-type" (.literal (.text contentType)) headers
  ("body", body) :: (if headers.isEmpty then [] else [("headers", .object headers .closed)])

/-- The compiled schema of one content type at `path`, which has to have one. -/
def compileMedia (s : Setting) (media : Value) (path : String) (missing : MissingSchema) :
    Reported Validator := do
  let place := Pointer.raw path "schema"
  match media.get? "schema" with
  | none | some .null => .fail (.uncompilable (.missingSchema missing) place)
  | some raw =>
    let schema ← Schema.read raw place 0
    return (← schema.compile s none .standard place).validator

/-- The variants of a request body at `path`, one for each content type. -/
def compileBodyVariants (s : Setting) (content : List (Scalar × Value)) (path : String) :
    Reported (List Validator) :=
  content.mapM fun (key, media) => do
    let contentType ← key.asText
    let place := Pointer.child (Pointer.raw path "content") contentType
    let body ← compileMedia s media place (.requestBody contentType)
    return .object (payloadFields body contentType []) .closed

/-- The request body, if there is one. A body that is not required may be an empty object. -/
def compileBody (s : Setting) (operation : Value) (path : String) : Reported (Option Validator) := do
  let raw ← operation.getOrNull "requestBody"
  if raw.isNull then return none
  let place := Pointer.raw path "requestBody"
  let body ← Pointer.resolve s.document raw place
  let content ← (← body.getOrNull "content").entriesOrNone
  let variants ← compileBodyVariants s content place
  match Validator.unionOf? variants with
  | none =>
    .fail (.uncompilable (.missingSchema .requestContent) (Pointer.raw place "content"))
  | some v =>
    let required := (← body.getOrNull "required").isTrue
    return some (if required then v else Validator.unionOf v [.object [] .closed])

/-- Parameters and body together. -/
def joinRequest : Option Validator → Option Validator → Validator
  | parameters, none => parameters.getD (.object [] .closed)
  | none, some body => body
  | some parameters, some body => Validator.intersectionOf parameters [body]

def compileRequest (mode : Mode) (namePrefix : String) (document operation : Value) (path : String)
    (pathParameters : Value) : Reported Validator := do
  let side := Side.of mode .request
  let s := sideSetting document namePrefix side .request
  let ofPath ← resolveParameters document pathParameters (Pointer.parent path)
  let ofOperation ← resolveParameters document (← operation.getOrNull "parameters") path
  let parameters ← mergeParameters ofPath ofOperation
  let compiled ← parameters.mapM (compileParameter s side)
  let parameters ← parameterObject compiled
  return joinRequest parameters (← compileBody s operation path)

/-! ## Responses -/

/-- A status: a number if it is written in digits. -/
def statusLiteral (status : String) : Except Fault Validator :=
  let digits := status.toList
  if !digits.isEmpty && digits.all isDigit then
    match readInt? digits with
    | some i => .ok (.literal (.int i))
    | none => .error .unexpected
  else .ok (.literal (.text status))

/-- Headers by name. A later one replaces one of the same name. -/
def gather {ν : Type} (headers : List (String × ν)) : List (String × ν) :=
  headers.foldl (fun found (name, v) => insertEntry name v found) []

/-- A header of the response at `path`, with its name in lower case. -/
def compileHeader (s : Setting) (side : Side) (path : String) (key : Scalar) (raw : Value) :
    Reported (String × Validator) := do
  let name ← key.asText
  let place := Pointer.child (Pointer.raw path "headers") name
  let header ← Pointer.resolve s.document raw place
  let place := Pointer.raw place "schema"
  let raw ← header.getOrNull "schema"
  if raw.isNull then
    Reported.fail (.uncompilable (.missingSchema (.header name)) place)
  let schema ← Schema.read raw place 0
  let required := (← header.getOrNull "required").isTrue
  let c ← schema.compileValue s required place (conversionAt side .header)
  return (lowerString name, c.validator)

/-- The headers of the response at `path`. -/
def compileHeaders (s : Setting) (side : Side) (response : Value) (path : String) :
    Reported (List (String × Validator)) := do
  let declared ← (← response.getOrNull "headers").entriesOrNone
  return gather (← declared.mapM fun (key, raw) => compileHeader s side path key raw)

/-- The variant of one content type of the response at `path`. -/
def compileVariant (s : Setting) (status : String) (code : Validator)
    (headers : List (String × Validator)) (path : String) (key : Scalar) (media : Value) :
    Reported Validator := do
  let contentType ← key.asText
  let place := Pointer.child (Pointer.raw path "content") contentType
  let body ← compileMedia s media place (.response status contentType)
  return .object (("statusCode", code) :: payloadFields body contentType headers) .closed

/-- The variants of one status: one for each content type, or one without content. -/
def compileStatus (s : Setting) (side : Side) (key : Scalar) (raw : Value) (path : String) :
    Reported Validator := do
  let status := key.display
  let place := Pointer.raw (Pointer.raw path "responses") status
  let response ← Pointer.resolve s.document raw place
  let code ← statusLiteral status
  let headers ← compileHeaders s side response place
  let content ← response.getOrNull "content"
  if content.isVacant then
    let headers := if headers.isEmpty then [] else [("headers", .object headers .closed)]
    return .object ([("statusCode", code), ("body", .noContent)] ++ headers) .closed
  let variants ← (← content.entries).mapM fun (key, media) =>
    compileVariant s status code headers place key media
  match Validator.unionOf? variants with
  | some v => return v
  | none => .fail .unexpected

def compileResponse (mode : Mode) (namePrefix : String) (document operation : Value)
    (path : String) : Reported Validator := do
  let side := Side.of mode .response
  let s := sideSetting document namePrefix side .response
  let responses ← operation.getOrNull "responses"
  if responses.isVacant then
    Reported.fail (.uncompilable (.missingSchema .responses) (Pointer.raw path "responses"))
  let variants ← (← responses.entries).mapM fun (key, raw) => compileStatus s side key raw path
  match Validator.unionOf? variants with
  | some v => return v
  | none => .fail .unexpected

/-! ## Security -/

def readRequirement (key : Scalar) (scopes : Value) : Except Fault SecurityRequirement := do
  let scopes ← scopes.membersOrNone
  (SecurityRequirement.mk <$> (Field.text (.scalar key)).under "scheme_name" <*>
    (Field.texts scopes).under "required_permissions").accept "SecurityRequirement"

/-- What an operation requires, or else the document. An empty list requires nothing. -/
def compileSecurity (document operation : Value) :
    Except Fault (Option (List SecurityRequirement)) := do
  let own ← operation.getOrNull "security"
  let security ← if own.isNull then document.getOrNull "security" else pure own
  let requirements ← (← security.membersOrNone).mapM fun entry => do
    (← entry.entries).mapM fun (key, scopes) => readRequirement key scopes
  let requirements := requirements.flatten
  return if requirements.isEmpty then none else some requirements

/-- The compiled operation at `path`. -/
def compile (document operation : Value) (method route : String) (mode : Mode)
    (namePrefix path : String) (pathParameters : Value) : Reported Operation := do
  let request ← compileRequest mode namePrefix document operation path pathParameters
  let response ← compileResponse mode namePrefix document operation path
  let security ← compileSecurity document operation
  return { method := upperString method, route := colonRoute route, request, response, security }

end ApiContract.Operation
