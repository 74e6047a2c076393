import ApiContract.Pointer
import ApiContract.Schema.Field
import ApiContract.Schema.Record
import ApiContract.Service.Address
import ApiContract.Text.Template
import ApiContract.Value.Alike

/-!
# Service configuration

`Service.compile` reads from a document the address of its first server and the security schemes that
its components declare.
-/

namespace ApiContract

open ApiContract.Text

/-- Parts of the address that an API is served from. -/
structure Server where
  protocol : Option String
  host : Option String
  port : Option Nat
  basePath : Option String
  deriving DecidableEq, Repr

/-- A declared security scheme; the fields that its type does not have are left out. -/
structure SecurityScheme where
  name : String
  type : String
  description : Option String
  paramName : Option String
  location : Option String
  scheme : Option String
  bearerFormat : Option String
  flows : Option (List (String × Value))
  openIdConnectUrl : Option String

structure Service where
  server : Option Server
  securitySchemes : List (String × SecurityScheme)

namespace Service

/-! ## Server -/

def serverPath : String := "#/servers/0/url"

/-- A text that is not empty. -/
def nonEmpty (text : List Char) : Option String :=
  if text.isEmpty then none else some (String.ofList text)

/-- The default of a variable, as it stands in an address. -/
def variableDefault (values : Value) (name : String) : Except Fault String := do
  let noDefault : Except Fault String :=
    uncompilable (.serverAddress (.noDefault name)) serverPath
  match ← values.get name with
  | none => noDefault
  | some declared =>
    match declared.get? "default" with
    | some default => return default.display
    | none => noDefault

/-- A URL with its templates replaced by the defaults of their variables. -/
def expandVariables (url : String) (values : Value) : Except Fault String := do
  let filled ← (pieces plainName? url.toList).mapM fun
    | .literal c => pure [c]
    | .name name => String.toList <$> variableDefault values (String.ofList name)
  return String.ofList filled.flatten

/-- The text without the slashes at its end. -/
def trimSlashes (text : List Char) : List Char := (text.reverse.dropWhile (· == '/')).reverse

def serverOfUrl (url : String) : Except Fault Server :=
  match Address.ofUrl url with
  | .error reason => uncompilable (.serverAddress (.invalid url reason)) serverPath
  | .ok address => .ok {
      protocol := nonEmpty address.scheme.toList
      host := address.host
      port := address.port
      basePath := nonEmpty (trimSlashes address.path.toList) }

/-- How many servers there are, and the first of them; in a mapping it stands under the key zero. -/
def firstServer (servers : Value) : Except Fault (Nat × Value) :=
  match servers with
  | .list (first :: rest) => .ok (rest.length + 1, first)
  | .map entries =>
    match entries.find? fun e => e.1.alike (.int 0) with
    | some e => .ok (entries.length, e.2)
    | none => .error .unexpected
  | _ => .error .unexpected

/-- The address of the first server, if there is one. -/
def compileServer (servers : Value) : Reported (Option Server) := do
  if servers.isVacant then return none
  let (count, first) ← firstServer servers
  let url ← first.get "url"
  if 1 < count then
    Reported.warn (.severalServers count (url.getD .null))
  let .text url := url.getD (.text "/")
    | .fail .unexpected
  let values ← first.getOrNull "variables"
  let values := if values.isVacant then .map [] else values
  let url ← expandVariables url values
  return some (← serverOfUrl url)

/-! ## Security schemes -/

/-- The flows of a scheme, keyed by text. -/
def readFlows (flows : Value) : Checked (List (String × Value)) :=
  match flows with
  | .map entries =>
    let issues := entries.filterMap fun
      | (.text _, _) => none
      | (k, _) => some ⟨Field.keyPlace k ++ ".[key]", .textExpected⟩
    if issues.isEmpty then
      .ok (entries.filterMap fun
        | (.text name, v) => some (name, v)
        | _ => none)
    else .issues issues
  | _ => .issue .mappingExpected

def readScheme (name : String) (declared : Value) : Except Fault SecurityScheme := do
  let field (key : String) : Except Fault Value := declared.getOrNull key
  let text (key place : String) : Except Fault (Checked (Option String)) := do
    return (Field.optional Field.text (← field key)).under place
  let type := ((← declared.get "type").getD (.text ""))
  let scheme := SecurityScheme.mk name <$> (Field.text type).under "type" <*>
    (← text "description" "description") <*> (← text "name" "in_name") <*>
    (← text "in" "in_location") <*> (← text "scheme" "scheme") <*>
    (← text "bearerFormat" "bearer_format") <*>
    (Field.optional readFlows (← field "flows")).under "flows" <*>
    (← text "openIdConnectUrl" "openid_connect_url")
  scheme.accept "SecuritySchemeInfo"

/-- The components of a document. -/
def componentsOf (document : Value) (part : String) :
    Except Fault (List (Scalar × Value)) := do
  let components ← document.getOrNull "components"
  let components := if components.isVacant then .map [] else components
  (← components.getOrNull part).entriesOrNone

def schemesPath : String := "#/components/securitySchemes"

/-- The security schemes of a document; each may be a reference to another component. -/
def compileSchemes (document : Value) : Except Fault (List (String × SecurityScheme)) := do
  (← componentsOf document "securitySchemes").mapM fun (key, declared) => do
    let name ← key.asText
    let declared ← Pointer.resolve document declared (Pointer.child schemesPath name)
    return (name, ← readScheme name declared)

/-- The service configuration of a document. -/
def compile (document : Value) : Reported Service := do
  let server ← compileServer (← document.getOrNull "servers")
  return { server, securitySchemes := ← compileSchemes document }

end Service

/-! ## Records -/

def Value.ofNat? (n : Option Nat) : Value := (n.map fun n : Nat => Value.int n).getD .null

def Server.toValue (s : Server) : Value :=
  .object [("protocol", .ofText? s.protocol), ("host", .ofText? s.host), ("port", .ofNat? s.port),
    ("base_path", .ofText? s.basePath)]

def SecurityScheme.toValue (s : SecurityScheme) : Value :=
  .object [("name", .text s.name), ("type", .text s.type), ("description", .ofText? s.description),
    ("param_name", .ofText? s.paramName), ("location", .ofText? s.location),
    ("scheme", .ofText? s.scheme), ("bearer_format", .ofText? s.bearerFormat),
    ("flows", (s.flows.map fun flows => (Value.object flows).plain).getD .null),
    ("openid_connect_url", .ofText? s.openIdConnectUrl)]

def Service.toValue (s : Service) : Value :=
  .object [("server", (s.server.map Server.toValue).getD .null),
    ("security_schemes",
      .object (s.securitySchemes.map fun (name, scheme) => (name, scheme.toValue)))]

end ApiContract
