import ApiContract.Command.Invocation
import ApiContract.Contract.Basic

/-!
# Views

What the views show of a document: tables of declarations, operations and security schemes, and the
order of the declarations. A cell holds a dash where there is nothing to show.
-/

namespace ApiContract

/-- A text, or a dash in place of nothing. -/
def orDash (text : Option String) : String := (text.filter (· != "")).getD "-"

/-- Texts with commas between them. -/
def listed (texts : List String) : Option String := some (", ".intercalate texts)

namespace Console

/-- A table, or a notice where there are no rows. -/
def tableOr (c : Console) (nothing : String) (headers : List String) (rows : List (List String)) :
    Except Fault Output :=
  if rows.isEmpty then c.notice (.info nothing) else return c.table headers rows

def schemas (c : Console) (declarations : List Declaration) : Except Fault Output :=
  c.tableOr "No schemas defined in this document." ["Declaration", "Source", "Depends on"]
    (declarations.map fun d =>
      [d.name, orDash d.source, orDash (listed (sortTexts d.dependsOn.eraseDups))])

def operations (c : Console) (operations : List (String × Operation)) : Except Fault Output :=
  c.tableOr "No operations defined in this document." ["Operation ID", "Method", "Route", "Security"]
    (operations.map fun (id, o) =>
      [id, o.method, o.route, orDash (listed ((o.security.getD []).map (·.scheme)))])

/-- The names of declarations: a JSON list, or one on each line. -/
def order (c : Console) (declarations : List Declaration) : Output :=
  match c.format with
  | .json => document (.list (declarations.map fun d => .text d.name))
  | .plain => (declarations.map fun d => line d.name).foldl (· ++ ·) {}

def serverText (s : Server) : String :=
  orDash s.protocol ++ "://" ++ orDash s.host ++
    ((s.port.map fun port => ":" ++ toString port).getD "") ++ s.basePath.getD ""

/-- The longest part of a description that is shown. -/
def descriptionLimit : Nat := 60

def schemeRow (name : String) (s : SecurityScheme) : List String :=
  [name, s.type, orDash s.scheme, orDash s.location,
    String.ofList ((orDash s.description).toList.take descriptionLimit)]

def service (c : Console) (s : Service) : Except Fault Output := do
  let server ←
    match s.server with
    | some server => c.notice (.info ("Server: " ++ serverText server))
    | none => pure {}
  let schemes ← c.tableOr "No security schemes defined."
    ["Name", "Type", "Scheme", "Location", "Description"]
    (s.securitySchemes.map fun (name, scheme) => schemeRow name scheme)
  return server ++ schemes

/-- What a view shows of a document. -/
def view (c : Console) (document : Value) (options : Options) : View → Reported Output
  | .schemas => do c.schemas (← Contract.compileComponents document options)
  | .operations => do c.operations (← Contract.compileOperations document options)
  | .order => do
    return c.order (← Declaration.order (← Contract.compileComponents document options))
  | .auth => do c.service (← Service.compile document)

end Console

end ApiContract
