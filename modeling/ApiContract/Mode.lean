/-!
# Modes

What validators are compiled for: the `Mode` of a whole document, and on each side of an exchange the
`Crossing` of its values and the `Direction` in which parameters pass the boundary to strings. A `Side`
joins them.
-/

namespace ApiContract

/-- What the validators of a document are for. -/
inductive Mode where
  /-- Values inside a request handler, with native dates. -/
  | handler
  /-- Values in the shape of the wire. -/
  | request
  /-- Requests are parsed and responses are written. -/
  | server
  /-- Requests are written and responses are parsed. -/
  | client
  deriving DecidableEq, Repr

namespace Mode

def name : Mode → String
  | handler => "handler"
  | request => "request"
  | server => "server"
  | client => "client"

def all : List Mode := [handler, request, server, client]

def ofName? (name : String) : Option Mode := all.find? (·.name == name)

/-- Whether requests and responses are compiled apart. -/
def isDirectional : Mode → Bool
  | server | client => true
  | handler | request => false

theorem ofName?_name (m : Mode) : ofName? m.name = some m := by cases m <;> rfl

end Mode

/-- How the values of one side cross the wire. -/
inductive Crossing where
  | handler
  | request
  | parse
  | stringify
  deriving DecidableEq, Repr

/-- The side of an exchange that a schema describes. -/
inductive Use where
  | request
  | response
  | unknown
  deriving DecidableEq, Repr

/-- The way a parameter passes the boundary to strings. -/
inductive Direction where
  | fromString
  | toString
  deriving DecidableEq, Repr

/-- Where a parameter stands. -/
inductive Location where
  | path
  | query
  | header
  deriving DecidableEq, Repr

namespace Location

def name : Location → String
  | path => "path"
  | query => "query"
  | header => "header"

def all : List Location := [path, query, header]

def ofName? (name : String) : Option Location := all.find? (·.name == name)

end Location

/-- The passage of one parameter across the boundary to strings. -/
structure Conversion where
  direction : Direction
  location : Location
  deriving DecidableEq, Repr

/-- How an array is written in a parameter. -/
structure ArrayStyle where
  style : String
  explode : Bool
  deriving DecidableEq, Repr

namespace ArrayStyle

/-- The style of query parameters that say nothing else. -/
def standard : ArrayStyle := ⟨"form", true⟩

/-- The text between the items of an array that is written into one string. -/
def delimiter? (s : ArrayStyle) : Option String :=
  [("form", ","), ("spaceDelimited", " "), ("pipeDelimited", "|")].lookup s.style

end ArrayStyle

/-- How one side of an exchange is compiled. -/
structure Side where
  crossing : Crossing
  suffix : String
  direction : Option Direction
  deriving DecidableEq, Repr

namespace Side

/-- Values that leave are written to strings; values that arrive are parsed from them. -/
def directional (leaving : Bool) (suffix : String) : Side :=
  if leaving then ⟨.stringify, suffix, some .toString⟩ else ⟨.parse, suffix, some .fromString⟩

/-- The side of an exchange; what is not a request is treated as a response. -/
def of (mode : Mode) (use : Use) : Side :=
  let isRequest := use == .request
  let suffix := if isRequest then "__Req" else "__Res"
  match mode with
  | .handler => ⟨.handler, "", none⟩
  | .request => ⟨.request, "", none⟩
  | .client => directional isRequest suffix
  | .server => directional (!isRequest) suffix

end Side

end ApiContract
