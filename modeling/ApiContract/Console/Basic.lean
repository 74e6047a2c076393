import ApiContract.Console.Markup
import ApiContract.Fault.Basic
import ApiContract.Json.Writer

/-!
# Console

A `Console` writes data to standard output and notices to standard error. Tables are JSON records or
lines of cells; documents are indented JSON in either format. What is not essential is left out when the
console is quiet. A styled notice is marked text, and it cannot be shown if its markup is wrong.
-/

namespace ApiContract

/-- What is written to the two streams. -/
structure Output where
  stdout : String := ""
  stderr : String := ""
  deriving DecidableEq, Repr

instance : Append Output where
  append a b := ⟨a.stdout ++ b.stdout, a.stderr ++ b.stderr⟩

/-- The forms in which data is written. -/
inductive DataFormat where
  | plain
  | json
  deriving DecidableEq, Repr

structure Console where
  format : DataFormat := .plain
  /-- Whether notices are styled. -/
  styled : Bool := true
  quiet : Bool := false
  verbose : Bool := false
  deriving DecidableEq, Repr

/-- Something that is told to the user. -/
inductive Notice where
  | info (text : String)
  | success (text : String)
  | warning (text : String)
  | error (text : String)
  | suggestion (text : String)
  deriving DecidableEq, Repr

namespace Notice

def plain : Notice → String
  | info text => text
  | success text => text
  | warning text => "Warning: " ++ text
  | error text => "Error: " ++ text
  | suggestion text => "→ " ++ text

/-- The notice with markup for its colours. -/
def markup : Notice → String
  | info text => text
  | success text => "[green]" ++ text ++ "[/green]"
  | warning text => "[yellow]Warning:[/yellow] " ++ text
  | error text => "[bold red]Error:[/bold red] " ++ text
  | suggestion text => "[dim]→ " ++ text ++ "[/dim]"

/-- Whether a quiet console shows the notice too. -/
def isEssential : Notice → Bool
  | warning _ | error _ => true
  | _ => false

end Notice

namespace Console

/-- Whether the environment asks for text without colours. -/
def forbidsColour (environment : List (String × String)) : Bool :=
  (environment.lookup "NO_COLOR").isSome || environment.lookup "TERM" == some "dumb"

def line (text : String) : Output := { stdout := text ++ "\n" }

/-- A value as indented JSON. -/
def document (v : Value) : Output := line (Json.pages v)

/-- A row as a record of its cells by their headers. -/
def recordOf (headers row : List String) : Value :=
  .map ((headers.zip row).foldl (fun entries (h, cell) => insertEntry (.text h) (.text cell) entries)
    [])

def table (c : Console) (headers : List String) (rows : List (List String)) : Output :=
  match c.format with
  | .json => document (.list (rows.map (recordOf headers)))
  | .plain => line ("\n".intercalate ((headers :: rows).map "\t".intercalate))

/-- The text that stands on standard error for a notice. -/
def noticeText? (c : Console) (n : Notice) : Option String :=
  if c.styled then Markup.shown? n.markup else some n.plain

def notice (c : Console) (n : Notice) : Except Fault Output :=
  if c.quiet && !n.isEssential then .ok {}
  else
    match c.noticeText? n with
    | some text => .ok { stderr := text ++ "\n" }
    | none => .error .unexpected

/-- What stands in front of a warning, and the blanks below it in front of its further lines. -/
def warningLabel : String × String := ("WARNING  ", "         ")

/-- A warning of a compilation, which holds no markup. -/
def warningText (w : Warning) : String :=
  warningLabel.1 ++
    ("\n" ++ warningLabel.2).intercalate ((Markup.shownPlain w.message).splitOn "\n") ++ "\n"

/-- The warnings of a compilation, which a quiet console leaves out unless it is verbose. -/
def warnings (c : Console) (ws : List Warning) : Output :=
  if c.quiet && !c.verbose then {} else { stderr := String.join (ws.map warningText) }

end Console

end ApiContract
