import ApiContract.Contract.Basic
import ApiContract.Document.Source

/-!
# Settings

The options of a compilation come from three sources: flags, the environment and a settings file. Each
option is taken from the first source that gives it, and every source has to be valid even where another
one comes first.
-/

namespace ApiContract

open ApiContract.Text

/-- What a settings file says. -/
structure ProjectSettings where
  mode : Option Mode := none
  namePrefix : Option String := none
  deriving DecidableEq, Repr

namespace ProjectSettings

/-- The name of the settings file. -/
def fileName : FileName := ⟨"", ["specroute.json"]⟩

def readMode (v : Value) : Checked Mode :=
  match v with
  | .text name =>
    match Mode.ofName? name with
    | some mode => .ok mode
    | none => .issue .unknownChoice
  | _ => .issue .unknownChoice

/-- Keys that a settings file may not have. -/
def unknownKeys (entries : List (Scalar × Value)) : Checked Unit :=
  match entries.filter fun e => e.1 != .text "mode" && e.1 != .text "prefix" with
  | [] => .ok ()
  | others => .issues (others.map fun e => ⟨Field.keyPlace e.1, .unknownField⟩)

def ofValue (v : Value) : Checked ProjectSettings :=
  match v with
  | .map entries =>
    let field (key : String) : Value := (Value.find? key entries).getD .null
    (ProjectSettings.mk <$> (Field.optional readMode (field "mode")).under "mode" <*>
      (Field.optional Field.text (field "prefix")).under "prefix") <* unknownKeys entries
  | _ => .issue .recordExpected

/-- The settings in the text of a settings file. -/
def read (text : String) : Except Fault ProjectSettings := do
  match ← Format.json.read text.toList with
  | .error problem => .error (.settings (.malformedFile problem))
  | .ok v =>
    match ofValue v with
    | .ok settings => return settings
    | .issues found => .error (.settings (.rejectedFile ⟨"ProjectConfig", found⟩ v))

/-- The settings of a directory; without a settings file nothing is said. -/
def load (directory : Directory) : Except Fault ProjectSettings := do
  match directory.read fileName with
  | .found bytes => read (← textOfBytes bytes)
  | .missing | .refused => return {}

end ProjectSettings

namespace Options

def modeVariable : String := "SPECROUTE_MODE"

def prefixVariable : String := "SPECROUTE_PREFIX"

/-- The mode with a name in any case, which `source` gave. -/
def readMode (source name : String) : Except Fault Mode :=
  match Mode.ofName? (lowerString name) with
  | some mode => .ok mode
  | none => .error (.settings (.unknownMode name source))

/-- The mode that a source gives, if it gives one. -/
def modeFrom (source : String) : Option String → Except Fault (Option Mode)
  | some name => some <$> readMode source name
  | none => .ok none

/-- The options from flags, the environment and a settings file. A mode in the environment that is
empty does not count. -/
def resolve (modeFlag prefixFlag : Option String) (environment : List (String × String))
    (directory : Directory) : Except Fault Options := do
  let project ← ProjectSettings.load directory
  let ofEnvironment ← modeFrom modeVariable
    ((environment.lookup modeVariable).filter (· != ""))
  let ofFlag ← modeFrom "--mode" modeFlag
  let mode := ((ofFlag <|> ofEnvironment) <|> project.mode).getD .handler
  let leading := (prefixFlag <|> environment.lookup prefixVariable) <|> project.namePrefix
  return { mode, namePrefix := leading.getD "" }

end Options

end ApiContract
