import ApiContract.Command.View
import ApiContract.Fault.Details
import ApiContract.Files.Replace
import ApiContract.Settings

/-!
# Running commands

`Invocation.carryOut` runs an invocation in its `Surroundings`: what it writes to the two streams, the
directory after it, and its exit code. A command that fails writes nothing but its notices, unless the
failure is one that nothing provides for: then it also leaves a log (`Command.crashed`). Signals, and
what is said when even that fails, are left out.
-/

namespace ApiContract

/-- Everything a command can see. -/
structure Surroundings extends Sources where
  environment : List (String × String)
  /-- The path of the directory. -/
  folder : String
  /-- The home folder of the user as the system knows it; the environment may name another one. -/
  home : Option String
  /-- The moment at which an unexpected error would be logged. -/
  moment : Timestamp
  /-- What the log of an unexpected error would show: the calls that lead to it. -/
  trace : String

structure Outcome where
  exitCode : Nat
  output : Output
  directory : Directory

/-- The outcome with something written before it. -/
def Outcome.after (before : Output) (o : Outcome) : Outcome := { o with output := before ++ o.output }

/-- The exit code of a command that ends with a fault. -/
def Fault.exitCode : Fault → Nat
  | uncompilable _ _ => 8
  | unreadable _ => 7
  | settings _ | rejected _ | unexpected => 1

namespace Surroundings

/-- The place of the settings file. -/
def settingsFile (s : Surroundings) : String := s.folder ++ "/" ++ ProjectSettings.fileName.text

/-- What is said about a fault that is provided for, where `details` stands for what is wrong with a
settings file. -/
def faultTextWith? (s : Surroundings) (details : Rejection → Value → String) : Fault → Option String
  | .uncompilable cause path => some (cause.message ++ " at " ++ path)
  | .unreadable problem => some problem.message
  | .settings (.rejectedFile rejection given) =>
    some ("Invalid project config at " ++ s.settingsFile ++ ": " ++ details rejection given)
  | .settings problem => some (problem.message s.settingsFile)
  | .rejected _ | .unexpected => none

/-- What the user is told about a fault. -/
def faultText? (s : Surroundings) : Fault → Option String :=
  s.faultTextWith? fun _ _ => "<validation>"

/-- The same with the details that the user is not told. -/
def fullText? (s : Surroundings) : Fault → Option String := s.faultTextWith? Rejection.details

/-! ## The log of an unexpected error -/

/-- The home folder, if it is known. Slashes at the end of its path do not count, and a path that starts
with a tilde itself leads nowhere. -/
def homeFolder? (s : Surroundings) : Option FileName := do
  let path ← s.environment.lookup "HOME" <|> s.home
  let path := (path.toList.reverse.dropWhile (· == '/')).reverse
  if path.head? = some '~' then none
  else return .ofText (if path.isEmpty then "/" else String.ofList path)

/-- The folder for the data of all programs. -/
def dataFolder? (s : Surroundings) : Option FileName :=
  match (s.environment.lookup "XDG_DATA_HOME").filter (· != "") with
  | some path => some (.ofText path)
  | none => s.homeFolder?.map (·.beneath [".local", "share"])

/-- The file that an unexpected error is logged to. -/
def logFile? (s : Surroundings) : Option FileName :=
  s.dataFolder?.map (·.beneath ["specroute", "logs", "crash-" ++ s.moment.stamp ++ ".log"])

end Surroundings

/-- What to do about a fault. -/
def Fault.advice? : Fault → Option String
  | uncompilable (.cycle _) _ =>
    some "Break the cycle by inlining one of the schemas or restructuring the references."
  | _ => none

namespace Command

/-- The options and the document that a command is about. -/
def prepare (s : Surroundings) (subject : Subject) : Except Fault (Options × Value) := do
  let options ← Options.resolve subject.mode subject.namePrefix s.environment s.directory
  return (options, ← Document.load s.toSources subject.source)

/-- A contract as it is written. -/
def contractText (contract : Contract) : String := Json.pages contract.toValue

def contractOf (s : Surroundings) (subject : Subject) : Reported Contract := do
  let (options, document) ← prepare s subject
  Contract.compile document options

def viewOf (s : Surroundings) (c : Console) (view : View) (subject : Subject) : Reported Output := do
  let (options, document) ← prepare s subject
  let _ ← Contract.version document
  c.view document options view

/-- A command that ends in an unexpected error. The user is told where it is logged, if it can be. -/
def crashed (s : Surroundings) (c : Console) : Outcome :=
  match s.logFile? with
  | none => ⟨1, {}, s.directory⟩
  | some log =>
    let logged := s.directory.overwrite log s.trace
    let notice :=
      if logged.done then c.notice (.error ("Unexpected error. Debug log: " ++ log.text))
      else .error .unexpected
    ⟨1, notice.toOption.getD {}, logged.directory⟩

/-- A command that ends with notices, or in an unexpected error if they cannot be shown. -/
def ended (s : Surroundings) (c : Console) (exitCode : Nat) : Except Fault Output → Outcome
  | .ok output => ⟨exitCode, output, s.directory⟩
  | .error _ => crashed s c

/-- The notices about a fault. Details count as markup even where the user is not told them. -/
def told (s : Surroundings) (c : Console) (fault : Fault) (advice : Option String) :
    Except Fault Output :=
  match s.fullText? fault, s.faultText? fault with
  | some full, some text => do
    let _ ← c.notice (.error full)
    let problem ← c.notice (.error text)
    match advice with
    | some text => return problem ++ (← c.notice (.suggestion text))
    | none => return problem
  | _, _ => .error fault

/-- A command that ends with a fault. -/
def failed (s : Surroundings) (c : Console) (fault : Fault) (advice : Option String) : Outcome :=
  ended s c fault.exitCode (told s c fault advice)

/-- What becomes of a contract that can be written: it goes to a file, or else to standard output. -/
def write (s : Surroundings) (c : Console) (contract : Contract) : Option String → Outcome
  | none => ⟨0, Console.line (contractText contract), s.directory⟩
  | some target =>
    let f := FileName.ofText target
    let written := s.directory.save f (contractText contract ++ "\n")
    let s := { s with directory := written.directory }
    if written.done then
      ended s c 0 <| c.notice <| .success <|
        "Wrote " ++ toString contract.declarations.length ++ " declarations and " ++
          toString contract.operations.length ++ " operations to " ++ f.text
    else failed s c .unexpected none

def deliver (s : Surroundings) (c : Console) (contract : Contract) (target : Option String) :
    Outcome :=
  if contract.toValue.isPlain then write s c contract target else failed s c .unexpected none

def run (s : Surroundings) (c : Console) : Command → Outcome
  | compile subject output =>
    let compiled := contractOf s subject
    Outcome.after (c.warnings compiled.warnings) <|
      match compiled.result with
      | .ok contract => deliver s c contract output
      | .error fault => failed s c fault fault.advice?
  | inspect view subject =>
    let shown := viewOf s c view subject
    Outcome.after (c.warnings shown.warnings) <|
      match shown.result with
      | .ok output => ⟨0, output, s.directory⟩
      | .error fault => failed s c fault none

end Command

namespace Invocation

def versionText : String := "specroute 0.1.0"

def usageText : String :=
  "Usage: specroute [OPTIONS] COMMAND [ARGS]...\n\n" ++
  "Compile OpenAPI 3.0/3.1 documents into validator declarations and route descriptors.\n\n" ++
  "Commands: compile, inspect schemas, inspect operations, inspect order, inspect auth\n"

def carryOut (s : Surroundings) : Invocation → Outcome
  | wrongUsage => ⟨2, { stderr := usageText }, s.directory⟩
  | help => ⟨0, { stdout := usageText }, s.directory⟩
  | version => ⟨0, Console.line versionText, s.directory⟩
  | run flags command => command.run s (flags.console s.environment)

end Invocation

end ApiContract
