import ApiContract.Command.Options
import ApiContract.Console.Basic

/-!
# Invocations

An `Invocation` is what a command line asks for: help, the version, or a command with the flags that hold
for all commands. `Invocation.ofArguments` reads one; it is a wrong usage if no command can be made out.
-/

namespace ApiContract

/-- Views of what a document compiles to. -/
inductive View where
  | schemas
  | operations
  | order
  | auth
  deriving DecidableEq, Repr

def View.ofName? (name : String) : Option View :=
  [("schemas", View.schemas), ("operations", .operations), ("order", .order),
    ("auth", .auth)].lookup name

/-- A source, and the flags of its compilation. -/
structure Subject where
  source : String
  mode : Option String := none
  namePrefix : Option String := none
  deriving DecidableEq, Repr

inductive Command where
  | compile (subject : Subject) (output : Option String)
  | inspect (view : View) (subject : Subject)
  deriving DecidableEq, Repr

/-- The flags that hold for all commands. -/
structure Flags where
  json : Bool := false
  plain : Bool := false
  colourless : Bool := false
  quiet : Bool := false
  verbose : Bool := false
  deriving DecidableEq, Repr

namespace Flags

/-- The form of data: JSON wins where both are asked for. -/
def format (f : Flags) : DataFormat := if f.json then .json else .plain

def console (f : Flags) (environment : List (String × String)) : Console where
  format := f.format
  styled := !(f.colourless || Console.forbidsColour environment)
  quiet := f.quiet
  verbose := f.verbose

end Flags

inductive Invocation where
  | wrongUsage
  | help
  | version
  | run (flags : Flags) (command : Command)
  deriving DecidableEq, Repr

/-- The options of all commands together. -/
inductive OptionKey where
  | help
  | version
  | json
  | plain
  | colourless
  | quiet
  | verbose
  | mode
  | namePrefix
  | output
  deriving DecidableEq, Repr

namespace OptionKey

def helpSpec : OptionSpec OptionKey := ⟨.help, ["--help"], false⟩

/-- Options in front of a command. -/
def general : List (OptionSpec OptionKey) :=
  [helpSpec, ⟨.version, ["--version"], false⟩, ⟨.json, ["--json"], false⟩,
    ⟨.plain, ["--plain"], false⟩, ⟨.colourless, ["--no-color"], false⟩,
    ⟨.quiet, ["--quiet", "-q"], false⟩, ⟨.verbose, ["--verbose", "-v"], false⟩]

/-- Options that say what to compile for. -/
def target : List (OptionSpec OptionKey) :=
  [helpSpec, ⟨.mode, ["--mode", "-m"], true⟩, ⟨.namePrefix, ["--prefix"], true⟩]

def compiling : List (OptionSpec OptionKey) := ⟨.output, ["-o", "--output"], true⟩ :: target

end OptionKey

namespace Invocation

/-- Flags, as they are given in front of a command. -/
def flagsOf (given : Arguments OptionKey) : Flags where
  json := given.has .json
  plain := given.has .plain
  colourless := given.has .colourless
  quiet := given.has .quiet
  verbose := given.has .verbose

/-- The command in arguments that name one source. -/
def ofSource (flags : Flags) (specs : List (OptionSpec OptionKey))
    (command : Arguments OptionKey → Subject → Command) (args : List String) : Invocation :=
  match OptionSpec.read specs true args with
  | none => wrongUsage
  | some given =>
    if given.has .help then help
    else
      match given.rest with
      | [source] =>
        run flags
          (command given ⟨source, given.value? .mode, given.value? .namePrefix⟩)
      | _ => wrongUsage

def inspecting (flags : Flags) (args : List String) : Invocation :=
  match OptionSpec.read [OptionKey.helpSpec] false args with
  | none => wrongUsage
  | some given =>
    if given.has .help then help
    else
      match given.rest with
      | [] => wrongUsage
      | name :: args =>
        match View.ofName? name with
        | none => wrongUsage
        | some view =>
          ofSource flags (if view = .auth then [OptionKey.helpSpec] else OptionKey.target)
            (fun _ => .inspect view) args

/-- What a command line asks for. -/
def ofArguments (args : List String) : Invocation :=
  match OptionSpec.read OptionKey.general false args with
  | none => wrongUsage
  | some given =>
    match given.options.find? fun e => e.1 == .help || e.1 == .version with
    | some (.version, _) => version
    | some _ => help
    | none =>
      let flags := flagsOf given
      match given.rest with
      | "compile" :: args =>
        ofSource flags OptionKey.compiling
          (fun given subject => .compile subject (given.value? .output)) args
      | "inspect" :: args => inspecting flags args
      | _ => wrongUsage

end Invocation

end ApiContract
