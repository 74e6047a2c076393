import ApiContract.Command.Run

/-!
# Command line

Reads what a command can see, runs it, and writes what comes of it: the two streams, the files that
changed, and the exit code.
-/

namespace ApiContract.CommandLine

/-- The rest of a stream. -/
partial def readAll (stream : IO.FS.Stream) (before : String) : IO String := do
  let line ← stream.getLine
  if line.isEmpty then return before else readAll stream (before ++ line)

/-- The content of a file, if it can be read. -/
def readFile? (f : FileName) : IO (Option (List UInt8)) := do
  try
    return some (← IO.FS.readBinFile f.text).toList
  catch _ => return none

/-- A directory with those of the named files that are there. -/
def directoryOf (names : List String) : IO Directory :=
  names.foldlM (fun d name => do
    let f := FileName.ofText name
    match d.follow? (Directory.startOf f) f.names, ← readFile? f with
    | some place, some bytes => return d.put place bytes
    | _, _ => return d) Directory.empty

def environment : IO (List (String × String)) := do
  let names :=
    [Options.modeVariable, Options.prefixVariable, "NO_COLOR", "TERM", "XDG_DATA_HOME", "HOME"]
  return (← names.mapM fun name => do return (← IO.getEnv name).map (name, ·)).filterMap id

/-- The date that is so many days after the first day of 1970. The years are counted from March, and in
cycles of 400 of them. -/
def dateAfter (days : Nat) : Date :=
  let days := days + 719468
  let ofCycle := days % 146097
  let year := (ofCycle - ofCycle / 1460 + ofCycle / 36524 - ofCycle / 146096) / 365
  let ofYear := ofCycle - (365 * year + year / 4 - year / 100)
  let month := (5 * ofYear + 2) / 153
  let year := 400 * (days / 146097) + year
  { year := if month < 10 then year else year + 1
    month := if month < 10 then month + 3 else month - 9
    day := ofYear - (153 * month + 2) / 5 + 1 }

/-- The moment at which a new file is made, in universal time. -/
def now : IO Timestamp := do
  let changed := (← IO.FS.withTempFile fun _ path => path.metadata).modified
  let seconds := changed.sec.toNat
  let time : TimeOfDay :=
    { hour := seconds / 3600 % 24, minute := seconds / 60 % 60, second := seconds % 60, microsecond := 0 }
  return ⟨dateAfter (seconds / 86400), time, some 0⟩

def nameOf (place : Place) : String :=
  match place with
  | "/" :: names => "/" ++ "/".intercalate names
  | names => "/".intercalate names

/-- Writes the files that differ between two directories. -/
def writeChanges (before after : Directory) : IO Unit := do
  for (place, content) in after.files do
    if before.file? place != some content then
      let target := nameOf place
      if 1 < place.length then IO.FS.createDirAll (nameOf place.dropLast)
      IO.FS.writeBinFile (target ++ ".tmp") ⟨content.toArray⟩
      IO.FS.rename (target ++ ".tmp") target

def run (args : List String) : IO UInt32 := do
  let directory ← directoryOf (ProjectSettings.fileName.text :: args)
  let stdin ← if args.contains "-" then readAll (← IO.getStdin) "" else pure ""
  let surroundings : Surroundings := {
    directory, stdin, reply := .failure "no network access", environment := ← environment
    folder := toString (← IO.currentDir), home := none, moment := ← now
    trace := "unexpected error\n" }
  let outcome := (Invocation.ofArguments args).carryOut surroundings
  writeChanges directory outcome.directory
  IO.print outcome.output.stdout
  IO.eprint outcome.output.stderr
  return outcome.exitCode.toUInt32

end ApiContract.CommandLine

def main (args : List String) : IO UInt32 := ApiContract.CommandLine.run args
