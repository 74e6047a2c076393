import ApiContract.Files.Directory

/-!
# Replacing files

`Directory.replace` writes a file as a whole: the text goes into a temporary file of the same folder,
which then takes the place of the target. The system may refuse any step; `Directory.save` is the case
where it refuses none. `Directory.overwrite` writes into the file itself.
-/

namespace ApiContract

/-- The steps of a write that the system may refuse. -/
inductive WriteStep where
  | create
  | write
  | flush
  | sync
  | close
  | replace
  deriving DecidableEq, Repr

/-- How a write ended, and the directory after it. -/
structure WriteResult where
  done : Bool
  directory : Directory

namespace Directory

/-- The bytes of a text. -/
def bytesOf (text : String) : List UInt8 := text.toUTF8.toList

/-- Gives up a write. The temporary file is closed first and then removed, so that it stays behind if
it cannot be closed. -/
def giveUp (refused : WriteStep → Bool) (temporary : Place) (d : Directory) : WriteResult :=
  ⟨false, if refused .close then d else d.erase temporary⟩

/-- Writes a text to the target by way of a temporary file. -/
def replaceAt (refused : WriteStep → Bool) (temporary target : Place) (text : String)
    (d : Directory) : WriteResult :=
  if refused .create then ⟨false, d⟩
  else
    let created := d.put temporary []
    if refused .write || refused .flush then created.giveUp refused temporary
    else
      let written := d.put temporary (bytesOf text)
      if refused .sync then written.giveUp refused temporary
      else if refused .close || refused .replace || d.isFolder target then
        ⟨false, written.erase temporary⟩
      else ⟨true, (written.erase temporary).put target (bytesOf text)⟩

/-- A name that no file has: it is longer than all of them. -/
def freshName (base : String) (d : Directory) : String :=
  let longest := (d.files.map fun e => (e.1.getLast?.getD "").length).foldl max 0
  "." ++ base ++ "." ++ String.ofList (List.replicate longest 'x') ++ ".tmp"

/-- The bytes that the name of a temporary file has more than that of its target. -/
def temporaryExtra : Nat := 14

/-- Whether the system has a temporary file for a target of this name. -/
def hasTemporary (base : String) : Bool :=
  base.utf8ByteSize + temporaryExtra ≤ FileName.nameLimit && !base.toList.contains '\x00'

/-- Writes a text to a file, whose folder is made if need be. -/
def replace (refused : WriteStep → Bool) (f : FileName) (text : String) (d : Directory) :
    WriteResult :=
  if !({ f with names := f.folder } : FileName).isPath then ⟨false, d⟩
  else
    match d.makeFolders (startOf f) f.folder with
    | (none, d) => ⟨false, d⟩
    | (some folder, d) =>
      match d.follow? folder f.names.getLast?.toList with
      | none => ⟨false, d⟩
      | some target =>
        if hasTemporary f.base then
          d.replaceAt refused (folder ++ [d.freshName f.base]) target text
        else ⟨false, d⟩

/-- Writes a text to a file where the system refuses no step. -/
def save (f : FileName) (text : String) (d : Directory) : WriteResult :=
  d.replace (fun _ => false) f text

/-- Writes a text into a file itself, whose folder is made if need be. -/
def overwrite (f : FileName) (text : String) (d : Directory) : WriteResult :=
  if !({ f with names := f.folder } : FileName).isPath then ⟨false, d⟩
  else
    match d.makeFolders (startOf f) f.folder with
    | (none, d) => ⟨false, d⟩
    | (some folder, d) =>
      match d.follow? folder f.names.getLast?.toList with
      | none => ⟨false, d⟩
      | some target =>
        if f.isPath && FileName.isNameable f.base && !d.isFolder target then
          ⟨true, d.put target (bytesOf text)⟩
        else ⟨false, d⟩

end Directory

end ApiContract
