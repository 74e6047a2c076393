import ApiContract.Files.Name

/-!
# Directories

A `Directory` holds the files and folders around one folder, each at a `Place`: the names on the way to
it, where a slash stands for the root and two points lead out of the folder. `Directory.read` looks a file
up by its name, and `Directory.put` and `Directory.erase` change it.
-/

namespace ApiContract

abbrev Place := List String

structure Directory where
  /-- Folders that are there even without a file in them. -/
  folders : List Place
  files : List (Place × List UInt8)

namespace Directory

def empty : Directory := ⟨[], []⟩

/-- The content of the file at a place. -/
def file? (place : Place) (d : Directory) : Option (List UInt8) := d.files.lookup place

/-- Folders that are always there: the one all names start from, those around it, and the root. -/
def isGiven (place : Place) : Bool :=
  place.all (· == "..") || place == ["/"] || place == ["//"]

def isFolder (place : Place) (d : Directory) : Bool :=
  isGiven place || d.folders.contains place ||
    d.files.any fun e => place.isPrefixOf e.1 && place.length < e.1.length

/-- The directory with a file that has the given content. -/
def put (place : Place) (content : List UInt8) (d : Directory) : Directory :=
  { d with files := (place, content) :: d.files.filter (·.1 != place) }

/-- The directory without a file. -/
def erase (place : Place) (d : Directory) : Directory :=
  { d with files := d.files.filter (·.1 != place) }

/-- The place that one name leads to from a folder. -/
def step (place : Place) (name : String) : Place :=
  if name = ".." then
    if place.all (· == "..") then place ++ [".."]
    else if isGiven place then place
    else place.dropLast
  else place ++ [name]

/-- The place that names lead to from a folder; all but the last of them have to name folders. -/
def follow? (d : Directory) (place : Place) : List String → Option Place
  | [] => some place
  | [name] => some (step place name)
  | name :: rest =>
    let next := step place name
    if d.isFolder next then d.follow? next rest else none

/-- The folder that the names of a file start from. -/
def startOf (f : FileName) : Place := if f.root = "" then [] else [f.root]

/-- What comes of looking for a file. -/
inductive Lookup where
  | found (content : List UInt8)
  | missing
  /-- A name is too long to be looked for. -/
  | refused
  deriving DecidableEq, Repr

/-- The file that names lead to from a folder. A name is not looked for outside of a folder. -/
def lookAt (d : Directory) (place : Place) : List String → Lookup
  | [] => .missing
  | name :: rest =>
    let next := step place name
    if FileName.nameLimit < name.utf8ByteSize then .refused
    else if rest.isEmpty then
      match d.file? next with
      | some content => .found content
      | none => .missing
    else if d.isFolder next then d.lookAt next rest
    else .missing

def read (d : Directory) (f : FileName) : Lookup :=
  if f.text.toList.contains '\x00' then .missing
  else if FileName.pathLimit < f.text.utf8ByteSize then .refused
  else d.lookAt (startOf f) f.names

/-- The folder that names lead to, if there can be one, and the directory with the folders on the way,
which are made as far as possible. -/
def makeFolders (d : Directory) (place : Place) : List String → Option Place × Directory
  | [] => (some place, d)
  | name :: rest =>
    let next := step place name
    if d.isFolder next then d.makeFolders next rest
    else if (d.file? next).isSome || !FileName.isNameable name then (none, d)
    else { d with folders := next :: d.folders }.makeFolders next rest

@[simp] theorem file?_put (place : Place) (content : List UInt8) (d : Directory) :
    (d.put place content).file? place = some content := by simp [put, file?]

theorem lookup_filter_ne {other place : Place} (h : other ≠ place)
    (files : List (Place × List UInt8)) :
    (files.filter (·.1 != place)).lookup other = files.lookup other := by
  induction files with
  | nil => rfl
  | cons e rest ih =>
    obtain ⟨p, content⟩ := e
    by_cases he : p = place
    · have ho : (other == p) = false := beq_false_of_ne (he ▸ h)
      rw [List.filter_cons_of_neg (by simpa using he), ih]
      simp only [List.lookup_cons, ho]
    · rw [List.filter_cons_of_pos (by simpa using he)]
      simp only [List.lookup_cons, ih]

theorem file?_put_of_ne {other place : Place} (h : other ≠ place) (content : List UInt8)
    (d : Directory) : (d.put place content).file? other = d.file? other := by
  simp [put, file?, List.lookup_cons, beq_false_of_ne h, lookup_filter_ne h]

theorem file?_erase_of_ne {other place : Place} (h : other ≠ place) (d : Directory) :
    (d.erase place).file? other = d.file? other := by
  simp [erase, file?, lookup_filter_ne h]

end Directory

end ApiContract
