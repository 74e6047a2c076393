import ApiContract.Text.Letter

/-!
# File names

A `FileName` is a list of names to go through, from the working directory or from the root. Empty names
and single points say nothing and are left out.
-/

namespace ApiContract

structure FileName where
  /-- The slashes in front: none, one, or exactly two. -/
  root : String
  names : List String
  deriving DecidableEq, Repr

namespace FileName

/-- The slashes that matter of those in front of a name. -/
def rootOf (text : List Char) : String :=
  match (text.takeWhile (· == '/')).length with
  | 0 => ""
  | 2 => "//"
  | _ => "/"

def ofText (text : String) : FileName where
  root := rootOf text.toList
  names := ((text.toList.splitOn '/').map String.ofList).filter fun n => n != "" && n != "."

def text (f : FileName) : String :=
  if f.root = "" ∧ f.names = [] then "." else f.root ++ "/".intercalate f.names

/-- The most bytes that a single name may have. -/
def nameLimit : Nat := 255

/-- The most bytes that all names together may have, with slashes between them. -/
def pathLimit : Nat := 4095

/-- Whether the system has names like this one. -/
def isNameable (name : String) : Bool :=
  name.utf8ByteSize ≤ nameLimit && !name.toList.contains '\x00'

/-- Whether the system looks for a file under names like these. -/
def isPath (f : FileName) : Bool :=
  f.text.utf8ByteSize ≤ pathLimit && !f.text.toList.contains '\x00'

/-- What further names lead to from here. -/
def beneath (f : FileName) (names : List String) : FileName := { f with names := f.names ++ names }

/-- The last of the names. -/
def base (f : FileName) : String := f.names.getLast?.getD ""

/-- The names of the folder that the file is in. -/
def folder (f : FileName) : List String := f.names.dropLast

/-- The end of the last name from its last point on, in lower case. A point at one of its ends does not
count. -/
def suffix (f : FileName) : String :=
  let base := f.base.toList
  let ending := base.reverse.takeWhile (· != '.')
  if ending.isEmpty || base.length ≤ ending.length + 1 then ""
  else Text.lowerString (String.ofList ('.' :: ending.reverse))

end FileName

end ApiContract
