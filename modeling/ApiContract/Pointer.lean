import ApiContract.Fault.Basic

/-!
# Pointers into a document

A pointer is `#` followed by `/` and an escaped key or position for each step. `Pointer.child` extends
one, `Pointer.find` follows one and `Pointer.resolve` replaces a reference by what it points to, one
step at a time.
-/

namespace ApiContract.Pointer

open ApiContract.Number

/-- A key as it stands in a pointer: `~` and `/` are written `~0` and `~1`. -/
def escapeChars : List Char → List Char
  | [] => []
  | '~' :: rest => '~' :: '0' :: escapeChars rest
  | '/' :: rest => '~' :: '1' :: escapeChars rest
  | c :: rest => c :: escapeChars rest

/-- The key that a segment of a pointer stands for. -/
def unescapeChars : List Char → List Char
  | '~' :: '1' :: rest => '/' :: unescapeChars rest
  | '~' :: '0' :: rest => '~' :: unescapeChars rest
  | c :: rest => c :: unescapeChars rest
  | [] => []

def escape (key : String) : String := String.ofList (escapeChars key.toList)

def unescape (segment : String) : String := String.ofList (unescapeChars segment.toList)

theorem unescapeChars_escapeChars (text : List Char) :
    unescapeChars (escapeChars text) = text := by
  fun_induction escapeChars text with
  | case1 => rfl
  | case2 rest ih => simp [unescapeChars, ih]
  | case3 rest ih => simp [unescapeChars, ih]
  | case4 c rest h₁ h₂ ih =>
    unfold unescapeChars
    split <;> simp_all

theorem unescape_escape (key : String) : unescape (escape key) = key := by
  simp [escape, unescape, unescapeChars_escapeChars]

/-- The pointer extended by a segment as it is. -/
def raw (path segment : String) : String := path ++ "/" ++ segment

/-- The pointer extended by a key. -/
def child (path key : String) : String := raw path (escape key)

/-- The pointer extended by a position. -/
def item (path : String) (index : Nat) : String := raw path (intString index)

/-- The pointer without its last segment; without a segment it is kept. -/
def parent (path : String) : String :=
  let reversed := path.toList.reverse
  match reversed.dropWhile (· != '/') with
  | [] => path
  | _ :: before => String.ofList before.reverse

/-- The item at an index, which counts from the end if it is negative. -/
def itemAt? (items : List Value) (index : Int) : Option Value :=
  if 0 ≤ index then items[index.toNat]?
  else if -index ≤ items.length then items[(items.length + index).toNat]? else none

/-- One step into a value by a key that has been unescaped. -/
def step (v : Value) (key : String) : Except BrokenReference Value :=
  match v with
  | .map entries =>
    match Value.find? key entries with
    | some v => .ok v
    | none => .error (.noSuchKey key)
  | .list items =>
    match (readInt? key.toList).bind (itemAt? items) with
    | some v => .ok v
    | none => .error (.noSuchIndex key)
  | v => .error (.notAContainer v.kindName)

/-- The segments of a pointer with their escapes undone; `none` if it is no pointer. -/
def steps? (ref : String) : Option (List String) :=
  match ref.toList.drop 1 with
  | [] => some []
  | '/' :: rest => some ((rest.splitOn '/').map fun s => String.ofList (unescapeChars s))
  | _ => none

/-- What a pointer points to. -/
def find (document : Value) (ref : String) : Except BrokenReference Value :=
  match steps? ref with
  | none => .error .notAPointer
  | some steps => steps.foldlM step document

/-- What a reference at `path` points to. -/
def follow (document : Value) (ref path : String) : Except Fault Value :=
  match find document ref with
  | .ok v => .ok v
  | .error problem => uncompilable (.brokenReference ref problem) (raw path "$ref")

def isLocal (ref : String) : Bool := ref.toList.head? == some '#'

/-- A value that may be a reference object: one reference is followed, anything else stands for
itself. -/
def resolve (document v : Value) (path : String) : Except Fault Value :=
  match v.get? "$ref" with
  | none => .ok v
  | some (.text ref) =>
    if isLocal ref then follow document ref path
    else uncompilable (.foreignReference (.external (.text ref))) (raw path "$ref")
  | some target => uncompilable (.foreignReference (.external target)) (raw path "$ref")

end ApiContract.Pointer
