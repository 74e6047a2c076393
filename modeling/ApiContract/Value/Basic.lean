import ApiContract.Calendar
import ApiContract.Number.Binary64

/-!
# Document values

A `Value` is what a decoded document is made of: scalars, lists, mappings in document order whose keys
are scalars, and sets. A value that holds itself is unrolled, and `Value.endless` stands for what would
still be in it. `Value.get` and `Value.entries` are the ways the compiler looks into one; both
fail on a value of another kind.
-/

namespace ApiContract

open ApiContract.Number

inductive Scalar where
  | null
  | bool (b : Bool)
  | int (i : Int)
  | float (x : Binary64)
  | text (s : String)
  | date (d : Date)
  | timestamp (t : Timestamp)
  | bytes (b : List UInt8)
  deriving DecidableEq, Repr, Inhabited

inductive Value where
  | scalar (s : Scalar)
  | list (items : List Value)
  | map (entries : List (Scalar × Value))
  | set (members : List Scalar)
  /-- The rest of a value that holds itself, further inside than anything is looked up. -/
  | endless
  deriving Repr, Inhabited

namespace Value

@[match_pattern] abbrev null : Value := .scalar .null
@[match_pattern] abbrev bool (b : Bool) : Value := .scalar (.bool b)
@[match_pattern] abbrev int (i : Int) : Value := .scalar (.int i)
@[match_pattern] abbrev float (x : Binary64) : Value := .scalar (.float x)
@[match_pattern] abbrev text (s : String) : Value := .scalar (.text s)

/-- A mapping with text keys. -/
def object (entries : List (String × Value)) : Value :=
  .map (entries.map fun e => (.text e.1, e.2))

/-- The kind of a value, as messages name it. -/
def kindName : Value → String
  | .scalar .null => "NoneType"
  | .scalar (.bool _) => "bool"
  | .scalar (.int _) => "int"
  | .scalar (.float _) => "float"
  | .scalar (.text _) => "str"
  | .scalar (.date _) => "date"
  | .scalar (.timestamp _) => "datetime"
  | .scalar (.bytes _) => "bytes"
  | .list _ => "list"
  | .map _ => "dict"
  | .set _ => "set"
  | .endless => "dict"

/-- Null, false, zero and everything empty stand for a value that is not given. -/
def isVacant : Value → Bool
  | .scalar .null => true
  | .scalar (.bool b) => !b
  | .scalar (.int i) => i == 0
  | .scalar (.float x) => x.isZero
  | .scalar (.text s) => s == ""
  | .scalar (.date _) | .scalar (.timestamp _) => false
  | .scalar (.bytes b) => b.isEmpty
  | .list items => items.isEmpty
  | .map entries => entries.isEmpty
  | .set members => members.isEmpty
  | .endless => false

def isNull : Value → Bool
  | .scalar .null => true
  | _ => false

def isText : Value → Bool
  | .scalar (.text _) => true
  | _ => false

/-- Exactly the boolean `true`. -/
def isTrue : Value → Bool
  | .scalar (.bool true) => true
  | _ => false

/-- The value at a text key among the entries of a mapping. -/
def find? (key : String) : List (Scalar × Value) → Option Value
  | [] => none
  | (k, v) :: rest => if k = .text key then some v else find? key rest

/-- The value at a text key of a mapping. -/
def get? (key : String) : Value → Option Value
  | .map entries => find? key entries
  | _ => none

/-- The entries of a mapping. -/
def entries? : Value → Option (List (Scalar × Value))
  | .map entries => some entries
  | _ => none

/-- The members of a value that is walked through: a mapping gives its keys and a text its
characters. -/
def members? : Value → Option (List Value)
  | .list items => some items
  | .map entries => some (entries.map (.scalar ·.1))
  | .set members => some (members.map .scalar)
  | .scalar (.text s) => some (s.toList.map fun c => .text (String.singleton c))
  | .scalar (.bytes b) => some (b.map fun x => .int x.toNat)
  | .scalar _ | .endless => none

end Value

/-- Where a list of pairs is read as a mapping: the entry under a key that is the `same` is replaced in
place and keeps its key, or the entry is added at the end. -/
def insertBy {κ ν : Type} (same : κ → κ → Bool) (key : κ) (value : ν) : List (κ × ν) → List (κ × ν)
  | [] => [(key, value)]
  | (k, v) :: rest =>
    if same k key then (k, value) :: rest else (k, v) :: insertBy same key value rest

/-- An entry with the value for an equal key, in place of the one there is. -/
def insertEntry {κ ν : Type} [BEq κ] (key : κ) (value : ν) (entries : List (κ × ν)) :
    List (κ × ν) := insertBy (· == ·) key value entries

end ApiContract
