import ApiContract.Value.Display

/-!
# Plain values

`Value.plain` is a value as it stands in compiled output: dates and bytes are texts, sets are lists,
keys are texts, and doubles that are no numbers are null. Bytes that encode no text stay. A value with
such bytes, or one that holds itself, cannot be written: it does not hold that `Value.isPlain`.
-/

namespace ApiContract

namespace Scalar

def plain : Scalar → Scalar
  | .float .nan | .float (.infinite _) => .null
  | .date d => .text d.text
  | .timestamp t => .text t.wireText
  | .bytes b =>
    match String.fromUTF8? ⟨b.toArray⟩ with
    | some s => .text s
    | none => .bytes b
  | s => s

/-- Whether a scalar can be written. -/
def isPlain : Scalar → Bool
  | .bytes _ => false
  | _ => true

/-- A key of a mapping as a text. -/
def plainKey : Scalar → String
  | .bool b => if b then "true" else "false"
  | .timestamp t => t.wireText
  | .bytes b => (String.fromUTF8? ⟨b.toArray⟩).getD "\ufffd"
  | s => s.display

end Scalar

namespace Value

mutual

def plain : Value → Value
  | .scalar s => .scalar s.plain
  | .list items => .list (plainItems items)
  | .map entries => .map (plainEntries [] entries)
  | .set members => .list (members.map fun s => .scalar s.plain)
  | .endless => .endless

def plainItems : List Value → List Value
  | [] => []
  | v :: rest => v.plain :: plainItems rest

/-- The entries with their keys as texts, after those already there. -/
def plainEntries (before : List (Scalar × Value)) :
    List (Scalar × Value) → List (Scalar × Value)
  | [] => before
  | (k, v) :: rest => plainEntries (insertEntry (.text k.plainKey) v.plain before) rest

/-- Whether a value can be written. -/
def isPlain : Value → Bool
  | .scalar s => s.isPlain
  | .list items => arePlain items
  | .map entries => entriesArePlain entries
  | .set members => members.all Scalar.isPlain
  | .endless => false

def arePlain : List Value → Bool
  | [] => true
  | v :: rest => v.isPlain && arePlain rest

def entriesArePlain : List (Scalar × Value) → Bool
  | [] => true
  | (_, v) :: rest => v.isPlain && entriesArePlain rest

end

end Value

end ApiContract
