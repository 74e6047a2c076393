import ApiContract.Number.Shortest
import ApiContract.Text.Quoted
import ApiContract.Value.Basic

/-!
# Writing JSON

`Json.line` writes a value on one line in ASCII and `Json.pages` over indented lines in Unicode. Values
that JSON does not have are written as texts; `Value.isJson` tells whether there are none.
-/

namespace ApiContract

open ApiContract.Number ApiContract.Text

namespace Value

mutual

/-- Whether the value is made of what JSON has: no dates, bytes or sets, no such keys, and nothing that
holds itself. -/
def isJson : Value → Bool
  | .scalar s => isJsonScalar s
  | .list items => areJson items
  | .map entries => areJsonEntries entries
  | .set _ | .endless => false

def areJson : List Value → Bool
  | [] => true
  | v :: rest => v.isJson && areJson rest

def areJsonEntries : List (Scalar × Value) → Bool
  | [] => true
  | (k, v) :: rest => isJsonScalar k && v.isJson && areJsonEntries rest

def isJsonScalar : Scalar → Bool
  | .date _ | .timestamp _ | .bytes _ => false
  | _ => true

end

end Value

namespace Json

/-- Doubles as JSON numbers, with names for those that are no numbers. -/
def floats : FloatLayout :=
  { pointAbove := -4, pointUpTo := 16, exponentWidth := 2, nan := ['N', 'a', 'N'],
    infinity := ['I', 'n', 'f', 'i', 'n', 'i', 't', 'y'] }

/-- An escape by the number of a UTF-16 unit. -/
def unitEscape (unit : Nat) : List Char := '\\' :: 'u' :: hexPadded 4 unit

/-- How a character stands inside a JSON string; in ASCII, all others are escaped as UTF-16 units. -/
def escapeChar (ascii : Bool) (c : Char) : List Char :=
  if c = '"' then ['\\', '"']
  else if c = '\\' then ['\\', '\\']
  else if c = '\n' then ['\\', 'n']
  else if c = '\r' then ['\\', 'r']
  else if c = '\t' then ['\\', 't']
  else if c = '\x08' then ['\\', 'b']
  else if c = '\x0c' then ['\\', 'f']
  else if c.toNat < 0x20 then unitEscape c.toNat
  else if ascii && 0x7f ≤ c.toNat then
    if c.toNat < 0x10000 then unitEscape c.toNat
    else
      unitEscape (0xd800 + (c.toNat - 0x10000) / 0x400) ++
        unitEscape (0xdc00 + (c.toNat - 0x10000) % 0x400)
  else [c]

def writeText (ascii : Bool) (text : List Char) : List Char :=
  '"' :: (text.flatMap (escapeChar ascii) ++ ['"'])

/-- The text of a scalar inside quotes, where a key is wanted, and bare otherwise. -/
def scalarText : Scalar → List Char
  | .null => ['n', 'u', 'l', 'l']
  | .bool b => if b then ['t', 'r', 'u', 'e'] else ['f', 'a', 'l', 's', 'e']
  | .int i => intText i
  | .float x => floats.write x
  | .text s => s.toList
  | .date d => d.text.toList
  | .timestamp t => (t.text "T").toList
  | .bytes b => b.map fun x => Char.ofNat x.toNat

def writeScalar (ascii : Bool) : Scalar → List Char
  | .null => scalarText .null
  | .bool b => scalarText (.bool b)
  | .int i => scalarText (.int i)
  | .float x => scalarText (.float x)
  | s => writeText ascii (scalarText s)

/-- How values are laid out: the text between items, between key and value, and what stands after an
opening and before a closing bracket at each depth. -/
structure Layout where
  ascii : Bool
  comma : Nat → List Char
  colon : List Char
  opening : Nat → List Char
  closing : Nat → List Char

namespace Layout

/-- A line break and two spaces for each level. -/
def newLine (depth : Nat) : List Char := '\n' :: List.replicate (2 * depth) ' '

/-- Everything on one line, in ASCII. -/
def line : Layout where
  ascii := true
  comma _ := [',', ' ']
  colon := [':', ' ']
  opening _ := []
  closing _ := []

/-- One item on each line, indented by two spaces for each level. -/
def pages : Layout where
  ascii := false
  comma depth := ',' :: newLine (depth + 1)
  colon := [':', ' ']
  opening depth := newLine (depth + 1)
  closing depth := newLine depth

mutual

def write (layout : Layout) (depth : Nat) : Value → List Char
  | .scalar s => writeScalar layout.ascii s
  | .list [] => ['[', ']']
  | .list (v :: rest) =>
    '[' :: (layout.opening depth ++ write layout (depth + 1) v ++ writeItems layout depth rest ++
      layout.closing depth ++ [']'])
  | .map [] => ['\x7b', '\x7d']
  | .map ((k, v) :: rest) =>
    '\x7b' :: (layout.opening depth ++ writeText layout.ascii (scalarText k) ++ layout.colon ++
      write layout (depth + 1) v ++ writeEntries layout depth rest ++ layout.closing depth ++
        ['\x7d'])
  | .set members =>
    '[' :: ((members.map (writeScalar layout.ascii)).intersperse (layout.comma depth)).flatten ++
      [']']
  | .endless => scalarText .null

/-- The items of a list after the first. -/
def writeItems (layout : Layout) (depth : Nat) : List Value → List Char
  | [] => []
  | v :: rest => layout.comma depth ++ write layout (depth + 1) v ++ writeItems layout depth rest

/-- The entries of a mapping after the first. -/
def writeEntries (layout : Layout) (depth : Nat) : List (Scalar × Value) → List Char
  | [] => []
  | (k, v) :: rest =>
    layout.comma depth ++ writeText layout.ascii (scalarText k) ++ layout.colon ++
      write layout (depth + 1) v ++ writeEntries layout depth rest

end

end Layout

/-- A value on one line. -/
def line (v : Value) : String := String.ofList (Layout.line.write 0 v)

/-- A value over indented lines. -/
def pages (v : Value) : String := String.ofList (Layout.pages.write 0 v)

end Json

end ApiContract
