/-!
# Templates

A template is a text with names in braces. `pieces` cuts it into literal text and names in one pass
from left to right, so that what replaces a name is never looked at again. `anyName?` and `plainName?`
are the two rules of what stands between the braces.
-/

namespace ApiContract.Text

inductive Piece where
  | literal (c : Char)
  | name (text : List Char)
  deriving DecidableEq, Repr

/-- A name of at least one character up to the first brace that can close it, on one line. -/
def anyName? : List Char → Option (List Char × List Char)
  | [] => none
  | c :: rest =>
    let inside := rest.takeWhile fun d => d != '\x7d' && d != '\n'
    match c == '\n', rest.drop inside.length with
    | false, '\x7d' :: after => some (c :: inside, after)
    | _, _ => none

/-- A name of at least one character without braces. -/
def plainName? (text : List Char) : Option (List Char × List Char) :=
  let inside := text.takeWhile fun d => d != '\x7b' && d != '\x7d'
  match inside.isEmpty, text.drop inside.length with
  | false, '\x7d' :: after => some (inside, after)
  | _, _ => none

/-- The pieces of a text of at most `length` characters. -/
def piecesWithin (name? : List Char → Option (List Char × List Char)) :
    (length : Nat) → List Char → List Piece
  | 0, _ => []
  | _, [] => []
  | length + 1, c :: rest =>
    match c == '\x7b', name? rest with
    | true, some (name, after) => .name name :: piecesWithin name? length after
    | _, _ => .literal c :: piecesWithin name? length rest

/-- The pieces of a text, where `name?` reads what follows an opening brace. -/
def pieces (name? : List Char → Option (List Char × List Char)) (text : List Char) : List Piece :=
  piecesWithin name? text.length text

/-- The text with every name replaced by what `replace` gives for it. -/
def Piece.fill (replace : List Char → List Char) : Piece → List Char
  | .literal c => [c]
  | .name text => replace text

end ApiContract.Text
