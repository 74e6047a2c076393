/-!
# Places in a YAML text

A `Cursor` is what is left of a text together with the place where it starts. The layout of a text
hangs on columns, so every step forward keeps them.
-/

namespace ApiContract.Yaml

/-- How reading fails. -/
inductive Failure where
  /-- The text breaks a rule of the format. -/
  | malformed
  /-- A scalar stands for no value of its type. -/
  | noValue
  deriving DecidableEq, Repr

/-! ## Classes of characters -/

/-- Characters that end a line. -/
def isBreak (c : Char) : Bool :=
  c == '\n' || c == '\r' || c == '\x85' || c == '\u2028' || c == '\u2029'

def isBlank (c : Char) : Bool := c == ' ' || c == '\t'

/-- Characters that end a word. -/
def isSpacing (c : Char) : Bool := isBlank c || isBreak c

/-- Characters that end a word where tabs belong to it. -/
def isSpaceOrBreak (c : Char) : Bool := c == ' ' || isBreak c

/-- Characters that a text may hold. -/
def isAllowed (c : Char) : Bool :=
  let n := c.toNat
  c == '\t' || c == '\n' || c == '\r' || c == '\x85' || (0x20 ≤ n && n ≤ 0x7e) ||
    (0xa0 ≤ n && n ≤ 0xfffd) || 0x10000 ≤ n

def isWordChar (c : Char) : Bool := c.isAlphanum || c == '-' || c == '_'

def isFlowIndicator (c : Char) : Bool :=
  c == ',' || c == '[' || c == ']' || c == '\x7b' || c == '\x7d'

/-- Whether a text starts with a mark of a document: three dashes or points that stand alone. -/
def isDocumentMark : List Char → Bool
  | a :: b :: c :: rest =>
    (a == '-' || a == '.') && a == b && b == c && rest.head?.all isSpacing
  | _ => false

/-! ## Cursors -/

structure Cursor where
  rest : List Char
  index : Nat := 0
  line : Nat := 0
  column : Nat := 0

namespace Cursor

/-- One character further; the byte order mark takes no column. -/
def next (c : Cursor) : Cursor :=
  match c.rest with
  | [] => c
  | ch :: rest =>
    if isBreak ch && !(ch == '\r' && rest.head? == some '\n') then
      { rest, index := c.index + 1, line := c.line + 1, column := 0 }
    else
      { rest, index := c.index + 1, line := c.line,
        column := if ch = '\ufeff' then c.column else c.column + 1 }

def skip : Nat → Cursor → Cursor
  | 0, c => c
  | n + 1, c => skip n c.next

/-- The characters up to the first that is not of a class, and the place after them. -/
def span (p : Char → Bool) (c : Cursor) : List Char × Cursor :=
  let word := c.rest.takeWhile p
  (word, c.skip word.length)

def skipWhile (p : Char → Bool) (c : Cursor) : Cursor := (c.span p).2

/-- Whether the text ends here or goes on with a character of a class. -/
def endsAt (p : Char → Bool) (c : Cursor) : Bool := c.rest.head?.all p

/-- The line break at this place; all but the two separators of Unicode count as a line feed. -/
def lineBreak? (c : Cursor) : Option (Char × Cursor) :=
  match c.rest with
  | '\r' :: '\n' :: _ => some ('\n', c.skip 2)
  | ch :: _ =>
    if ch = '\u2028' ∨ ch = '\u2029' then some (ch, c.next)
    else if isBreak ch then some ('\n', c.next)
    else none
  | [] => none

/-- After the line break at this place, if there is one. -/
def skipLineBreak (c : Cursor) : Cursor :=
  match c.lineBreak? with
  | some (_, c) => c
  | none => c

/-- After a comment, which goes up to the end of the line. -/
def skipComment (c : Cursor) : Cursor :=
  if c.rest.head? = some '#' then c.skipWhile (!isBreak ·) else c

/-- After what may end a line: spaces, a comment and the line break. -/
def endLine (c : Cursor) : Except Failure Cursor :=
  let c := (c.skipWhile (· == ' ')).skipComment
  if c.endsAt isBreak then .ok c.skipLineBreak else .error .malformed

end Cursor

end ApiContract.Yaml
