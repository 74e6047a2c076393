import ApiContract.Number.Binary64
import ApiContract.Number.Numeral
import ApiContract.Value.Basic

/-!
# Reading JSON

`Json.read` decodes a text. What goes wrong is a `Problem`, together with what was left of the text at
the place of the problem; `Place.of` turns that into a line, a column and a number of characters.
-/

namespace ApiContract.Json

open ApiContract.Number ApiContract.Text

/-- Why a text is no JSON. -/
inductive Problem where
  | byteOrderMark
  | valueExpected
  | nameExpected
  | colonExpected
  | commaExpected
  | unterminatedText
  | controlCharacter
  | unknownEscape
  | unitEscape
  | extraData
  deriving DecidableEq, Repr

namespace Problem

def message : Problem → String
  | byteOrderMark => "Unexpected UTF-8 BOM (decode using utf-8-sig)"
  | valueExpected => "Expecting value"
  | nameExpected => "Expecting property name enclosed in double quotes"
  | colonExpected => "Expecting ':' delimiter"
  | commaExpected => "Expecting ',' delimiter"
  | unterminatedText => "Unterminated string starting at"
  | controlCharacter => "Invalid control character at"
  | unknownEscape => "Invalid \\escape"
  | unitEscape => "Invalid \\uXXXX escape"
  | extraData => "Extra data"

end Problem

/-- How reading fails: by a problem with the text that was left, or by a numeral that is too long. -/
inductive Failure where
  | problem (problem : Problem) (rest : List Char)
  | longNumeral

def fail {α : Type} (problem : Problem) (rest : List Char) : Except Failure α :=
  .error (.problem problem rest)

/-- A place in a text: line and column from one, and characters before it. -/
structure Place where
  line : Nat
  column : Nat
  index : Nat
  deriving DecidableEq, Repr

namespace Place

/-- The place in `text` at which `rest` is left. -/
def of (text rest : List Char) : Place :=
  let before := text.take (text.length - rest.length)
  let lastLine := before.reverse.takeWhile (· != '\n')
  { line := before.count '\n' + 1, column := lastLine.length + 1, index := before.length }

def text (place : Place) : String :=
  "line " ++ intString place.line ++ " column " ++ intString place.column ++ " (char " ++
    intString place.index ++ ")"

end Place

/-! ## Scalars -/

def isBlank (c : Char) : Bool := c == ' ' || c == '\t' || c == '\n' || c == '\r'

def skipBlanks (text : List Char) : List Char := text.dropWhile isBlank

/-- The value of four hexadecimal digits. -/
def hexUnit? (a b c d : Char) : Option Nat := do
  return ofDigits 16 [← hexDigit? a, ← hexDigit? b, ← hexDigit? c, ← hexDigit? d]

def isHighSurrogate (unit : Nat) : Bool := 0xd800 ≤ unit && unit ≤ 0xdbff

def isLowSurrogate (unit : Nat) : Bool := 0xdc00 ≤ unit && unit ≤ 0xdfff

/-- The character of a UTF-16 unit. A surrogate on its own is no character, and there are texts in JSON
that hold one; all of them are read as the replacement character here. -/
def unitChar (unit : Nat) : Char :=
  if isHighSurrogate unit || isLowSurrogate unit then '\ufffd' else Char.ofNat unit

/-- The low surrogate that follows a high one. An escape is looked at if more text follows it. -/
def lowSurrogate? (text : List Char) : Except Failure (Option (Nat × List Char)) :=
  match text with
  | '\\' :: 'u' :: a :: b :: c :: d :: next :: rest =>
    match hexUnit? a b c d with
    | none => fail .unitEscape (text.drop 1)
    | some unit => .ok (if isLowSurrogate unit then some (unit, next :: rest) else none)
  | _ => .ok none

/-- An escape by number, read from its letter on; text must follow its digits. -/
def readUnitEscape (text : List Char) : Except Failure (Char × List Char) :=
  match text with
  | _ :: a :: b :: c :: d :: next :: rest =>
    match hexUnit? a b c d with
    | none => fail .unitEscape text
    | some unit =>
      if isHighSurrogate unit then do
        match ← lowSurrogate? (next :: rest) with
        | some (low, rest) =>
          return (Char.ofNat (0x10000 + (unit - 0xd800) * 0x400 + (low - 0xdc00)), rest)
        | none => return (unitChar unit, next :: rest)
      else return (unitChar unit, next :: rest)
  | _ => fail .unitEscape text

def simpleEscape? : Char → Option Char
  | '"' => some '"'
  | '\\' => some '\\'
  | '/' => some '/'
  | 'b' => some '\x08'
  | 'f' => some '\x0c'
  | 'n' => some '\n'
  | 'r' => some '\r'
  | 't' => some '\t'
  | _ => none

/-- The rest of a string whose opening quote is the first character of `start`. -/
def readText (start : List Char) : (fuel : Nat) → List Char → Except Failure (List Char × List Char)
  | 0, _ => fail .unterminatedText start
  | _, [] => fail .unterminatedText start
  | _, ['\\'] => fail .unterminatedText start
  | fuel + 1, c :: rest =>
    if c = '"' then .ok ([], rest)
    else if c = '\\' then
      if rest.head? = some 'u' then do
        let (d, rest) ← readUnitEscape rest
        let (text, rest) ← readText start fuel rest
        return (d :: text, rest)
      else
        match rest.head?.bind simpleEscape? with
        | some d => do
          let (text, rest) ← readText start fuel (rest.drop 1)
          return (d :: text, rest)
        | none => fail .unknownEscape (c :: rest)
    else if c.toNat < 0x20 then fail .controlCharacter (c :: rest)
    else do
      let (text, rest) ← readText start fuel rest
      return (c :: text, rest)

def digitRun (text : List Char) : List Char × List Char :=
  (text.takeWhile Char.isDigit, text.dropWhile Char.isDigit)

/-- The whole part of a number: a single zero or digits that start with another digit. -/
def readWhole? : List Char → Option (List Char × List Char)
  | '0' :: rest => some (['0'], rest)
  | text =>
    let (digits, rest) := digitRun text
    if digits.isEmpty then none else some (digits, rest)

/-- A point with digits after it. -/
def readFraction? : List Char → Option (List Char × List Char)
  | '.' :: text =>
    let (digits, rest) := digitRun text
    if digits.isEmpty then none else some (digits, rest)
  | _ => none

def readExponent? : List Char → Option (Int × List Char)
  | e :: text =>
    if e = 'e' ∨ e = 'E' then
      let (negative, text) := readSign text
      let (digits, rest) := digitRun text
      if digits.isEmpty then none else some (signed negative (Nat.ofDigitChars 10 digits 0), rest)
    else none
  | [] => none

/-- A number: an integer, or a double if it has a fraction or an exponent. -/
def readNumber (text : List Char) : Except Failure (Scalar × List Char) :=
  let (negative, body) :=
    match text with
    | '-' :: rest => (true, rest)
    | _ => (false, text)
  match readWhole? body with
  | none => fail .valueExpected text
  | some (whole, rest) =>
    let fraction := readFraction? rest
    let rest := (fraction.map (·.2)).getD rest
    let exponent := readExponent? rest
    let rest := (exponent.map (·.2)).getD rest
    if fraction.isNone && exponent.isNone then
      if whole.length ≤ numeralLimit then
        .ok (.int (signed negative (Nat.ofDigitChars 10 whole 0)), rest)
      else .error .longNumeral
    else
      let places := (fraction.map (·.1)).getD []
      let scale := (exponent.map (·.1)).getD 0 - places.length
      .ok (.float (.ofDecimal negative (Nat.ofDigitChars 10 (whole ++ places) 0) scale), rest)

/-- The names that stand for scalars. -/
def names : List (List Char × Scalar) :=
  [(['n', 'u', 'l', 'l'], .null), (['t', 'r', 'u', 'e'], .bool true),
    (['f', 'a', 'l', 's', 'e'], .bool false), (['N', 'a', 'N'], .float .nan),
    (['I', 'n', 'f', 'i', 'n', 'i', 't', 'y'], .float (.infinite false)),
    (['-', 'I', 'n', 'f', 'i', 'n', 'i', 't', 'y'], .float (.infinite true))]

def readName? (text : List Char) : Option (Scalar × List Char) :=
  names.findSome? fun (name, s) => (name.isPrefixOf? text).map fun rest => (s, rest)

/-! ## Values -/

mutual

/-- The value at the start of the text. -/
def readValue : (fuel : Nat) → List Char → Except Failure (Value × List Char)
  | 0, text => fail .valueExpected text
  | fuel + 1, text =>
    match text with
    | '"' :: rest => do
      let (s, rest) ← readText text text.length rest
      return (.text (String.ofList s), rest)
    | '\x7b' :: rest =>
      match skipBlanks rest with
      | '\x7d' :: rest => .ok (.map [], rest)
      | rest => readEntries fuel [] rest
    | '[' :: rest =>
      match skipBlanks rest with
      | ']' :: rest => .ok (.list [], rest)
      | rest => readItems fuel [] rest
    | _ =>
      match readName? text with
      | some (s, rest) => .ok (.scalar s, rest)
      | none => do
        let (s, rest) ← readNumber text
        return (.scalar s, rest)

/-- The items of a list up to its closing bracket; `before` holds those already read, last first. -/
def readItems : (fuel : Nat) → (before : List Value) → List Char → Except Failure (Value × List Char)
  | 0, _, text => fail .valueExpected text
  | fuel + 1, before, text => do
    let (v, rest) ← readValue fuel text
    match skipBlanks rest with
    | ']' :: rest => return (.list (before.reverse ++ [v]), rest)
    | ',' :: rest => readItems fuel (v :: before) (skipBlanks rest)
    | rest => fail .commaExpected rest

/-- The entries of a mapping up to its closing brace; a later entry replaces one of the same key. -/
def readEntries : (fuel : Nat) → (before : List (Scalar × Value)) → List Char →
    Except Failure (Value × List Char)
  | 0, _, text => fail .valueExpected text
  | fuel + 1, before, text =>
    match text with
    | '"' :: rest => do
      let (key, rest) ← readText text text.length rest
      match skipBlanks rest with
      | ':' :: rest =>
        let (v, rest) ← readValue fuel (skipBlanks rest)
        let entries := insertEntry (.text (String.ofList key)) v before
        match skipBlanks rest with
        | '\x7d' :: rest => return (.map entries, rest)
        | ',' :: rest => readEntries fuel entries (skipBlanks rest)
        | rest => fail .commaExpected rest
      | rest => fail .colonExpected rest
    | _ => fail .nameExpected text

end

/-- The value that a text holds, with nothing but blanks around it. -/
def read (text : List Char) : Except Failure Value := do
  if text.head? = some '\ufeff' then fail .byteOrderMark text
  else
    let start := skipBlanks text
    let (v, rest) ← readValue (2 * start.length + 1) start
    let rest := skipBlanks rest
    if rest.isEmpty then return v else fail .extraData rest

end ApiContract.Json
