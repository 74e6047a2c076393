import ApiContract.Fault.Rejection
import ApiContract.Number.Decimal
import ApiContract.Text.Occurrence
import ApiContract.Value.Basic

/-!
# Fields of records

A field is read from a loosely typed value. Texts are taken as they are; integers, numbers and flags
are also read from texts and from each other where nothing is lost. Each reader says what is wrong
with a value that it does not take.
-/

namespace ApiContract

open ApiContract.Number ApiContract.Text

/-- A bound of a number, which keeps the kind it was written in. -/
inductive Bound where
  | int (i : Int)
  | float (x : Binary64)
  deriving DecidableEq, Repr

namespace Field

/-- Bytes are read as the text that they encode. -/
def ofBytes {α : Type} (read : String → Checked α) (otherwise : IssueKind) (b : List UInt8) :
    Checked α :=
  match String.fromUTF8? ⟨b.toArray⟩ with
  | some s => read s
  | none => .issue otherwise

def text : Value → Checked String
  | .text s => .ok s
  | .scalar (.bytes b) => ofBytes .ok .textEncoding b
  | _ => .issue .textExpected

/-- A field that may be null. -/
def optional {α : Type} (read : Value → Checked α) (v : Value) : Checked (Option α) :=
  if v.isNull then .ok none else some <$> read v

/-- An integer in digits, with single underscores between them and zeros behind a point. Zeros may stand
in front of the other digits, but not behind a minus. -/
def integerOfText? (text : List Char) : Option Int := do
  let (negative, body) := readSign (trim text)
  let whole := body.takeWhile (· != '.')
  let digits ← digitGroups? asciiDigit? whole
  if negative && digits.head? == some 0 && digits.length ≠ 1 then none
  match body.drop whole.length with
  | [] | '.' :: '0' :: _ =>
    if (body.drop (whole.length + 1)).all (· == '0') then return signed negative (ofDigits 10 digits)
    else none
  | _ => none

/-- Whether a text starts with more digits than an integer may have. -/
def isLongInteger (text : List Char) : Bool :=
  let digits := if text.head? == some '-' then text.drop 1 else text
  digits.head? != some '0' && numeralLimit < (digits.takeWhile Char.isDigit).length

def integerOfText (s : String) : Checked Int :=
  if isLongInteger s.toList then .issue .integerSize
  else
    match integerOfText? s.toList with
    | some i => .ok i
    | none => .issue .integerText

/-- The end of the range of integers of 64 bits. -/
def wordLimit : Int := 9223372036854775808

/-- Doubles are taken as integers within the range of 64 bits. -/
def integerOfFloat (x : Binary64) : Checked Int :=
  match x with
  | .finite .. =>
    match x.toInt? with
    | none => .issue .integerFraction
    | some i => if -wordLimit < i ∧ i < wordLimit then .ok i else .issue .integerSize
  | _ => .issue .finiteExpected

def integer : Value → Checked Int
  | .int i => .ok i
  | .bool b => .ok (if b then 1 else 0)
  | .float x => integerOfFloat x
  | .text s => integerOfText s
  | .scalar (.bytes b) => ofBytes integerOfText .integerText b
  | _ => .issue .integerExpected

/-- A number in digits or by name, with white space around it or else with underscores between its
characters, one at a time. -/
def floatOfText? (text : List Char) : Option Binary64 :=
  let read (text : List Char) : Option Binary64 :=
    let (negative, body) := readSign text
    floatOfBody? negative body
  match read (trim text) with
  | some x => some x
  | none =>
    if text.head? = some '_' ∨ text.getLast? = some '_' ∨ occursIn ['_', '_'] text then none
    else read (text.filter (· != '_'))

def floatOfText (s : String) : Checked Binary64 :=
  match floatOfText? s.toList with
  | some x => .ok x
  | none => .issue .numberText

/-- A bound from a text: an integer if it can be and a double otherwise. -/
def boundOf (int : Checked Int) (float : Checked Binary64) : Checked Bound :=
  match int, float with
  | .ok i, _ => .ok (.int i)
  | _, .ok x => .ok (.float x)
  | _, _ => .issues ((int.under "int").found ++ (float.under "float").found)

/-- A bound of any kind; issues are placed under the kind that refused. -/
def bound : Value → Checked Bound
  | .int i => .ok (.int i)
  | .bool b => .ok (.int (if b then 1 else 0))
  | .float x => .ok (.float x)
  | .text s => boundOf (integerOfText s) (floatOfText s)
  | .scalar (.bytes b) =>
    boundOf (ofBytes integerOfText .integerText b) (ofBytes floatOfText .numberText b)
  | _ => boundOf (.issue .integerExpected) (.issue .numberExpected)

/-- The texts that stand for a flag, in any case. -/
def flagTexts : List (String × Bool) :=
  [("0", false), ("off", false), ("f", false), ("false", false), ("n", false), ("no", false),
    ("1", true), ("on", true), ("t", true), ("true", true), ("y", true), ("yes", true)]

def flagOfInteger (i : Int) : Checked Bool :=
  if i = 0 then .ok false else if i = 1 then .ok true else .issue .flagText

def flagOfText (s : String) : Checked Bool :=
  match flagTexts.lookup (String.ofList (s.toList.map Char.toLower)) with
  | some b => .ok b
  | none => .issue .flagText

/-- A flag; integers count within the range of 64 bits. -/
def flag : Value → Checked Bool
  | .bool b => .ok b
  | .int i => if -wordLimit ≤ i ∧ i < wordLimit then flagOfInteger i else .issue .flagExpected
  | .float x =>
    match integerOfFloat x with
    | .ok i => flagOfInteger i
    | .issues _ => .issue .flagExpected
  | .text s => flagOfText s
  | .scalar (.bytes b) => ofBytes flagOfText .flagText b
  | _ => .issue .flagExpected

/-- A list of texts; an issue is placed under the position of the item. -/
def texts (items : List Value) : Checked (List String) :=
  let read := items.zipIdx.map fun (v, i) => (text v).under (intString i)
  match read.flatMap Checked.found with
  | [] => .ok (read.filterMap fun | .ok s => some s | .issues _ => none)
  | found => .issues found

/-- A key as a place of an issue. -/
def keyPlace : Scalar → String
  | .text s => s
  | .int i => intString i
  | .bool b => if b then "1" else "0"
  | k => (Value.scalar k).kindName

end Field

end ApiContract
