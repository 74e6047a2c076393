import ApiContract.Number.Decimal
import ApiContract.Text.Letter
import ApiContract.Value.Basic
import ApiContract.Yaml.Cursor

/-!
# Types of YAML scalars

A `Tag` is the type of a node. `Tag.ofPlain` finds the type of a scalar that is written without one, and
`Tag.read` the value of a scalar of a type.
-/

namespace ApiContract.Yaml

open ApiContract.Number ApiContract.Text

inductive Tag where
  | null
  | bool
  | int
  | float
  | binary
  | timestamp
  | text
  | sequence
  | mapping
  | orderedMap
  | pairs
  | set
  /-- The key under which other mappings are merged into one. -/
  | merge
  /-- The key of the value of a mapping that stands for a scalar. -/
  | content
  | unknown
  deriving DecidableEq, Repr

namespace Tag

/-- What the names of the types start with. -/
def space : String := "tag:yaml.org,2002:"

def ofName (name : String) : Tag :=
  let known : List (String × Tag) :=
    [("null", null), ("bool", bool), ("int", int), ("float", float), ("binary", binary),
      ("timestamp", timestamp), ("str", text), ("seq", sequence), ("map", mapping),
      ("omap", orderedMap), ("pairs", pairs), ("set", set), ("merge", merge), ("value", content)]
  ((known.find? fun e => space ++ e.1 == name).map (·.2)).getD unknown

/-! ## Parts of scalars -/

def isRun (p : Char → Bool) (text : List Char) : Bool := !text.isEmpty && text.all p

def isPlace (p : Char → Bool) (c : Char) : Bool := p c || c == '_'

def isBinary (c : Char) : Bool := c == '0' || c == '1'

def isOctal (c : Char) : Bool := '0' ≤ c && c ≤ '7'

def isHex (c : Char) : Bool := (hexDigit? c).isSome

/-- The text without a sign in front. -/
def unsigned (text : List Char) : List Char := (readSign text).2

/-- Digits and underscores, of which the first is a digit. -/
def isGrouped (text : List Char) : Bool :=
  text.head?.any Char.isDigit && text.all (isPlace Char.isDigit)

/-- A number of minutes or seconds. -/
def isSixtieth : List Char → Bool
  | [a] => a.isDigit
  | [a, b] => '0' ≤ a && a ≤ '5' && b.isDigit
  | _ => false

/-- Several numbers with colons between them. -/
def isSexagesimal (leading : List Char → Bool) (text : List Char) : Bool :=
  match text.splitOn ':' with
  | first :: second :: others => leading first && (second :: others).all isSixtieth
  | _ => false

/-- Nothing, or an exponent with its sign. -/
def isExponent : List Char → Bool
  | [] => true
  | e :: sign :: digits =>
    (e == 'e' || e == 'E') && (sign == '-' || sign == '+') && isRun Char.isDigit digits
  | _ => false

/-! ## Types of plain scalars -/

def boolNames : List (String × Bool) :=
  [("yes", true), ("no", false), ("true", true), ("false", false), ("on", true), ("off", false)]

/-- A word in lower case, in upper case, or with a capital in front. -/
def isWrittenAs (word : String) (text : List Char) : Bool :=
  let word := word.toList
  text == word || text == word.map Char.toUpper ||
    text == (word.take 1).map Char.toUpper ++ word.drop 1

def isInt (text : List Char) : Bool :=
  match unsigned text with
  | ['0'] => true
  | '0' :: 'b' :: digits => isRun (isPlace isBinary) digits
  | '0' :: 'x' :: digits => isRun (isPlace isHex) digits
  | '0' :: digits => isRun (isPlace isOctal) digits
  | digits => isGrouped digits || isSexagesimal isGrouped digits

/-- Digits with a point behind them; a sign may stand only before digits. -/
def isFloat (text : List Char) : Bool :=
  let body := unsigned text
  let whole := body.takeWhile (· != '.')
  match body.drop whole.length with
  | [] => false
  | _ :: rest =>
    let places := rest.takeWhile (isPlace Char.isDigit)
    let ending := rest.drop places.length
    if whole.isEmpty then
      isWrittenAs "inf" rest ||
        (body == text && (rest == ['n', 'a', 'n'] || rest == ['N', 'a', 'N'] ||
          rest == ['N', 'A', 'N'] || (isGrouped places && isExponent ending)))
    else
      (isGrouped whole && isExponent ending) ||
        (isSexagesimal isGrouped whole && ending.isEmpty)

/-! ## Timestamps -/

/-- The numbers of a timestamp; those of the time of day may be missing. -/
structure Moment where
  year : Nat
  month : Nat
  day : Nat
  time : Option (Nat × Nat × Nat)
  fraction : List Char
  /-- The sign, hours and minutes of an offset from universal time. -/
  offset : Option (Bool × Nat × Nat)

/-- A number of at least `least` and at most `most` digits. -/
def number? (least most : Nat) (text : List Char) : Option (Nat × List Char) :=
  let digits := (text.take most).takeWhile Char.isDigit
  if digits.length < least then none
  else some (Nat.ofDigitChars 10 digits 0, text.drop digits.length)

/-- A number behind a mark. -/
def numberAfter? (mark : Char) (least most : Nat) : List Char → Option (Nat × List Char)
  | c :: rest => if c = mark then number? least most rest else none
  | [] => none

def offset? (text : List Char) : Option (Option (Bool × Nat × Nat)) :=
  match text.dropWhile isBlank with
  | [] => if text.isEmpty then some none else none
  | ['Z'] => some (some (false, 0, 0))
  | sign :: rest =>
    if sign = '+' ∨ sign = '-' then do
      let (hours, rest) ← number? 1 2 rest
      if rest.isEmpty then return some (sign == '-', hours, 0)
      else
        let (minutes, rest) ← numberAfter? ':' 2 2 rest
        if rest.isEmpty then return some (sign == '-', hours, minutes) else none
    else none

def moment? (text : List Char) : Option Moment := do
  let (year, rest) ← number? 4 4 text
  let (month, rest) ← numberAfter? '-' 1 2 rest
  let (day, rest) ← numberAfter? '-' 1 2 rest
  match rest with
  | [] => return { year, month, day, time := none, fraction := [], offset := none }
  | separator :: after =>
    let rest ←
      if separator = 'T' ∨ separator = 't' then some after
      else if isBlank separator then some (after.dropWhile isBlank)
      else none
    let (hour, rest) ← number? 1 2 rest
    let (minute, rest) ← numberAfter? ':' 2 2 rest
    let (second, rest) ← numberAfter? ':' 2 2 rest
    let (fraction, rest) :=
      match rest with
      | '.' :: rest => (rest.takeWhile Char.isDigit, rest.dropWhile Char.isDigit)
      | rest => ([], rest)
    return { year, month, day, time := some (hour, minute, second), fraction,
             offset := ← offset? rest }

/-- A date on its own has to have all its digits. -/
def isTimestamp (text : List Char) : Bool :=
  (moment? text).any fun m => m.time.isSome || text.length == 10

/-- The date or timestamp with the given numbers, if the calendar has one. -/
def Moment.value? (m : Moment) : Option Scalar := do
  let date ← Date.ofNumbers? m.year m.month m.day
  match m.time with
  | none => return .date date
  | some (hour, minute, second) =>
    let digits := m.fraction.take 6
    let microsecond := Nat.ofDigitChars 10 (digits ++ List.replicate (6 - digits.length) '0') 0
    let time ← TimeOfDay.ofNumbers? hour minute second microsecond
    match m.offset with
    | none => return .timestamp { date, time, offset := none }
    | some (negative, hours, minutes) =>
      let offset := hours * 60 + minutes
      if offset < 1440 then
        return .timestamp { date, time, offset := some (signed negative offset) }
      else none

/-- The text without a line feed at its end. -/
def withoutLineFeed (text : List Char) : List Char :=
  if text.getLast? == some '\n' then text.dropLast else text

/-- The type of a line that is written without one. -/
def ofLine (text : List Char) : Tag :=
  if boolNames.any fun e => isWrittenAs e.1 text then bool
  else if isFloat text then float
  else if isInt text then int
  else if text == ['<', '<'] then merge
  else if text.isEmpty || text == ['~'] || isWrittenAs "null" text then null
  else if isTimestamp text then timestamp
  else if text == ['='] then content
  else .text

/-- The type of a scalar that is written without one; a line feed at its end does not count. -/
def ofPlain (text : List Char) : Tag :=
  if text == ['\n'] then .text else ofLine (withoutLineFeed text)

/-! ## Values -/

/-- A numeral of a base, which may have a sign and the mark of the base in front. -/
def numeral? (base : Nat) (mark : Char) (text : List Char) : Option Int := do
  let (negative, body) := readSign (strip text)
  let digits :=
    match body with
    | '0' :: c :: rest => if c.toLower = mark ∧ !rest.isEmpty then rest else body
    | _ => body
  let values ← digits.mapM hexDigit?
  if digits.isEmpty || !values.all (· < base) then none
  else return signed negative (ofDigits base values)

/-- The sum of parts that count sixty times as much as those behind them. -/
def sexagesimal? (text : List Char) : Option Int :=
  (text.splitOn ':').foldlM (fun n part => do return n * 60 + (← readInt? part)) 0

def int? (text : List Char) : Option Int := do
  let (negative, body) := readSign (text.filter (· != '_'))
  let n ←
    match body with
    | [] => none
    | ['0'] => some 0
    | '0' :: 'b' :: digits => numeral? 2 'b' digits
    | '0' :: 'x' :: digits => numeral? 16 'x' digits
    | '0' :: _ => numeral? 8 'o' body
    | _ => if body.contains ':' then sexagesimal? body else readInt? body
  return if negative then -n else n

/-- The sum of parts that count sixty times as much as those behind them, rounded after each part. -/
def sexagesimalFloat? (text : List Char) : Option Binary64 := do
  let parts ← (text.splitOn ':').mapM readFloat?
  let weighted ← parts.reverse.zipIdx.mapM fun (x, i) => x.scale? (Nat.pow 60 i)
  return weighted.foldl .add (.zero false)

def float? (text : List Char) : Option Binary64 := do
  let (negative, body) := readSign ((text.filter (· != '_')).flatMap lowerChar)
  let x ←
    if body == ['.', 'i', 'n', 'f'] then some (.infinite false)
    else if body == ['.', 'n', 'a', 'n'] then some .nan
    else if body.contains ':' then sexagesimalFloat? body
    else readFloat? body
  return if negative then x.negate else x

/-- The six bits that a letter of base 64 stands for. -/
def sixBits? (c : Char) : Option Nat :=
  if 'A' ≤ c && c ≤ 'Z' then some (c.toNat - 'A'.toNat)
  else if 'a' ≤ c && c ≤ 'z' then some (c.toNat - 'a'.toNat + 26)
  else if c.isDigit then some (c.toNat - '0'.toNat + 52)
  else if c == '+' then some 62
  else if c == '/' then some 63
  else none

/-- Bytes in base 64. `before` holds the letters of an unfinished group, last first, and `pads` counts
the padding behind them. Other characters are passed over. -/
def base64? (before : List Nat) (pads : Nat) : List Char → Option (List UInt8)
  | [] => if before.isEmpty then some [] else none
  | c :: rest =>
    let bytes : List UInt8 :=
      match before with
      | [b, a] => [(a * 4 + b / 16).toUInt8]
      | [d, b, a] => [(a * 4 + b / 16).toUInt8, (b % 16 * 16 + d / 4).toUInt8]
      | _ => []
    if c == '=' then
      if 2 ≤ before.length && 4 ≤ before.length + pads + 1 then some bytes
      else base64? before (if 2 ≤ before.length then pads + 1 else pads) rest
    else
      match sixBits? c, before with
      | none, _ => base64? before pads rest
      | some n, [d, _, _] => do return bytes ++ [(d % 4 * 64 + n).toUInt8] ++ (← base64? [] 0 rest)
      | some n, _ => base64? (n :: before) 0 rest

def orNoValue {α : Type} : Option α → Except Failure α
  | some a => .ok a
  | none => .error .noValue

/-- The value of a scalar of a type. -/
def read (tag : Tag) (text : List Char) : Except Failure Scalar :=
  match tag with
  | null => .ok .null
  | bool => .bool <$> orNoValue (boolNames.lookup (String.ofList (lower text)))
  | int => .int <$> orNoValue (int? text)
  | float => .float <$> orNoValue (float? text)
  | timestamp => orNoValue ((moment? (withoutLineFeed text)).bind (·.value?))
  | .text => .ok (.text (String.ofList text))
  | binary =>
    match text.all (·.toNat < 128), base64? [] 0 text with
    | true, some bytes => .ok (.bytes bytes)
    | _, _ => .error .malformed
  | _ => .error .malformed

end Tag

end ApiContract.Yaml
