import ApiContract.Text.Blank
import ApiContract.Text.Digit

/-!
# Integer numerals

`intText` writes an integer in decimal. `readInt?` reads one leniently: blanks around it, a sign,
digits of any script, and single underscores between digits. Numerals longer than `numeralLimit` are
not read.
-/

namespace ApiContract.Number

open ApiContract.Text

/-- The most digits a decimal numeral may have. -/
def numeralLimit : Nat := 4300

def natText (n : Nat) : List Char := Nat.toDigits 10 n

def intText : Int → List Char
  | .ofNat n => natText n
  | .negSucc n => '-' :: natText (n + 1)

def intString (i : Int) : String := String.ofList (intText i)

theorem ofDigitChars_natText (n : Nat) : Nat.ofDigitChars 10 (natText n) 0 = n :=
  Nat.ofDigitChars_toDigits (by decide) (by decide)

/-- A sign and what follows it; no sign counts as plus. -/
def readSign : List Char → Bool × List Char
  | '-' :: rest => (true, rest)
  | '+' :: rest => (false, rest)
  | text => (false, text)

def signed (negative : Bool) (n : Nat) : Int := if negative then -(n : Int) else n

/-- The digits of a numeral with single underscores between them; the text must be used up. -/
def digitGroups? (value? : Char → Option Nat) : List Char → Option (List Nat)
  | [] => none
  | [c] => (value? c).map ([·])
  | c :: '_' :: rest => do return (← value? c) :: (← digitGroups? value? rest)
  | c :: rest => do return (← value? c) :: (← digitGroups? value? rest)

/-- The number with the given digits, most significant first. -/
def ofDigits (base : Nat) (digits : List Nat) : Nat := digits.foldl (fun n d => base * n + d) 0

/-- A numeral with optional sign, as a text is read where an integer is wanted. -/
def readInt? (text : List Char) : Option Int := do
  let (negative, body) := readSign (strip text)
  let digits ← digitGroups? digitValue? body
  if digits.length ≤ numeralLimit then return signed negative (ofDigits 10 digits) else none

end ApiContract.Number
