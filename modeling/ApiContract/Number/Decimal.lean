import ApiContract.Number.Binary64
import ApiContract.Number.Numeral

/-!
# Decimal notation of doubles

`readFloat?` reads a double: digits with a point and an exponent, or the name of a value that is not
finite, with a sign in front and blanks around it.
-/

namespace ApiContract.Number

open ApiContract.Text

/-- Digits with a point and an exponent, of which one of the first two may be missing. -/
def decimalOfText? (negative : Bool) (text : List Char) : Option Binary64 := do
  let whole := text.takeWhile Char.isDigit
  let rest := text.drop whole.length
  let (places, rest) :=
    match rest with
    | '.' :: rest => (rest.takeWhile Char.isDigit, rest.dropWhile Char.isDigit)
    | rest => ([], rest)
  if whole.isEmpty && places.isEmpty then none
  else
    let exponent ←
      match rest with
      | [] => some 0
      | e :: rest =>
        if e = 'e' ∨ e = 'E' then
          let (negative, digits) := readSign rest
          if digits.isEmpty || !digits.all Char.isDigit then none
          else some (signed negative (Nat.ofDigitChars 10 digits 0))
        else none
    return .ofDecimal negative (Nat.ofDigitChars 10 (whole ++ places) 0) (exponent - places.length)

def floatOfBody? (negative : Bool) (text : List Char) : Option Binary64 :=
  let name := String.ofList (text.map Char.toLower)
  if name = "inf" ∨ name = "infinity" then some (.infinite negative)
  else if name = "nan" then some .nan
  else decimalOfText? negative text

def readFloat? (text : List Char) : Option Binary64 :=
  let (negative, body) := readSign (strip text)
  floatOfBody? negative body

end ApiContract.Number
