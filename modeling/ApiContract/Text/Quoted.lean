import ApiContract.Text.Digit
import ApiContract.Text.Printable

/-!
# Quoted text

`quoted` writes a text between quotes for a message: what cannot be shown is written by its number.
-/

namespace ApiContract.Text

/-- `n` in hexadecimal with exactly `width` digits. -/
def hexPadded : (width : Nat) → Nat → List Char
  | 0, _ => []
  | width + 1, n => hexPadded width (n / 16) ++ [hexDigit (n % 16)]

/-- The double quote is used for a text that holds single quotes and no double ones. -/
def quoteFor (text : List Char) : Char :=
  if text.contains '\'' && !text.contains '"' then '"' else '\''

def escapeShown (quote c : Char) : List Char :=
  if c = quote ∨ c = '\\' then ['\\', c]
  else if c = '\t' then ['\\', 't']
  else if c = '\n' then ['\\', 'n']
  else if c = '\r' then ['\\', 'r']
  else if isPrintable c then [c]
  else if c.toNat ≤ 0xff then '\\' :: 'x' :: hexPadded 2 c.toNat
  else if c.toNat ≤ 0xffff then '\\' :: 'u' :: hexPadded 4 c.toNat
  else '\\' :: 'U' :: hexPadded 8 c.toNat

def quoted (text : List Char) : List Char :=
  let quote := quoteFor text
  quote :: (text.flatMap (escapeShown quote) ++ [quote])

/-- Bytes in quotes; a byte outside of printable ASCII is written by its number. -/
def quotedBytes (bytes : List UInt8) : List Char :=
  let text := bytes.map fun b => Char.ofNat b.toNat
  let quote := quoteFor text
  let shown (c : Char) : List Char :=
    if 0x7f ≤ c.toNat then '\\' :: 'x' :: hexPadded 2 c.toNat else escapeShown quote c
  'b' :: quote :: (text.flatMap shown ++ [quote])

end ApiContract.Text
