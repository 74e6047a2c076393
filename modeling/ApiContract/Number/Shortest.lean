import ApiContract.Number.Binary64
import ApiContract.Number.Numeral

/-!
# Shortest decimals

`shortest` finds the fewest decimal digits that read back as a given double, and of those the nearest.
A `FloatLayout` says how the digits are written; `FloatLayout.write` does so.
-/

namespace ApiContract.Number

open Binary64

/-- The `p` with `10 ^ (p - 1) ≤ num / den < 10 ^ p`, for a positive quotient. -/
def decimalMagnitude (num den : Nat) : Int :=
  if den ≤ num then ((Nat.toDigits 10 (num / den)).length : Int)
  else
    let k := (Nat.toDigits 10 (den / num)).length
    if den ≤ Nat.pow 10 (k - 1) * num then 2 - (k : Int) else 1 - (k : Int)

/-- The decimal with unit `10 ^ scale` that reads back as the double `m · 2 ^ e`, if one of the two
neighbours of the double on that grid does: the nearer one, or the even one of two equally near. -/
def decimalOnGrid? (mantissa exponent : Nat) (scale : Int) : Option (Nat × Int) :=
  let num := mantissa * Nat.pow 2 exponent * Nat.pow 10 (-scale).toNat
  let den := steps * Nat.pow 10 scale.toNat
  let low := num / den
  let readsBack (n : Nat) : Bool := ofDecimal false n scale == .finite false mantissa exponent
  match readsBack low, readsBack (low + 1) with
  | true, true => some (roundHalfEven num den, scale)
  | true, false => some (low, scale)
  | false, true => some (low + 1, scale)
  | false, false => none

/-- Digits and scale of the shortest decimal that reads back as the positive double `m · 2 ^ e`. The
full expansion stands behind the search, which seventeen digits always end. -/
def shortest (mantissa exponent : Nat) : Nat × Int :=
  let magnitude := decimalMagnitude (mantissa * Nat.pow 2 exponent) steps
  let found := (List.range 17).findSome? fun n =>
    decimalOnGrid? mantissa exponent (magnitude - (n + 1 : Nat))
  found.getD (mantissa * Nat.pow 2 exponent * Nat.pow 5 1074, -1074)

/-- How doubles are written. -/
structure FloatLayout where
  /-- The digits are written in place while the point lies within these many places of the first
  digit: more than the first number, and at most the second. -/
  pointAbove : Int
  pointUpTo : Int
  /-- The least number of digits of an exponent. -/
  exponentWidth : Nat
  nan : List Char
  infinity : List Char

namespace FloatLayout

def writeExponent (layout : FloatLayout) (exponent : Int) : List Char :=
  let digits := natText exponent.natAbs
  (if exponent < 0 then '-' else '+') ::
    (List.replicate (layout.exponentWidth - digits.length) '0' ++ digits)

/-- The digits `d₁d₂…` with the point after place `point`, which may lie outside of them. -/
def writeDigits (layout : FloatLayout) (digits : List Char) (point : Int) : List Char :=
  if point ≤ layout.pointAbove ∨ layout.pointUpTo < point then
    let fraction := digits.drop 1
    digits.take 1 ++ (if fraction.isEmpty then [] else '.' :: fraction) ++
      'e' :: layout.writeExponent (point - 1)
  else if point ≤ 0 then '0' :: '.' :: (List.replicate (-point).toNat '0' ++ digits)
  else
    let whole := digits.take point.toNat
    let fraction := digits.drop point.toNat
    whole ++ List.replicate (point.toNat - whole.length) '0' ++
      '.' :: (if fraction.isEmpty then ['0'] else fraction)

/-- The digits without the zeros at their end. -/
def trimZeros (digits : List Char) : List Char := (digits.reverse.dropWhile (· == '0')).reverse

def write (layout : FloatLayout) : Binary64 → List Char
  | .nan => layout.nan
  | .infinite negative => (if negative then ['-'] else []) ++ layout.infinity
  | .finite negative mantissa exponent =>
    let body :=
      if mantissa = 0 then ['0', '.', '0']
      else
        let (n, scale) := shortest mantissa exponent
        let digits := natText n
        layout.writeDigits (trimZeros digits) (digits.length + scale)
    (if negative then ['-'] else []) ++ body

end FloatLayout

end ApiContract.Number
