/-!
# Double precision numbers

A `Binary64` is a mantissa and an exponent over the common grid of `2 ^ (-1074)`. Everything that
produces one goes through `Binary64.ofQuotient`, which rounds a quotient of naturals to the nearest
double, a tie to the even mantissa. Comparison with integers is exact.
-/

namespace ApiContract.Number

/-- A double: `finite negative m e` stands for `m · 2 ^ e` steps of the grid, with its sign. -/
inductive Binary64 where
  | nan
  | infinite (negative : Bool)
  | finite (negative : Bool) (mantissa exponent : Nat)
  deriving DecidableEq, Repr, Inhabited

/-- Nearest integer to `n / d`; a tie goes to the even neighbour. -/
def roundHalfEven (n d : Nat) : Nat :=
  let q := n / d
  let r := n % d
  if 2 * r < d then q else if d < 2 * r then q + 1 else q + q % 2

namespace Binary64

/-- Grid steps in one. -/
def steps : Nat := Nat.pow 2 1074

/-- The largest exponent of a finite double. -/
def maxExponent : Nat := 2045

/-- The mantissa and exponent are those of a double: as many bits as there are, or the finest grid. -/
def IsCanonical (mantissa exponent : Nat) : Prop :=
  mantissa < Nat.pow 2 53 ∧ (Nat.pow 2 52 ≤ mantissa ∨ exponent = 0) ∧ exponent ≤ maxExponent

def zero (negative : Bool) : Binary64 := .finite negative 0 0

/-- The double nearest to `num / den`. -/
def ofQuotient (negative : Bool) (num den : Nat) : Binary64 :=
  let exponent := Nat.log2 (num * steps / den) - 52
  let mantissa := roundHalfEven (num * steps) (den * Nat.pow 2 exponent)
  let (mantissa, exponent) :=
    if mantissa = Nat.pow 2 53 then (Nat.pow 2 52, exponent + 1) else (mantissa, exponent)
  if maxExponent < exponent then .infinite negative else .finite negative mantissa exponent

/-- The double nearest to `digits · 10 ^ scale`. A value outside the range of doubles is recognised
by its number of digits. -/
def ofDecimal (negative : Bool) (digits : Nat) (scale : Int) : Binary64 :=
  let magnitude := (Nat.toDigits 10 digits).length + scale
  if digits = 0 ∨ magnitude < -400 then zero negative
  else if 400 < magnitude then .infinite negative
  else if 0 ≤ scale then ofQuotient negative (digits * Nat.pow 10 scale.toNat) 1
  else ofQuotient negative digits (Nat.pow 10 (-scale).toNat)

def isZero : Binary64 → Bool
  | .finite _ 0 _ => true
  | _ => false

/-- The integer a double is equal to, if it has no fraction. -/
def toInt? : Binary64 → Option Int
  | .finite negative mantissa exponent =>
    let n := mantissa * Nat.pow 2 exponent
    if n % steps = 0 then some (if negative then -((n / steps : Nat) : Int) else (n / steps : Nat))
    else none
  | _ => none

/-- Equality of numbers: a NaN equals nothing and the two zeros are equal. -/
def numEq : Binary64 → Binary64 → Bool
  | .nan, _ | _, .nan => false
  | .infinite a, .infinite b => a == b
  | .finite a m e, .finite b n f => (m == 0 && n == 0) || (a == b && m == n && e == f)
  | _, _ => false

def negate : Binary64 → Binary64
  | .nan => .nan
  | .infinite negative => .infinite !negative
  | .finite negative mantissa exponent => .finite (!negative) mantissa exponent

/-- A finite double in steps of the grid. -/
def inSteps (negative : Bool) (mantissa exponent : Nat) : Int :=
  let n := mantissa * Nat.pow 2 exponent
  if negative then -(n : Int) else n

/-- The rounded sum. A sum of zeros is negative only if both are. -/
def add : Binary64 → Binary64 → Binary64
  | .nan, _ | _, .nan => .nan
  | .infinite a, .infinite b => if a = b then .infinite a else .nan
  | .infinite a, _ | _, .infinite a => .infinite a
  | .finite a m e, .finite b n f =>
    if m = 0 ∧ n = 0 then zero (a && b)
    else
      let sum := inSteps a m e + inSteps b n f
      ofQuotient (sum < 0) sum.natAbs steps

/-- The rounded product with a positive natural number that is first rounded itself; none if that is
out of the range of doubles. -/
def scale? (x : Binary64) (factor : Nat) : Option Binary64 :=
  match x, ofQuotient false factor 1 with
  | .finite a m e, .finite _ n f => some (ofQuotient a (m * Nat.pow 2 e * (n * Nat.pow 2 f)) (steps * steps))
  | x, .finite _ _ _ => some x
  | _, _ => none

end Binary64

end ApiContract.Number
