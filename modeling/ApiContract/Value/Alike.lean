import ApiContract.Value.Basic

/-!
# Equality of values

`Scalar.alike` and `Value.alike` compare by value: numbers of different kinds are equal when they stand
for the same number, where `true` and `false` count as one and zero. Mappings are equal when they have
as many entries and each key of one has an equal entry in the other.
-/

namespace ApiContract

open ApiContract.Number

namespace Scalar

/-- The integer a boolean or an integer stands for. -/
def whole? : Scalar → Option Int
  | .bool b => some (if b then 1 else 0)
  | .int i => some i
  | _ => none

def alike : Scalar → Scalar → Bool
  | .float x, .float y => x.numEq y
  | .float x, b => x.toInt?.isSome && x.toInt? == b.whole?
  | a, .float y => y.toInt?.isSome && a.whole? == y.toInt?
  | .timestamp s, .timestamp t => s.sameInstant t
  | a, b =>
    match a.whole?, b.whole? with
    | some i, some j => i == j
    | _, _ => a == b

end Scalar

namespace Value

mutual

def alike : Value → Value → Bool
  | .scalar a, .scalar b => a.alike b
  | .list xs, .list ys => alikeItems xs ys
  | .map xs, .map ys => xs.length == ys.length && alikeEntries xs ys
  | .set xs, .set ys => xs.length == ys.length && xs.all fun a => ys.any a.alike
  | .endless, .endless => true
  | _, _ => false

def alikeItems : List Value → List Value → Bool
  | [], [] => true
  | x :: xs, y :: ys => x.alike y && alikeItems xs ys
  | _, _ => false

/-- Whether every entry of the first list has an equal one in the second. -/
def alikeEntries : List (Scalar × Value) → List (Scalar × Value) → Bool
  | [], _ => true
  | (k, v) :: rest, others =>
    (match others.find? fun e => k.alike e.1 with
      | some e => v.alike e.2
      | none => false) && alikeEntries rest others

end

end Value

end ApiContract
