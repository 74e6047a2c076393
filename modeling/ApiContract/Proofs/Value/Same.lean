import ApiContract.Value.Alike

/-!
# Values that are the same in JSON

`Value.same` compares as `Value.alike` does, but takes a boolean for no number: `1` and `1.0` are the
same, `1` and `true` are not, at every depth.
-/

namespace ApiContract

/-- Equal scalars, where booleans are equal to booleans only. -/
def Scalar.same : Scalar → Scalar → Bool
  | .bool a, .bool b => a == b
  | .bool _, _ | _, .bool _ => false
  | a, b => a.alike b

namespace Value

mutual

def same : Value → Value → Bool
  | .scalar a, .scalar b => a.same b
  | .list xs, .list ys => sameItems xs ys
  | .map xs, .map ys => xs.length == ys.length && sameEntries xs ys
  | .set xs, .set ys => xs.length == ys.length && xs.all fun a => ys.any a.same
  | .endless, .endless => true
  | _, _ => false

def sameItems : List Value → List Value → Bool
  | [], [] => true
  | x :: xs, y :: ys => x.same y && sameItems xs ys
  | _, _ => false

/-- Whether every entry of the first list has the same one in the second. -/
def sameEntries : List (Scalar × Value) → List (Scalar × Value) → Bool
  | [], _ => true
  | (k, v) :: rest, others =>
    (match others.find? fun e => k.same e.1 with
      | some e => v.same e.2
      | none => false) && sameEntries rest others

end

/-- Only a text itself is the same as a text. -/
theorem same_text_iff {v : Value} {s : String} : v.same (.text s) = true ↔ v = .text s := by
  cases v with
  | scalar a =>
    cases a with
    | float x => cases h : x.toInt? <;> simp [same, Scalar.same, Scalar.alike, Scalar.whole?, h]
    | _ => simp [same, Scalar.same, Scalar.alike, Scalar.whole?]
  | list items => simp [same]
  | map entries => simp [same]
  | set members => simp [same]
  | endless => simp [same]

end Value

end ApiContract
