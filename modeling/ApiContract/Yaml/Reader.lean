import ApiContract.Value.Alike
import ApiContract.Yaml.Node

/-!
# Reading YAML

`Yaml.read` decodes a text with at most one document; a text without one is null. Keys of mappings are
scalars, and a later entry takes the place of an earlier one with an equal key. The entries of mappings
that are merged into another stand in front of its own. A node that holds itself is unrolled to as many
copies, one within another, as are asked for, and the values in the innermost of them are `Value.endless`.
-/

namespace ApiContract.Yaml

/-- Keys are the same if they are equal or stand for the same number. -/
def sameKey (a b : Scalar) : Bool := a == b || a.alike b

/-- An entry of a mapping with an equal key in place of the one there is. -/
def insertEntries (entries : List (Scalar × Value)) : List (Scalar × Value) :=
  entries.foldl (fun found e => insertBy sameKey e.1 e.2 found) []

/-- The values of nodes that are being read, by their names. -/
abbrev Enclosing := List (String × Value)

namespace Node

mutual

/-- The text of a scalar, or of the scalar that a mapping stands for. -/
def text : Node → Except Failure (List Char)
  | scalar _ text => .ok text.toList
  | mapping _ entries => textAmong entries
  | knot _ node => node.text
  | sequence _ _ | circular _ => .error .malformed

def textAmong : List (Node × Node) → Except Failure (List Char)
  | [] => .error .malformed
  | (key, value) :: rest => if key.tag = .content then value.text else textAmong rest

end

/-- The value of a node whose type is one of scalars. -/
def scalarValue (node : Node) : Except Failure Scalar := do node.tag.read (← node.text)

/-- The value of a node that is a key. -/
def key (node : Node) : Except Failure Scalar :=
  if node.tag = .content then (.text ∘ String.ofList) <$> node.text else node.scalarValue

/-- The entries of a mapping that is merged into another one. -/
def mappingEntries : Value → Except Failure (List (Scalar × Value))
  | .map entries => .ok entries
  | .set members => .ok (members.map (·, .null))
  | _ => .error .malformed

/-- The entries of a mapping, or of a list of mappings, with those of later mappings first. -/
def entriesOf : Value → Except Failure (List (Scalar × Value))
  | .list items => List.flatten <$> items.reverse.mapM mappingEntries
  | v => mappingEntries v

/-- A value of the kind of a node that holds nothing. -/
def hollow : Node → Value
  | sequence _ _ => .list []
  | knot _ node => node.hollow
  | _ => .map []

/-- A value that is looked into no further than to the keys of a mapping. -/
def outline : Value → Value
  | .map entries => .map (entries.map fun e => (e.1, .endless))
  | .set members => .set members
  | _ => .endless

/-- What is left of a value that holds itself in the innermost of its copies: the keys that are merged into
other mappings. -/
def rim : Value → Value
  | .list items => .list (items.map outline)
  | v => outline v

mutual

/-- Whether the node of a name is among the values that this one holds, where `inside` says that this one
is among the values of that node. A node that is only merged into itself does not hold itself. -/
def holds (name : String) (inside : Bool) : Node → Bool
  | scalar _ _ => false
  | sequence _ items => holdsAmong name true items
  | mapping _ entries => holdsBelow name inside entries
  | circular other => inside && other == name
  | knot _ node => node.holds name inside

def holdsAmong (name : String) (inside : Bool) : List Node → Bool
  | [] => false
  | item :: rest => item.holds name inside || holdsAmong name inside rest

def holdsBelow (name : String) (inside : Bool) : List (Node × Node) → Bool
  | [] => false
  | (key, sequence _ items) :: rest =>
    holdsAmong name (inside || key.tag != .merge) items || holdsBelow name inside rest
  | (key, v) :: rest => v.holds name (inside || key.tag != .merge) || holdsBelow name inside rest

end

mutual

/-- The value of a node, where `env` holds the values of those around it. -/
def value (copies : Nat) (env : Enclosing) : Node → Except Failure Value
  | sequence .sequence items => .list <$> values copies env items
  | sequence .orderedMap items | sequence .pairs items => .list <$> singles copies env items
  | mapping .mapping entries => do
    let (merged, own) ← split copies env entries
    return .map (insertEntries (merged ++ own))
  | mapping .set entries => do
    let (merged, own) ← split copies env entries
    return .set ((insertEntries (merged ++ own)).map (·.1))
  | circular name => .ok ((env.lookup name).getD .null)
  | knot name node => do
    -- Two levels give all the keys, also those that items of a sequence get from one another.
    let found ← unroll copies name node 2 env node.hollow
    if node.holds name false then unroll copies name node copies env (rim found) else return found
  | node => .scalar <$> node.scalarValue

/-- The value of a node that refers to itself, with the given number of levels around the innermost one. -/
def unroll (copies : Nat) (name : String) (node : Node) (levels : Nat) (env : Enclosing)
    (innermost : Value) : Except Failure Value :=
  (List.range levels).foldlM (fun inner _ => node.value copies ((name, inner) :: env)) innermost

def values (copies : Nat) (env : Enclosing) : List Node → Except Failure (List Value)
  | [] => .ok []
  | item :: rest => do return (← item.value copies env) :: (← values copies env rest)

/-- The pairs that mappings of one entry stand for. -/
def singles (copies : Nat) (env : Enclosing) : List Node → Except Failure (List Value)
  | [] => .ok []
  | mapping _ [(key, v)] :: rest => do
    let pair := Value.list [← key.value copies env, ← v.value copies env]
    return pair :: (← singles copies env rest)
  | knot name (mapping tag [(key, v)]) :: rest => do
    let outer ← (knot name (mapping tag [(key, v)])).value copies env
    let pair := Value.list [← key.value copies env, ← v.value copies ((name, outer) :: env)]
    return pair :: (← singles copies env rest)
  | _ => .error .malformed

/-- The entries that are merged into a mapping, and its own. -/
def split (copies : Nat) (env : Enclosing) : List (Node × Node) →
    Except Failure (List (Scalar × Value) × List (Scalar × Value))
  | [] => .ok ([], [])
  | (key, v) :: rest =>
    if key.tag = .merge then do
      let found ← v.mergeable copies env
      let (merged, own) ← split copies env rest
      return (found ++ merged, own)
    else do
      let key ← key.key
      let v ← v.value copies env
      let (merged, own) ← split copies env rest
      return (merged, (key, v) :: own)

/-- The entries that a mapping, or a list of mappings, adds to another; those of later mappings stand
first. -/
def mergeable (copies : Nat) (env : Enclosing) : Node → Except Failure (List (Scalar × Value))
  | mapping _ entries => do
    let (merged, own) ← split copies env entries
    return merged ++ own
  | sequence _ items => mergeables copies env items
  | circular name => entriesOf ((env.lookup name).getD .null)
  | knot name node => do entriesOf (← (knot name node).value copies env)
  | scalar _ _ => .error .malformed

def mergeables (copies : Nat) (env : Enclosing) : List Node → Except Failure (List (Scalar × Value))
  | [] => .ok []
  | mapping _ entries :: rest => do
    let (merged, own) ← split copies env entries
    return (← mergeables copies env rest) ++ merged ++ own
  | circular name :: rest => do
    let found ← mappingEntries ((env.lookup name).getD .null)
    return (← mergeables copies env rest) ++ found
  | knot name node :: rest => do
    let found ← mappingEntries (← (knot name node).value copies env)
    return (← mergeables copies env rest) ++ found
  | _ => .error .malformed

end

end Node

/-- The value that a text holds, where a node that holds itself is copied so often. -/
def read (copies : Nat) (text : List Char) : Except Failure Value := do
  match ← Node.ofTokens (← Token.scan text) with
  | some root => root.value copies []
  | none => return .null

end ApiContract.Yaml
