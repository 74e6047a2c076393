import ApiContract.Yaml.Tag
import ApiContract.Yaml.Token

/-!
# Nodes of a YAML document

A `Node` is a scalar, a sequence or a mapping with its type. `Node.ofTokens` builds the node of a text
that holds one document. A reference stands for a copy of the node it names. If it stands within that
node it is `circular`, and the node around it is a `knot`. A copy outside of the knot holds the knot in
place of what is circular.
-/

namespace ApiContract.Yaml

inductive Node where
  | scalar (tag : Tag) (text : String)
  | sequence (tag : Tag) (items : List Node)
  | mapping (tag : Tag) (entries : List (Node × Node))
  | circular (name : String)
  /-- A node that refers to itself by a name. -/
  | knot (name : String) (node : Node)

namespace Node

def tag : Node → Tag
  | scalar tag _ => tag
  | sequence tag _ => tag
  | mapping tag _ => tag
  | circular _ => .unknown
  | knot _ node => node.tag

/-- A node that is left out. -/
def empty : Node := scalar .null ""

mutual

/-- The node `whole` in the places that refer to it as the node around them. -/
def fill (name : String) (whole : Node) : Node → Node
  | scalar tag text => scalar tag text
  | sequence tag items => sequence tag (fillAmong name whole items)
  | mapping tag entries => mapping tag (fillBelow name whole entries)
  | circular other => if other = name then whole else circular other
  | knot other node => knot other (if other = name then node else fill name whole node)

def fillAmong (name : String) (whole : Node) : List Node → List Node
  | [] => []
  | item :: rest => fill name whole item :: fillAmong name whole rest

def fillBelow (name : String) (whole : Node) : List (Node × Node) → List (Node × Node)
  | [] => []
  | (key, v) :: rest => (key, fill name whole v) :: fillBelow name whole rest

end

end Node

/-- The tokens that are left, and what has been named so far. -/
structure Builder where
  tokens : List Token
  /-- The nodes with a name; a node that is not complete yet is none. -/
  anchors : List (String × Option Node) := []
  /-- The names that nodes have referred to from within. -/
  loops : List String := []
  /-- What the handles of tags stand for. -/
  handles : List (String × String) := [("!", "!"), ("!!", Tag.space)]

abbrev Build := StateT Builder (Except Failure)

namespace Build

def peek : Build (Option Token) := return (← get).tokens.head?

def drop : Build Unit := modify fun b => { b with tokens := b.tokens.drop 1 }

/-- Takes the next token if it is the given one. -/
def take (t : Token) : Build Bool := do
  if (← peek) = some t then
    drop
    return true
  else return false

def expect (t : Token) : Build Unit := do
  if !(← take t) then throw .malformed

/-- Whether the next token is one of the given ones. -/
def meets (ts : List Token) : Build Bool := return (← peek).any ts.contains

/-! ## Names and types -/

def anchor? : Build (Option String) := do
  match ← peek with
  | some (.anchor name) =>
    drop
    return some name
  | _ => return none

/-- A type that is written down, with its handle replaced. -/
def tag? : Build (Option String) := do
  match ← peek with
  | some (.tag name) =>
    drop
    match name.handle with
    | none => return some name.suffix
    | some handle =>
      match (← get).handles.lookup handle with
      | some leading => return some (leading ++ name.suffix)
      | none => throw .malformed
  | _ => return none

/-- Name and type of a node, in either order. -/
def properties : Build (Option String × Option String) := do
  match ← anchor? with
  | some anchor => return (some anchor, ← tag?)
  | none =>
    let tag ← tag?
    if tag.isNone then return (none, tag) else return (← anchor?, tag)

/-- The type of a node, where an exclamation mark alone means that it is not given. -/
def tagOr (default : Tag) : Option String → Tag
  | none | some "!" => default
  | some name => .ofName name

/-- The type of a scalar: one in quotes is a text if nothing else is said. -/
def scalarTag (text : String) (plain : Bool) (written : Option String) : Tag :=
  if written.isNone && !plain then .text else tagOr (.ofPlain text.toList) written

def define (anchor : Option String) (node : Option Node) : Build Unit :=
  match anchor with
  | some name => modify fun b => { b with anchors := (name, node) :: b.anchors }
  | none => return

/-- A node under the name it was given. -/
def named (anchor : Option String) (node : Node) : Build Node := do
  let loops := (← get).loops
  let node :=
    match anchor with
    | some name => if loops.contains name then .knot name node else node
    | none => node
  define anchor (some node)
  return node

/-- A node in which those that are complete by now stand for the references to them from within. -/
def closed (found : Node) : Build Node := do
  let b ← get
  -- A node is complete before the one around it, which it may refer to in turn.
  return b.anchors.foldr (fun e node =>
    match e.2 with
    | some whole => if b.loops.contains e.1 then Node.fill e.1 whole node else node
    | none => node) found

/-- The node that a name refers to. -/
def referred (name : String) : Build Node := do
  match (← get).anchors.lookup name with
  | some (some found) => closed found
  | some none =>
    modify fun b => { b with loops := name :: b.loops }
    return .circular name
  | none => throw .malformed

/-! ## Nodes -/

/-- The kinds of nodes that may stand at a place. -/
inductive Site where
  | flow
  | block
  /-- In a block mapping a sequence need not be indented. -/
  | blockEntry
  deriving DecidableEq

mutual

def node (site : Site) : (fuel : Nat) → Build Node
  | 0 => throw .malformed
  | fuel + 1 => do
    if let some (.reference name) ← peek then
      drop
      referred name
    else
      let (anchor, written) ← properties
      if (← get).anchors.any fun e => some e.1 == anchor then throw .malformed
      match ← peek with
      | some (.scalar text plain) =>
        drop
        named anchor (.scalar (scalarTag text plain written) text)
      | some .flowSequenceStart =>
        drop
        define anchor none
        named anchor (.sequence (tagOr .sequence written) (← flowItems true fuel))
      | some .flowMappingStart =>
        drop
        define anchor none
        named anchor (.mapping (tagOr .mapping written) (← flowEntries true fuel))
      | next =>
        if site = .blockEntry ∧ next = some .blockEntry then
          define anchor none
          named anchor (.sequence (tagOr .sequence written) (← flatItems fuel))
        else if site ≠ .flow ∧ next = some .blockSequenceStart then
          drop
          define anchor none
          named anchor (.sequence (tagOr .sequence written) (← blockItems fuel))
        else if site ≠ .flow ∧ next = some .blockMappingStart then
          drop
          define anchor none
          named anchor (.mapping (tagOr .mapping written) (← blockEntries fuel))
        else if anchor.isSome || written.isSome then
          named anchor (.scalar (tagOr .null written) "")
        else throw .malformed

/-- A node, which is left out in front of one of the given tokens. -/
def nodeBefore (ends : List Token) (site : Site) : (fuel : Nat) → Build Node
  | 0 => throw .malformed
  | fuel + 1 => do if ← meets ends then return .empty else node site fuel

/-- The node behind a token, which is left out together with it or on its own. -/
def nodeBehind (t : Token) (ends : List Token) (site : Site) : (fuel : Nat) → Build Node
  | 0 => throw .malformed
  | fuel + 1 => do if ← take t then nodeBefore ends site fuel else return .empty

/-- The items of a sequence in block layout. -/
def blockItems : (fuel : Nat) → Build (List Node)
  | 0 => throw .malformed
  | fuel + 1 => do
    if ← take .blockEntry then
      let item ← nodeBefore [.blockEntry, .blockEnd] .block fuel
      return item :: (← blockItems fuel)
    else
      expect .blockEnd
      return []

/-- The items of a sequence that is not indented. -/
def flatItems : (fuel : Nat) → Build (List Node)
  | 0 => throw .malformed
  | fuel + 1 => do
    if ← take .blockEntry then
      let item ← nodeBefore [.blockEntry, .key, .value, .blockEnd] .block fuel
      return item :: (← flatItems fuel)
    else return []

/-- The entries of a mapping in block layout. -/
def blockEntries : (fuel : Nat) → Build (List (Node × Node))
  | 0 => throw .malformed
  | fuel + 1 => do
    if ← take .key then
      let key ← nodeBefore [.key, .value, .blockEnd] .blockEntry fuel
      let value ← nodeBehind .value [.key, .value, .blockEnd] .blockEntry fuel
      return (key, value) :: (← blockEntries fuel)
    else
      expect .blockEnd
      return []

/-- The items of a sequence in brackets; an entry on its own is a mapping. -/
def flowItems (first : Bool) : (fuel : Nat) → Build (List Node)
  | 0 => throw .malformed
  | fuel + 1 => do
    if ← take .flowSequenceEnd then return []
    if !first then expect .flowEntry
    if ← take .key then
      let key ← nodeBefore [.value, .flowEntry, .flowSequenceEnd] .flow fuel
      let value ← nodeBehind .value [.flowEntry, .flowSequenceEnd] .flow fuel
      return .mapping .mapping [(key, value)] :: (← flowItems false fuel)
    else if ← take .flowSequenceEnd then return []
    else
      let item ← node .flow fuel
      return item :: (← flowItems false fuel)

/-- The entries of a mapping in braces. -/
def flowEntries (first : Bool) : (fuel : Nat) → Build (List (Node × Node))
  | 0 => throw .malformed
  | fuel + 1 => do
    if ← take .flowMappingEnd then return []
    if !first then expect .flowEntry
    if ← take .key then
      let key ← nodeBefore [.value, .flowEntry, .flowMappingEnd] .flow fuel
      let value ← nodeBehind .value [.flowEntry, .flowMappingEnd] .flow fuel
      return (key, value) :: (← flowEntries false fuel)
    else if ← take .flowMappingEnd then return []
    else
      let key ← node .flow fuel
      return (key, .empty) :: (← flowEntries false fuel)

end

/-! ## Documents -/

/-- The directives in front of a document: at most one version, and each handle once. -/
def directives (versions : Nat) (handles : List (String × String)) :
    List Token → Except Failure (List (String × String) × List Token)
  | .directive (.version major) :: rest =>
    if versions = 0 ∧ major = 1 then directives 1 handles rest else .error .malformed
  | .directive (.tag handle leading) :: rest =>
    if (handles.lookup handle).isSome then .error .malformed
    else directives versions ((handle, leading) :: handles) rest
  | .directive .other :: rest => directives versions handles rest
  | tokens => .ok (handles, tokens)

def isDirective : Token → Bool
  | .directive _ => true
  | _ => false

/-- The node of a document with a mark in front, which may be left out. -/
def marked (fuel : Nat) : Build Node := do
  let b ← get
  let (handles, tokens) ← directives 0 [] b.tokens
  set { b with tokens, handles := handles ++ b.handles }
  expect .documentStart
  match ← peek with
  | none | some .documentStart | some .documentEnd => return .empty
  | some t => if isDirective t then return .empty else node .block fuel

/-- The node of the only document of a text, if there is one. -/
def document (fuel : Nat) : Build (Option Node) := do
  match ← peek with
  | none => return none
  | some t =>
    let root ← if t = .documentStart ∨ isDirective t then marked fuel else node .block fuel
    if (← get).tokens.all (· == .documentEnd) then return some root else throw .malformed

end Build

/-- The node that tokens make up; none stands for a text without a document. -/
def Node.ofTokens (tokens : List Token) : Except Failure (Option Node) :=
  (Build.document (3 * tokens.length + 3)).run' { tokens }

end ApiContract.Yaml
