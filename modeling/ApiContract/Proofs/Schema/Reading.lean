import ApiContract.Schema.Reader
import ApiContract.Proofs.Outcome

/-!
# Reading one level of a schema

`Schema.readWithin` reads one level of a raw schema and the schemas within it with one level less. Here
the one level is read part by part, with any reader for the schemas within it: `readWithin_succ`, and
`read_map` for reading within the limit.
-/

namespace ApiContract

namespace Schema

/-! ## The parts of a raw schema -/

theorem Shape.get?_of_composition {raw branches : Value} {keyword : Composition}
    (h : Shape.of raw = .composition keyword branches) : raw.get? keyword.keyword = some branches := by
  unfold Shape.of at h
  split at h
  next => cases h
  next =>
    split at h
    next hfind =>
      cases h
      obtain ⟨c, -, hc⟩ := List.exists_of_findSome?_eq_some hfind
      obtain ⟨found, hfound, heq⟩ := Option.map_eq_some_iff.1 hc
      cases heq
      exact hfound
    next =>
      split at h
      next => cases h
      next => split at h <;> cases h

theorem get?_of_keywordOf {raw v : Value} {keyword : String} (h : keywordOf raw keyword = v)
    (hv : v ≠ .null) : raw.get? keyword = some v := by
  unfold keywordOf at h
  cases hget : raw.get? keyword with
  | none =>
    rw [hget] at h
    exact absurd h.symm hv
  | some found =>
    rw [hget] at h
    rw [← h]
    rfl

/-! ## One level -/

section Level

variable (read : (raw : Value) → (path : String) → Except Fault Schema)

/-- A schema that combines the branches of a raw schema at the path. -/
def readBranches (raw : Value) (path : String) (notes : Checked Annotations) (keyword : Composition)
    (branches : Value) : Except Fault Schema := do
  let place := Pointer.raw path keyword.keyword
  let .list branches := branches
    | uncompilable (.schema (.notAList keyword.keyword)) place
  let variants ← branches.zipIdx.mapM fun (branch, i) => read branch (Pointer.item place i)
  readComposition keyword raw notes variants

/-- The schema of a raw array at the path. -/
def readArray (raw : Value) (path : String) (notes : Checked Annotations) : Except Fault Schema :=
  match raw.get? "items" with
  | none => uncompilable (.missingSchema .items) (Pointer.raw path "items")
  | some items => do
    let items ← read items (Pointer.raw path "items")
    ((fun notes => array notes items) <$> notes).accept "ArraySchema"

/-- One of the properties that are listed at the path. -/
def readProperty (path : String) (entry : Scalar × Value) : Except Fault (String × Schema) := do
  let name ← entry.1.asText
  let schema ← read entry.2 (Pointer.child path name)
  return (name, schema)

/-- The properties that are listed at the path, if any are. -/
def readProperties (path : String) (properties : Value) :
    Except Fault (Option (List (String × Schema))) :=
  match properties with
  | .null => pure none
  | properties => do
    let entries ← (← properties.entries).mapM (readProperty read path)
    return some entries

/-- What is said of keys that are not listed. -/
def readExtra (path : String) (extra : Value) : Except Fault (ExtraKeys Schema) :=
  match extra with
  | .null => pure .unstated
  | .bool allow => pure (.allowed allow)
  | .map [] => pure (.allowed true)
  | extra => .typed <$> read extra path

/-- The schema of a raw object at the path. -/
def readObject (raw : Value) (path : String) (notes : Checked Annotations) : Except Fault Schema := do
  let properties ← readProperties read (Pointer.raw path "properties") (keywordOf raw "properties")
  let extra ← readExtra read (Pointer.raw path "additionalProperties")
    (keywordOf raw "additionalProperties")
  let required ← (keywordOf raw "required").membersOrNone
  ((fun notes required => object notes properties required extra) <$> notes <*>
    (Field.texts required).under "required").accept "ObjectSchema"

/-- The schema of a raw schema that goes by its type. -/
def readTyped (raw : Value) (path : String) (type : Value) (notes : Checked Annotations) :
    Except Fault Schema :=
  match impliedType raw type with
  | .text "array" => readArray read raw path notes
  | .text "object" => readObject read raw path notes
  | .text name =>
    match ScalarType.ofName? name with
    | some type => (scalar <$> notes <*> readScalar raw type).accept "PrimitiveSchema"
    | none => uncompilable (.schema (.unknownType (.text name))) (Pointer.raw path "type")
  | .scalar other =>
    uncompilable (.schema (.unknownType (.scalar other))) (Pointer.raw path "type")
  | .set others => uncompilable (.schema (.unknownType (.set others))) (Pointer.raw path "type")
  | _ => .error .unexpected

def readShape (raw : Value) (path : String) (type : Value) (notes : Checked Annotations) :
    Except Fault Schema :=
  match Shape.of raw with
  | .ref target => (ref <$> notes <*> (Field.text target).under "ref").accept "RefSchema"
  | .composition keyword branches => readBranches read raw path notes keyword branches
  | .enum values => readEnum values notes path
  | .const value => readEnum (.list [value]) notes path
  | .typed => readTyped read raw path type notes

/-- One level of the schema of a mapping at the path. -/
def readLevel (raw : Value) (path : String) : Except Fault Schema := do
  let (type, nullable) ← splitType (keywordOf raw "type") path
  readShape read raw path type (readNotes raw nullable)

end Level

/-- A schema of several levels is read level by level. -/
theorem readWithin_succ (levels : Nat) (entries : List (Scalar × Value)) (path : String) :
    readWithin (levels + 1) (.map entries) path =
      readLevel (readWithin levels) (.map entries) path := by
  unfold readWithin readLevel
  refine bind_congr ?_
  rintro ⟨type, nullable⟩
  unfold readShape
  cases Shape.of (.map entries) with
  | ref => rfl
  | composition keyword branches =>
    cases branches <;> rfl
  | enum => rfl
  | const => rfl
  | typed =>
    dsimp only
    unfold readTyped
    generalize impliedType (.map entries) type = implied
    split
    next => rfl
    next =>
      unfold readObject readProperties readProperty readExtra
      generalize keywordOf (.map entries) "properties" = properties
      generalize keywordOf (.map entries) "additionalProperties" = extra
      split <;> split <;> simp_all
    next name _ _ => cases htype : ScalarType.ofName? name <;> simp_all
    next => simp_all
    next => simp_all
    next => simp_all

/-! ## Within the limit -/

variable {raw : Value} {depth : Nat}

theorem read_of_maxDepth_lt (h : maxDepth < depth) (raw : Value) (path : String) :
    read raw path depth = uncompilable (.tooDeep maxDepth) path := by
  have hlevels : maxDepth + 1 - depth = 0 := by omega
  rw [read, hlevels, readWithin]

theorem read_map (h : depth ≤ maxDepth) (entries : List (Scalar × Value)) (path : String) :
    read (.map entries) path depth =
      readLevel (fun v place => read v place (depth + 1)) (.map entries) path := by
  have hlevels : maxDepth + 1 - depth = maxDepth + 1 - (depth + 1) + 1 := by omega
  rw [read, hlevels, readWithin_succ]
  rfl

theorem read_of_not_map (h : depth ≤ maxDepth) (hraw : ∀ entries, raw ≠ .map entries) (path : String) :
    read raw path depth = uncompilable (.schema (.notAMapping raw.kindName)) path := by
  have hlevels : maxDepth + 1 - depth = maxDepth + 1 - (depth + 1) + 1 := by omega
  rw [read, hlevels]
  cases raw with
  | map entries => exact (hraw entries rfl).elim
  | scalar | list | set | endless => rfl

end Schema

end ApiContract
