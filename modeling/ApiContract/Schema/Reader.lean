import ApiContract.Pointer
import ApiContract.Schema.Basic

/-!
# Reading schemas

`Schema.readWithin` turns a raw value into a schema, down to a number of levels, and `Schema.read` does
so within the limit `maxDepth`. The first of the keywords `$ref`, `oneOf`, `anyOf`, `allOf`, `enum` and
`const` that is present decides the shape; without one of them `type` does, or the keywords that only
one type has.
-/

namespace ApiContract

/-- The deepest nesting of schemas that is accepted. -/
def maxDepth : Nat := 64

/-- The keywords that combine schemas, in order of precedence. -/
inductive Composition where
  | oneOf
  | anyOf
  | allOf
  deriving DecidableEq, Repr

namespace Composition

def keyword : Composition → String
  | oneOf => "oneOf"
  | anyOf => "anyOf"
  | allOf => "allOf"

def all : List Composition := [oneOf, anyOf, allOf]

/-- The first composition among the keywords of a raw schema, with its branches. -/
def find? (raw : Value) : Option (Composition × Value) :=
  all.findSome? fun c => (raw.get? c.keyword).map fun branches => (c, branches)

end Composition

namespace Schema

/-- The shape that decides how the rest of a raw schema is read. -/
inductive Shape where
  | ref (target : Value)
  | composition (keyword : Composition) (branches : Value)
  | enum (values : Value)
  | const (value : Value)
  | typed

def Shape.of (raw : Value) : Shape :=
  match raw.get? "$ref" with
  | some target => .ref target
  | none =>
    match Composition.find? raw with
    | some (keyword, branches) => .composition keyword branches
    | none =>
      match raw.get? "enum" with
      | some values => .enum values
      | none =>
        match raw.get? "const" with
        | some value => .const value
        | none => .typed

/-- The type of a raw schema and whether null is allowed beside it. A list of types may hold one type
other than null. -/
def splitType (type : Value) (path : String) : Except Fault (Value × Bool) :=
  match type with
  | .list types =>
    let isNullType : Value → Bool
      | .text s => s == "null"
      | _ => false
    let others := types.filter fun t => !isNullType t
    match others with
    | [] => .ok (.text "null", false)
    | [t] => .ok (t, others.length != types.length)
    | _ => uncompilable (.schema (.severalTypes others)) (Pointer.raw path "type")
  | t => .ok (t, false)

/-- The type to go by: without one, the keywords of objects and arrays tell. -/
def impliedType (raw type : Value) : Value :=
  if !type.isNull then type
  else if (raw.get? "properties").isSome || (raw.get? "additionalProperties").isSome then
    .text "object"
  else if (raw.get? "items").isSome then .text "array"
  else .null

/-- The keyword of a raw schema, where nothing is null. -/
def keywordOf (raw : Value) (keyword : String) : Value := (raw.get? keyword).getD .null

/-- The annotations of a raw schema, read as fields. -/
def readNotes (raw : Value) (nullable : Bool) : Checked Annotations :=
  let default := keywordOf raw "default"
  Annotations.mk (if default.isNull then none else some default)
      (nullable || (keywordOf raw "nullable").isTrue) <$>
    (Field.optional Field.text (keywordOf raw "description")).under "description"

/-- The fields of a scalar schema. -/
def readScalar (raw : Value) (type : ScalarType) : Checked ScalarSchema :=
  ScalarSchema.mk type <$>
    (Field.optional Field.text (keywordOf raw "format")).under "format" <*>
    (Field.optional Field.integer (keywordOf raw "minLength")).under "min_length" <*>
    (Field.optional Field.integer (keywordOf raw "maxLength")).under "max_length" <*>
    (Field.optional Field.text (keywordOf raw "pattern")).under "pattern" <*>
    (Field.optional Field.bound (keywordOf raw "minimum")).under "minimum" <*>
    (Field.optional Field.bound (keywordOf raw "maximum")).under "maximum"

/-- The property that tells the branches of a `oneOf` apart. -/
def discriminatorOf (raw : Value) : Except Fault Value := do
  let discriminator := keywordOf raw "discriminator"
  if discriminator.isVacant then return .null else discriminator.getOrNull "propertyName"

/-- A schema that combines `variants`. -/
def readComposition (keyword : Composition) (raw : Value) (notes : Checked Annotations)
    (variants : List Schema) : Except Fault Schema := do
  match keyword with
  | .oneOf =>
    let discriminator ← discriminatorOf raw
    ((fun notes d => oneOf notes variants d) <$> notes <*>
      (Field.optional Field.text discriminator).under "discriminator").accept "OneOfSchema"
  | .anyOf => ((fun notes => anyOf notes variants) <$> notes).accept "AnyOfSchema"
  | .allOf => ((fun notes => allOf notes variants) <$> notes).accept "AllOfSchema"

def readEnum (values : Value) (notes : Checked Annotations) (path : String) :
    Except Fault Schema :=
  match values with
  | .list values => ((fun notes => enum notes values) <$> notes).accept "EnumSchema"
  | _ => uncompilable (.schema (.notAList "enum")) (Pointer.raw path "enum")

/-- The schema of a raw value, nested at most `levels` deep. -/
def readWithin : (levels : Nat) → (raw : Value) → (path : String) → Except Fault Schema
  | 0, _, path => uncompilable (.tooDeep maxDepth) path
  | levels + 1, raw, path => do
    let .map _ := raw
      | uncompilable (.schema (.notAMapping raw.kindName)) path
    let (type, nullable) ← splitType (keywordOf raw "type") path
    let notes := readNotes raw nullable
    match Shape.of raw with
    | .ref target =>
      (ref <$> notes <*> (Field.text target).under "ref").accept "RefSchema"
    | .composition keyword branches =>
      let place := Pointer.raw path keyword.keyword
      let .list branches := branches
        | uncompilable (.schema (.notAList keyword.keyword)) place
      let variants ← branches.zipIdx.mapM fun (branch, i) =>
        readWithin levels branch (Pointer.item place i)
      readComposition keyword raw notes variants
    | .enum values => readEnum values notes path
    | .const value => readEnum (.list [value]) notes path
    | .typed =>
      match impliedType raw type with
      | .text "array" =>
        match raw.get? "items" with
        | none => uncompilable (.missingSchema .items) (Pointer.raw path "items")
        | some items => do
          let items ← readWithin levels items (Pointer.raw path "items")
          ((fun notes => array notes items) <$> notes).accept "ArraySchema"
      | .text "object" => do
        let properties ←
          match keywordOf raw "properties" with
          | .null => pure none
          | properties => do
            let entries ← (← properties.entries).mapM fun (key, property) => do
              let name ← key.asText
              let schema ← readWithin levels property
                (Pointer.child (Pointer.raw path "properties") name)
              return (name, schema)
            pure (some entries)
        let extra ←
          match keywordOf raw "additionalProperties" with
          | .null => pure .unstated
          | .bool allow => pure (.allowed allow)
          | .map [] => pure (.allowed true)
          | extra => .typed <$> readWithin levels extra (Pointer.raw path "additionalProperties")
        let required ← (keywordOf raw "required").membersOrNone
        ((fun notes required => object notes properties required extra) <$> notes <*>
          (Field.texts required).under "required").accept "ObjectSchema"
      | .text name =>
        match ScalarType.ofName? name with
        | some type => (scalar <$> notes <*> readScalar raw type).accept "PrimitiveSchema"
        | none => uncompilable (.schema (.unknownType (.text name))) (Pointer.raw path "type")
      | .scalar other =>
        uncompilable (.schema (.unknownType (.scalar other))) (Pointer.raw path "type")
      | .set others => uncompilable (.schema (.unknownType (.set others))) (Pointer.raw path "type")
      | _ => .error .unexpected

/-- The schema of a raw value that itself stands `depth` levels deep. -/
def read (raw : Value) (path : String) (depth : Nat) : Except Fault Schema :=
  readWithin (maxDepth + 1 - depth) raw path

end Schema

end ApiContract
