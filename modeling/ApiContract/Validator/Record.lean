import ApiContract.Schema.Record
import ApiContract.Validator.Basic

/-!
# Validators as records

`Validator.toValue` writes a validator as a plain value that names its kind, with every field present;
`Validator.ofValue?` reads it back, where fields that may be absent may be left out.
-/

namespace ApiContract

namespace PrimitiveType

def name : PrimitiveType → String
  | null => "null"
  | boolean => "boolean"
  | string => "string"
  | number => "number"
  | integer => "integer"
  | date => "date"
  | datetime => "datetime"

def all : List PrimitiveType := [null, boolean, string, number, integer, date, datetime]

def ofName? (name : String) : Option PrimitiveType := all.find? (·.name == name)

end PrimitiveType

namespace StringCheck

def name : StringCheck → String
  | uuid => "uuid"
  | email => "email"
  | uri => "uri"

def all : List StringCheck := [uuid, email, uri]

def ofName? (name : String) : Option StringCheck := all.find? (·.name == name)

end StringCheck

namespace BinaryForm

def name : BinaryForm → String
  | buffer => "buffer"
  | stream => "stream"

def all : List BinaryForm := [buffer, stream]

def ofName? (name : String) : Option BinaryForm := all.find? (·.name == name)

end BinaryForm

namespace ExtraPolicy

def name : ExtraPolicy → String
  | closed => "closed"
  | .open => "open"
  | typed => "typed"

def all : List ExtraPolicy := [closed, .open, typed]

def ofName? (name : String) : Option ExtraPolicy := all.find? (·.name == name)

end ExtraPolicy

namespace TransformDirection

def name : TransformDirection → String
  | parse => "parse"
  | stringify => "stringify"

def all : List TransformDirection := [parse, stringify]

def ofName? (name : String) : Option TransformDirection := all.find? (·.name == name)

end TransformDirection

namespace TransformKind

def name : TransformKind → String
  | date => "date"
  | dateTime => "date-time"
  | number => "number"
  | integer => "integer"
  | boolean => "boolean"
  | literal => "literal"
  | join => "join"

def all : List TransformKind := [date, dateTime, number, integer, boolean, literal, join]

def ofName? (name : String) : Option TransformKind := all.find? (·.name == name)

end TransformKind

namespace Validator

/-! ## Writing -/

def tagged (kind : String) (fields : List (String × Value)) : Value :=
  .object (("kind", .text kind) :: fields)

def primitiveToValue (p : Primitive) : Value :=
  tagged "primitive" [("type", .text p.type.name), ("check", .ofText? (p.check.map (·.name))),
    ("min_length", .ofInt? p.minLength), ("max_length", .ofInt? p.maxLength),
    ("pattern", .ofText? p.pattern), ("minimum", Bound.toValue? p.minimum),
    ("maximum", Bound.toValue? p.maximum)]

mutual

def toValue : Validator → Value
  | .primitive p => primitiveToValue p
  | .literal value => tagged "literal" [("value", value.plain)]
  | .enum values => tagged "enum" [("values", .list (values.map .text))]
  | .never => tagged "never" []
  | .binary form => tagged "binary" [("representation", .text form.name)]
  | .noContent => tagged "no_content" []
  | .ref name => tagged "ref" [("name", .text name)]
  | .union variants discriminator =>
    tagged "union" [("variants", .list (toValues variants)),
      ("discriminator", .ofText? discriminator)]
  | .intersection parts => tagged "intersection" [("parts", .list (toValues parts))]
  | .array item => tagged "array" [("item", item.toValue)]
  | .object fields extra =>
    tagged "object" [("fields", .object (fieldsToValues fields)),
      ("additional_properties", .text extra.name)]
  | .record value => tagged "record" [("value", value.toValue)]
  | .transform base direction kind delimiter target =>
    tagged "transform" [("base", base.toValue), ("direction", .text direction.name),
      ("transform", .text kind.name), ("delimiter", .ofText? delimiter),
      ("target", targetToValue target)]
  | .optional base => tagged "optional" [("base", base.toValue)]
  | .nullable base => tagged "nullable" [("base", base.toValue)]
  | .default base value => tagged "default" [("base", base.toValue), ("value", value.plain)]

def toValues : List Validator → List Value
  | [] => []
  | e :: rest => e.toValue :: toValues rest

def fieldsToValues : List (String × Validator) → List (String × Value)
  | [] => []
  | (name, e) :: rest => (name, e.toValue) :: fieldsToValues rest

def targetToValue : Option Validator → Value
  | none => .null
  | some e => e.toValue

end

/-! ## Reading -/

def textAt? (key : String) (v : Value) : Option String :=
  match v.get? key with
  | some (.text s) => some s
  | _ => none

/-- A field that may be absent or null, read by `read` otherwise. -/
def optionalAt? {α : Type} (read : Value → Option α) (key : String) (v : Value) :
    Option (Option α) :=
  match v.get? key with
  | none | some .null => some none
  | some field => (read field).map some

def readText? : Value → Option String
  | .text s => some s
  | _ => none

def readInt? : Value → Option Int
  | .int i => some i
  | _ => none

def readBound? : Value → Option Bound
  | .int i => some (.int i)
  | .float x => some (.float x)
  | _ => none

def itemsAt? (key : String) (v : Value) : Option (List Value) :=
  match v.get? key with
  | some (.list items) => some items
  | _ => none

def readPrimitive? (v : Value) : Option Primitive := do
  return {
    type := ← (← textAt? "type" v) |> PrimitiveType.ofName?
    check := ← optionalAt? (fun s => readText? s >>= StringCheck.ofName?) "check" v
    minLength := ← optionalAt? readInt? "min_length" v
    maxLength := ← optionalAt? readInt? "max_length" v
    pattern := ← optionalAt? readText? "pattern" v
    minimum := ← optionalAt? readBound? "minimum" v
    maximum := ← optionalAt? readBound? "maximum" v }

/-- The validator that a value stands for, nested at most `levels` deep. -/
def ofValueWithin? : (levels : Nat) → Value → Option Validator
  | 0, _ => none
  | levels + 1, v => do
    let child (key : String) : Option Validator := v.get? key >>= ofValueWithin? levels
    let children (key : String) : Option (List Validator) :=
      itemsAt? key v >>= List.mapM (ofValueWithin? levels)
    match ← textAt? "kind" v with
    | "primitive" => return .primitive (← readPrimitive? v)
    | "literal" => return .literal (← v.get? "value")
    | "enum" => return .enum (← (← itemsAt? "values" v).mapM readText?)
    | "never" => return .never
    | "binary" => return .binary (← (← textAt? "representation" v) |> BinaryForm.ofName?)
    | "no_content" => return .noContent
    | "ref" => return .ref (← textAt? "name" v)
    | "union" =>
      return .union (← children "variants") (← optionalAt? readText? "discriminator" v)
    | "intersection" => return .intersection (← children "parts")
    | "array" => return .array (← child "item")
    | "object" =>
      let entries := ((v.get? "fields").getD (.map [])).entries?.getD []
      let fields ← entries.mapM fun (key, field) => do
        let name ← readText? (.scalar key)
        return (name, ← ofValueWithin? levels field)
      let extra ← optionalAt? (fun s => readText? s >>= ExtraPolicy.ofName?)
        "additional_properties" v
      return .object fields (extra.getD .closed)
    | "record" => return .record (← child "value")
    | "transform" =>
      return .transform (← child "base")
        (← (← textAt? "direction" v) |> TransformDirection.ofName?)
        (← (← textAt? "transform" v) |> TransformKind.ofName?)
        (← optionalAt? readText? "delimiter" v)
        (← optionalAt? (ofValueWithin? levels) "target" v)
    | "optional" => return .optional (← child "base")
    | "nullable" => return .nullable (← child "base")
    | "default" => return .default (← child "base") (← v.get? "value")
    | _ => none

end Validator

namespace Value

mutual

/-- How deep containers are nested in a value. -/
def depth : Value → Nat
  | .scalar _ | .set _ | .endless => 1
  | .list items => depthOfItems items + 1
  | .map entries => depthOfEntries entries + 1

def depthOfItems : List Value → Nat
  | [] => 0
  | v :: rest => max v.depth (depthOfItems rest)

def depthOfEntries : List (Scalar × Value) → Nat
  | [] => 0
  | (_, v) :: rest => max v.depth (depthOfEntries rest)

end

end Value

/-- The validator that a value stands for. -/
def Validator.ofValue? (v : Value) : Option Validator := ofValueWithin? v.depth v

end ApiContract
