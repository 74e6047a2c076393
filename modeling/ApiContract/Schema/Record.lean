import ApiContract.Schema.Basic
import ApiContract.Value.Plain

/-!
# Schemas as records

`Schema.toValue` is a schema as a plain value: the annotations, the kind, and the fields of the shape.
-/

namespace ApiContract

/-- A text, or null for none. -/
def Value.ofText? (s : Option String) : Value := (s.map .text).getD .null

def Value.ofInt? (i : Option Int) : Value := (i.map .int).getD .null

def Bound.toValue : Bound → Value
  | .int i => .int i
  | .float x => .float x

def Bound.toValue? (b : Option Bound) : Value := (b.map Bound.toValue).getD .null

namespace Schema

def record (notes : Annotations) (kind : String) (fields : List (String × Value)) : Value :=
  .object ([("default", (notes.default.map Value.plain).getD .null), ("nullable", .bool notes.nullable),
    ("description", .ofText? notes.description), ("kind", .text kind)] ++ fields)

mutual

def toValue : Schema → Value
  | .ref notes target => record notes "ref" [("ref", .text target)]
  | .oneOf notes variants discriminator =>
    record notes "oneOf" [("variants", .list (toValues variants)),
      ("discriminator", .ofText? discriminator)]
  | .anyOf notes variants => record notes "anyOf" [("variants", .list (toValues variants))]
  | .allOf notes variants => record notes "allOf" [("variants", .list (toValues variants))]
  | .enum notes values => record notes "enum" [("values", .list (values.map Value.plain))]
  | .scalar notes s =>
    record notes "primitive" [("type", .text s.type.name), ("format", .ofText? s.format),
      ("min_length", .ofInt? s.minLength), ("max_length", .ofInt? s.maxLength),
      ("pattern", .ofText? s.pattern), ("minimum", Bound.toValue? s.minimum),
      ("maximum", Bound.toValue? s.maximum)]
  | .array notes items => record notes "array" [("items", items.toValue)]
  | .object notes none required extra =>
    record notes "object" [("properties", .null), ("required", .list (required.map .text)),
      ("additional_properties", extraToValue extra)]
  | .object notes (some properties) required extra =>
    record notes "object" [("properties", .object (propertiesToValues properties)),
      ("required", .list (required.map .text)), ("additional_properties", extraToValue extra)]

def toValues : List Schema → List Value
  | [] => []
  | s :: rest => s.toValue :: toValues rest

def propertiesToValues : List (String × Schema) → List (String × Value)
  | [] => []
  | (name, s) :: rest => (name, s.toValue) :: propertiesToValues rest

def extraToValue : ExtraKeys Schema → Value
  | .unstated => .null
  | .allowed allow => .bool allow
  | .typed s => s.toValue

end

end Schema

end ApiContract
