import ApiContract.Schema.Field

/-!
# Schemas

A `Schema` is one of eight closed shapes. `Annotations` are what every shape carries.
-/

namespace ApiContract

/-- The scalar types of schemas. -/
inductive ScalarType where
  | null
  | boolean
  | string
  | number
  | integer
  deriving DecidableEq, Repr

namespace ScalarType

def name : ScalarType → String
  | null => "null"
  | boolean => "boolean"
  | string => "string"
  | number => "number"
  | integer => "integer"

def all : List ScalarType := [null, boolean, string, number, integer]

def ofName? (name : String) : Option ScalarType := all.find? (·.name == name)

end ScalarType

/-- What a schema of any shape carries. A default of null counts as none. -/
structure Annotations where
  default : Option Value
  nullable : Bool
  description : Option String

/-- A scalar schema: its type and the constraints on it. -/
structure ScalarSchema where
  type : ScalarType
  format : Option String
  minLength : Option Int
  maxLength : Option Int
  pattern : Option String
  minimum : Option Bound
  maximum : Option Bound

/-- What an object schema says about keys that it does not list. -/
inductive ExtraKeys (σ : Type) where
  | unstated
  | allowed (allow : Bool)
  | typed (schema : σ)

inductive Schema where
  | ref (notes : Annotations) (target : String)
  | oneOf (notes : Annotations) (variants : List Schema) (discriminator : Option String)
  | anyOf (notes : Annotations) (variants : List Schema)
  | allOf (notes : Annotations) (variants : List Schema)
  | enum (notes : Annotations) (values : List Value)
  | scalar (notes : Annotations) (scalar : ScalarSchema)
  | array (notes : Annotations) (items : Schema)
  | object (notes : Annotations) (properties : Option (List (String × Schema)))
      (required : List String) (extra : ExtraKeys Schema)

def Schema.notes : Schema → Annotations
  | ref notes _ | oneOf notes _ _ | anyOf notes _ | allOf notes _ | enum notes _ | scalar notes _
  | array notes _ | object notes _ _ _ => notes

end ApiContract
