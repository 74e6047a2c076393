import ApiContract.Schema.Field

/-!
# Validators

A `Validator` says what a value has to look like and how it crosses the wire. `Validator.unionOf?` and
`Validator.intersectionOf?` combine several into one.
-/

namespace ApiContract

/-- The scalar types a validator checks; dates are native values. -/
inductive PrimitiveType where
  | null
  | boolean
  | string
  | number
  | integer
  | date
  | datetime
  deriving DecidableEq, Repr

/-- Named checks of strings. -/
inductive StringCheck where
  | uuid
  | email
  | uri
  deriving DecidableEq, Repr

/-- How a binary payload is held in memory. -/
inductive BinaryForm where
  | buffer
  | stream
  deriving DecidableEq, Repr

/-- What an object validator does with keys that it does not list. -/
inductive ExtraPolicy where
  | closed
  | open
  | typed
  deriving DecidableEq, Repr

inductive TransformDirection where
  | parse
  | stringify
  deriving DecidableEq, Repr

inductive TransformKind where
  | date
  | dateTime
  | number
  | integer
  | boolean
  | literal
  | join
  deriving DecidableEq, Repr

/-- A scalar type with constraints. -/
structure Primitive where
  type : PrimitiveType
  check : Option StringCheck := none
  minLength : Option Int := none
  maxLength : Option Int := none
  pattern : Option String := none
  minimum : Option Bound := none
  maximum : Option Bound := none
  deriving DecidableEq, Repr

inductive Validator where
  | primitive (p : Primitive)
  | literal (value : Value)
  | enum (values : List String)
  | never
  | binary (form : BinaryForm)
  | noContent
  | ref (name : String)
  | union (variants : List Validator) (discriminator : Option String)
  | intersection (parts : List Validator)
  | array (item : Validator)
  | object (fields : List (String × Validator)) (extra : ExtraPolicy)
  | record (value : Validator)
  /-- `base` checks what goes into the transform and `target`, if there is one, what comes out. -/
  | transform (base : Validator) (direction : TransformDirection) (kind : TransformKind)
      (delimiter : Option String) (target : Option Validator)
  | optional (base : Validator)
  | nullable (base : Validator)
  | default (base : Validator) (value : Value)
  deriving Repr, Inhabited

namespace Validator

/-- A scalar type without constraints. -/
def type (t : PrimitiveType) : Validator := .primitive { type := t }

/-- A union with one more variant: a union without discriminator is extended. -/
def orElse : Validator → Validator → Validator
  | .union variants none, v => .union (variants ++ [v]) none
  | first, v => .union [first, v] none

/-- An intersection with one more part: an intersection is extended. -/
def andAlso : Validator → Validator → Validator
  | .intersection parts, v => .intersection (parts ++ [v])
  | first, v => .intersection [first, v]

/-- The union of validators from left to right; a single one is kept as it is. -/
def unionOf (first : Validator) (rest : List Validator) : Validator := rest.foldl orElse first

/-- The intersection of validators from left to right; a single one is kept as it is. -/
def intersectionOf (first : Validator) (rest : List Validator) : Validator :=
  rest.foldl andAlso first

def unionOf? : List Validator → Option Validator
  | [] => none
  | first :: rest => some (unionOf first rest)

def intersectionOf? : List Validator → Option Validator
  | [] => none
  | first :: rest => some (intersectionOf first rest)

end Validator

end ApiContract
