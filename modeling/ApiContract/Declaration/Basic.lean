import ApiContract.Schema.Compile
import ApiContract.Validator.Record

/-!
# Declarations

A `Declaration` is a validator with a name under which others refer to it.
-/

namespace ApiContract

structure Declaration where
  name : String
  validator : Validator
  /-- The names that the validator refers to. -/
  dependsOn : List String
  /-- Where the schema stands that the declaration was compiled from. -/
  source : Option String

/-- Texts in the order of their code points. -/
def sortTexts (texts : List String) : List String := texts.mergeSort fun a b => decide (a ≤ b)

/-- A set of names as a sorted list. -/
def namesToValue (names : List String) : Value :=
  .list ((sortTexts names.eraseDups).map .text)

def Declaration.toValue (d : Declaration) : Value :=
  .object [("name", .text d.name), ("expr", d.validator.toValue),
    ("depends_on", namesToValue d.dependsOn), ("source", .ofText? d.source)]

end ApiContract
