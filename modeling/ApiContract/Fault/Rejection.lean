/-!
# Rejected records

A record that is read from loosely typed values is rejected with one `Issue` for each field of the
wrong type. `Checked` collects the issues of several fields.
-/

namespace ApiContract

/-- What is wrong with a field. -/
inductive IssueKind where
  | textExpected
  | textEncoding
  | integerExpected
  | integerText
  | integerSize
  | integerFraction
  | finiteExpected
  | numberExpected
  | numberText
  | flagExpected
  | flagText
  | mappingExpected
  | recordExpected
  | unknownChoice
  | unknownField
  deriving DecidableEq, Repr

def IssueKind.name : IssueKind → String
  | textExpected => "string_type"
  | textEncoding => "string_unicode"
  | integerExpected => "int_type"
  | integerText => "int_parsing"
  | integerSize => "int_parsing_size"
  | integerFraction => "int_from_float"
  | finiteExpected => "finite_number"
  | numberExpected => "float_type"
  | numberText => "float_parsing"
  | flagExpected => "bool_type"
  | flagText => "bool_parsing"
  | mappingExpected => "dict_type"
  | recordExpected => "model_type"
  | unknownChoice => "enum"
  | unknownField => "extra_forbidden"

/-- An issue at a field; the place is empty for the record as a whole. -/
structure Issue where
  place : String
  kind : IssueKind
  deriving DecidableEq, Repr

def Issue.text (issue : Issue) : String := issue.place ++ " " ++ issue.kind.name

/-- A record that was rejected, by its name, and why. -/
structure Rejection where
  record : String
  issues : List Issue
  deriving DecidableEq, Repr

def Rejection.message (r : Rejection) : String :=
  r.record ++ ": " ++ "; ".intercalate (r.issues.map Issue.text)

/-- A value that was read, or everything that is wrong with it. -/
inductive Checked (α : Type) where
  | ok (a : α)
  | issues (found : List Issue)

namespace Checked

def found {α : Type} : Checked α → List Issue
  | .ok _ => []
  | .issues found => found

instance : Applicative Checked where
  pure := .ok
  seq f x :=
    match f, x () with
    | .ok f, .ok a => .ok (f a)
    | f, x => .issues (f.found ++ x.found)

/-- The issues of `x`, placed under a field name. -/
def under {α : Type} (field : String) : Checked α → Checked α
  | .ok a => .ok a
  | .issues found =>
    .issues (found.map fun i =>
      { i with place := if i.place = "" then field else field ++ "." ++ i.place })

def issue {α : Type} (kind : IssueKind) : Checked α := .issues [⟨"", kind⟩]

end Checked

end ApiContract
