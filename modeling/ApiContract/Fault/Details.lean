import ApiContract.Fault.Rejection
import ApiContract.Value.Display

/-!
# Details of rejections

`Rejection.details` says what is wrong with each field of a rejected record and quotes the value that was
given for it. Long values are cut in their middle.
-/

namespace ApiContract

/-- The most bytes of a value that are quoted, and those kept of a longer one at its two ends. -/
def quotedLimit : Nat := 50

def quotedStart : Nat := 25

def quotedEnd : Nat := 24

/-- The characters in front of a text that take no more than the given number of bytes. -/
def takeBytes : (limit : Nat) → List Char → List Char
  | _, [] => []
  | limit, c :: rest =>
    if c.utf8Size ≤ limit then c :: takeBytes (limit - c.utf8Size) rest else []

/-- The text without its middle if it is long. -/
def shortened (text : String) : String :=
  if text.utf8ByteSize ≤ quotedLimit then text
  else
    let chars := text.toList
    String.ofList (takeBytes quotedStart chars) ++ "..." ++
      String.ofList (takeBytes quotedEnd chars.reverse).reverse

namespace Issue

/-- The part of a record that an issue is about. -/
def valueIn (given : Value) (issue : Issue) : Value :=
  if issue.kind = .recordExpected then given else (given.get? issue.place).getD .null

def details (given : Value) (issue : Issue) : String :=
  let v := issue.valueIn given
  issue.place ++ "\n  [type=" ++ issue.kind.name ++ ", input_value=" ++ shortened v.quote ++
    ", input_type=" ++ v.kindName ++ "]"

end Issue

def Rejection.details (r : Rejection) (given : Value) : String :=
  "\n".intercalate (r.record :: r.issues.map (Issue.details given))

end ApiContract
