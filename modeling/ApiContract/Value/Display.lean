import ApiContract.Number.Shortest
import ApiContract.Text.Quoted
import ApiContract.Value.Basic

/-!
# Values in messages

`Value.display` is a value as it stands in running text, and `Value.quote` the unambiguous form in
which texts are quoted and containers are bracketed.
-/

namespace ApiContract

open ApiContract.Number ApiContract.Text

/-- Doubles in messages: in place from `0.0001` up to below `1e16`, exponents of two digits. -/
def messageFloats : FloatLayout :=
  { pointAbove := -4, pointUpTo := 16, exponentWidth := 2, nan := ['n', 'a', 'n'],
    infinity := ['i', 'n', 'f'] }

def quoteText (s : String) : String := String.ofList (quoted s.toList)

namespace Date

def quote (d : Date) : String :=
  "datetime.date(" ++ ", ".intercalate [intString d.year, intString d.month, intString d.day] ++ ")"

end Date

namespace Timestamp

/-- An offset as a duration of days and seconds. -/
def quoteOffset (minutes : Int) : String :=
  if minutes = 0 then "datetime.timezone.utc"
  else
    let seconds := intString ((minutes * 60) % 86400)
    let duration :=
      if minutes < 0 then "days=-1, seconds=" ++ seconds else "seconds=" ++ seconds
    "datetime.timezone(datetime.timedelta(" ++ duration ++ "))"

/-- Seconds and microseconds that are zero are left out from the end. -/
def quote (t : Timestamp) : String :=
  let seconds :=
    if t.time.microsecond ≠ 0 then [t.time.second, t.time.microsecond]
    else if t.time.second ≠ 0 then [t.time.second] else []
  let numbers := [t.date.year, t.date.month, t.date.day, t.time.hour, t.time.minute] ++ seconds
  let zone := (t.offset.map fun o => ["tzinfo=" ++ quoteOffset o]).getD []
  "datetime.datetime(" ++ ", ".intercalate ((numbers.map fun n : Nat => intString n) ++ zone) ++ ")"

end Timestamp

namespace Scalar

def quote : Scalar → String
  | .null => "None"
  | .bool b => if b then "True" else "False"
  | .int i => intString i
  | .float x => String.ofList (messageFloats.write x)
  | .text s => quoteText s
  | .date d => d.quote
  | .timestamp t => t.quote
  | .bytes b => String.ofList (quotedBytes b)

/-- Texts and dates stand as they are, everything else as it is quoted. -/
def display : Scalar → String
  | .text s => s
  | .date d => d.text
  | .timestamp t => t.text " "
  | s => s.quote

end Scalar

namespace Value

mutual

def quote : Value → String
  | .scalar s => s.quote
  | .list items => "[" ++ ", ".intercalate (quoteItems items) ++ "]"
  | .map entries => "\x7b" ++ ", ".intercalate (quoteEntries entries) ++ "\x7d"
  | .set [] => "set()"
  | .set members => "\x7b" ++ ", ".intercalate (members.map Scalar.quote) ++ "\x7d"
  | .endless => "..."

def quoteItems : List Value → List String
  | [] => []
  | v :: rest => v.quote :: quoteItems rest

def quoteEntries : List (Scalar × Value) → List String
  | [] => []
  | (k, v) :: rest => (k.quote ++ ": " ++ v.quote) :: quoteEntries rest

end

def display : Value → String
  | .scalar s => s.display
  | v => v.quote

end Value

end ApiContract
