import ApiContract.Text.CaseTable

/-!
# Upper and lower case

`lower` and `upper` map a text to one case by the full case mappings: a letter may become several, and
a capital sigma becomes a final sigma where a word ends with it.
-/

namespace ApiContract.Text

/-- The mapping of one character by a table of exceptions and a table of runs. -/
def mapCase (specials : List (Nat × List Nat)) (shifts : List CaseShift) (c : Char) : List Char :=
  match specials.lookup c.toNat with
  | some codes => codes.map Char.ofNat
  | none =>
    match shifts.findSome? (·.move? c.toNat) with
    | some code => [Char.ofNat code]
    | none => [c]

def lowerChar (c : Char) : List Char :=
  if c.toNat < 128 then [c.toLower] else mapCase lowerSpecials lowerShifts c

def upperChar (c : Char) : List Char :=
  if c.toNat < 128 then [c.toUpper] else mapCase upperSpecials upperShifts c

/-- Whether the first character that is not ignored in the search is a letter with a case. -/
def startsCased (text : List Char) : Bool :=
  (text.dropWhile caseIgnorables.contains).head?.any casedLetters.contains

/-- Lower case of a text that follows a letter with a case exactly if `afterCased`. -/
def lowerAfter (afterCased : Bool) : List Char → List Char
  | [] => []
  | c :: rest =>
    (if c = 'Σ' then [if afterCased && !startsCased rest then 'ς' else 'σ'] else lowerChar c) ++
      lowerAfter (if caseIgnorables.contains c then afterCased else casedLetters.contains c) rest

def lower (text : List Char) : List Char := lowerAfter false text

def upper (text : List Char) : List Char := text.flatMap upperChar

/-- Lower case of a string. -/
def lowerString (s : String) : String := String.ofList (lower s.toList)

/-- Upper case of a string. -/
def upperString (s : String) : String := String.ofList (upper s.toList)

end ApiContract.Text
