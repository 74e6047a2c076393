import ApiContract.Number.Numeral

/-!
# Literals

`isLiteral` tells whether a text is the literal of a constant, as it may stand for the parameters of a
handler: numbers, quoted texts and bytes, the names of constants, and tuples, sets and mappings of them.
A text is first cut into `Lexeme`s, and what they make up is then known by its `Kind`.
-/

namespace ApiContract.Literal

open ApiContract.Text ApiContract.Number

inductive Lexeme where
  | number (imaginary : Bool)
  | quoted (bytes : Bool)
  | word (name : List Char)
  | dots
  | mark (c : Char)
  /-- The end of a line outside of brackets. -/
  | lineEnd
  deriving DecidableEq, Repr

def isWordChar (c : Char) : Bool := c.isAlphanum || c == '_' || 0x80 ≤ c.toNat

/-- Digits with single underscores between them, and what follows them. -/
def digitsOf? (text : List Char) : Option (List Nat × List Char) :=
  let run := text.takeWhile fun c => c.isDigit || c == '_'
  (digitGroups? asciiDigit? run).map (·, text.drop run.length)

/-- The digits in front of a text, which may have none. -/
def digitsIfAny? (text : List Char) : Option (List Nat × List Char) :=
  if text.head?.any Char.isDigit then digitsOf? text else some ([], text)

/-- An integer in a base that is told by the letter after its first zero. -/
def basedNumber? (base : Nat) (text : List Char) : Option (Lexeme × List Char) :=
  let run := text.takeWhile isWordChar
  let digits := if run.head? == some '_' then run.drop 1 else run
  let value? (c : Char) : Option Nat := (hexDigit? c).filter (· < base)
  (digitGroups? value? digits).map fun _ => (.number false, text.drop run.length)

/-- The exponent in front of a text, if there is one. -/
def exponent? (text : List Char) : Option (Bool × List Char) :=
  match text with
  | c :: rest =>
    if c == 'e' || c == 'E' then (digitsOf? (readSign rest).2).map fun (_, rest) => (true, rest)
    else some (false, text)
  | [] => some (false, [])

/-- A number in the decimal system; an integer has no zeros in front of its other digits. -/
def decimalNumber? (text : List Char) : Option (Lexeme × List Char) := do
  let (whole, rest) ← digitsIfAny? text
  let (places, rest, pointed) ←
    match rest with
    | '.' :: rest => (digitsIfAny? rest).map fun (places, rest) => (places, rest, true)
    | rest => some ([], rest, false)
  if whole.isEmpty && places.isEmpty then none
  let (scaled, rest) ← exponent? rest
  let (imaginary, rest) :=
    match rest with
    | 'j' :: rest | 'J' :: rest => (true, rest)
    | rest => (false, rest)
  let integral := !pointed && !scaled && !imaginary
  let padded := whole.head? == some 0 && whole.any (· != 0)
  if integral && (padded || numeralLimit < whole.length) then none
  if rest.head?.any isWordChar then none
  return (.number imaginary, rest)

def number? (text : List Char) : Option (Lexeme × List Char) :=
  match text with
  | '0' :: c :: rest =>
    match [('x', 16), ('o', 8), ('b', 2)].lookup c.toLower with
    | some base => basedNumber? base rest
    | none => decimalNumber? text
  | _ => decimalNumber? text

/-- What follows the name of a character in braces. -/
def afterCharName? (text : List Char) : Option (List Char) :=
  let name := (text.drop 1).takeWhile fun c => c.isAlphanum || c == ' ' || c == '-'
  match text, text.drop (name.length + 1) with
  | '\x7b' :: _, '\x7d' :: rest => if name.isEmpty then none else some rest
  | _, _ => none

/-- What an escape takes up behind its backslash. -/
def escape? (bytes : Bool) (text : List Char) : Option (List Char) :=
  let hex (count : Nat) (rest : List Char) : Option (List Char) := do
    let digits ← (rest.take count).mapM hexDigit?
    if digits.length = count ∧ ofDigits 16 digits ≤ 0x10ffff then return rest.drop count else none
  match text with
  | [] => none
  | 'x' :: rest => hex 2 rest
  | c :: rest =>
    if bytes then some rest
    else if c == 'u' then hex 4 rest
    else if c == 'U' then hex 8 rest
    else if c == 'N' then afterCharName? rest
    else some rest

/-- What follows a quoted text behind its opening quote. Quotes written three times take line ends. -/
def afterQuoted? (raw bytes : Bool) (closing : List Char) :
    (fuel : Nat) → List Char → Option (List Char)
  | 0, _ => none
  | _, [] => none
  | fuel + 1, text@(c :: rest) =>
    if closing.isPrefixOf text then some (text.drop closing.length)
    else if bytes && 0x80 ≤ c.toNat then none
    else if c == '\\' then do
      let rest ← if raw then some (rest.drop 1) else escape? bytes rest
      afterQuoted? raw bytes closing fuel rest
    else if c == '\n' && closing.length == 1 then none
    else afterQuoted? raw bytes closing fuel rest

/-- A quoted text from its quote on, behind the letters that say how it is written. -/
def quoted? (letters text : List Char) : Option (Lexeme × List Char) := do
  let letters := String.ofList (letters.map Char.toLower)
  if !(["", "r", "u", "b", "br", "rb"] : List String).contains letters then none
  let quote ← text.head?
  let closing :=
    if List.isPrefixOf [quote, quote, quote] text then [quote, quote, quote] else [quote]
  let bytes := letters.contains 'b'
  let rest ← afterQuoted? (letters.contains 'r') bytes closing (text.length + 1)
    (text.drop closing.length)
  return (.quoted bytes, rest)

def isQuote (c : Char) : Bool := c == '\'' || c == '"'

/-- The lexeme at the start of a text. -/
def lexeme? (text : List Char) : Option (Lexeme × List Char) :=
  match text with
  | [] => none
  | '.' :: '.' :: '.' :: rest => some (.dots, rest)
  | c :: rest =>
    if c.isDigit || c == '.' then number? text
    else if isQuote c then quoted? [] text
    else if isWordChar c then
      let word := text.takeWhile isWordChar
      let rest := text.drop word.length
      if rest.head?.any isQuote then quoted? word rest else some (.word word, rest)
    else if "()\x7b\x7d,:+-".contains c then some (.mark c, rest)
    else none

/-- The lexemes of a text, `depth` brackets being open in front of it. -/
def lexemes? : (fuel depth : Nat) → List Char → Option (List Lexeme)
  | 0, _, _ => none
  | _, _, [] => some []
  | fuel + 1, depth, text@(c :: rest) =>
    if c == ' ' || c == '\t' || c == '\x0c' then lexemes? fuel depth rest
    else if c == '#' then lexemes? fuel depth (rest.dropWhile (· != '\n'))
    else if c == '\n' then do
      let more ← lexemes? fuel depth rest
      return if depth = 0 then .lineEnd :: more else more
    else if List.isPrefixOf ['\\', '\n'] text then lexemes? fuel depth (rest.drop 1)
    else do
      let (found, rest) ← lexeme? text
      let depth :=
        match found with
        | .mark '(' | .mark '\x7b' => depth + 1
        | .mark ')' | .mark '\x7d' => depth - 1
        | _ => depth
      return found :: (← lexemes? fuel depth rest)

/-- What a literal stands for, as far as it decides where the literal may stand. -/
inductive Kind where
  | real
  | signedReal
  | imaginary
  /-- Any other constant that may be a key. -/
  | constant
  /-- Sets and mappings, and what holds them, are no keys. -/
  | container
  deriving DecidableEq, Repr

def Kind.isKey : Kind → Bool
  | container => false
  | _ => true

mutual

/-- A literal, which may be the sum of a real number and an imaginary one. -/
def sum? : (fuel : Nat) → List Lexeme → Option (Kind × List Lexeme)
  | 0, _ => none
  | fuel + 1, text => do
    let (left, rest) ←
      match text with
      | .mark '+' :: rest | .mark '-' :: rest =>
        match atom? fuel rest with
        | some (.real, rest) => some (.signedReal, rest)
        | some (.imaginary, rest) => some (.constant, rest)
        | _ => none
      | _ => atom? fuel text
    match rest with
    | .mark '+' :: more | .mark '-' :: more =>
      match left, atom? fuel more with
      | .real, some (.imaginary, rest) | .signedReal, some (.imaginary, rest) =>
        some (.constant, rest)
      | _, _ => none
    | _ => some (left, rest)

def atom? : (fuel : Nat) → List Lexeme → Option (Kind × List Lexeme)
  | 0, _ => none
  | _, .number imaginary :: rest => some (if imaginary then .imaginary else .real, rest)
  | _, .quoted bytes :: rest =>
    match rest.dropWhile (· == .quoted bytes) with
    | .quoted _ :: _ => none
    | rest => some (.constant, rest)
  | _, .dots :: rest => some (.constant, rest)
  | _, .word name :: rest =>
    if ["True", "False", "None"].contains (String.ofList name) then some (.constant, rest)
    else
      match String.ofList name, rest with
      | "set", .mark '(' :: .mark ')' :: rest => some (.container, rest)
      | _, _ => none
  | _, .mark '(' :: .mark ')' :: rest => some (.constant, rest)
  | fuel + 1, .mark '(' :: text => do
    match ← sum? fuel text with
    | (kind, .mark ')' :: rest) => some (kind, rest)
    | (kind, .mark ',' :: rest) => do
      let (kinds, rest) ← items? fuel false ')' rest
      return (if (kind :: kinds).all Kind.isKey then .constant else .container, rest)
    | _ => none
  | fuel + 1, .mark '\x7b' :: text => do
    let pairs :=
      match sum? fuel text with
      | some (_, .mark ':' :: _) => true
      | _ => text.head? == some (.mark '\x7d')
    let (keys, rest) ← items? fuel pairs '\x7d' text
    if keys.all Kind.isKey then return (.container, rest) else none
  | _, _ => none

/-- The members of a bracket up to its end, or the keys of its pairs. -/
def items? : (fuel : Nat) → (pairs : Bool) → (closing : Char) → List Lexeme →
    Option (List Kind × List Lexeme)
  | 0, _, _, _ => none
  | fuel + 1, pairs, closing, text => do
    if text.head? == some (.mark closing) then return ([], text.drop 1)
    let (kind, rest) ← sum? fuel text
    let rest ←
      match pairs, rest with
      | false, rest => some rest
      | true, .mark ':' :: rest => (sum? fuel rest).map (·.2)
      | true, _ => none
    match rest with
    | .mark ',' :: rest => do
      let (kinds, rest) ← items? fuel pairs closing rest
      return (kind :: kinds, rest)
    | .mark c :: rest => if c == closing then return ([kind], rest) else none
    | _ => none

end

/-- Line ends in one form. -/
def withLineFeeds : List Char → List Char
  | '\r' :: '\n' :: rest => '\n' :: withLineFeeds rest
  | '\r' :: rest => '\n' :: withLineFeeds rest
  | c :: rest => c :: withLineFeeds rest
  | [] => []

/-- Whether a text is a literal on one line; without brackets around it, members make a tuple. -/
def isLiteral (text : List Char) : Bool :=
  let text := withLineFeeds text
  let found := (lexemes? (text.length + 1) 0 text).map (dropEnds (· == .lineEnd))
  match found with
  | none | some [] => false
  | some found =>
    !text.contains '\x00' &&
    match atom? (3 * found.length + 6) (.mark '(' :: found ++ [.mark ')']) with
    | some (_, []) => true
    | _ => false

end ApiContract.Literal
