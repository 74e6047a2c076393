import ApiContract.Yaml.Lexeme

/-!
# Tokens of a YAML text

`Token.scan` cuts a text into tokens. Indentation becomes tokens of its own: a collection in block
layout is put between a start token and `blockEnd`. That a word is a key shows only at the colon behind
it, so the lexer remembers for every level of brackets the word that may turn out to be one, and puts
the key token in front of it later.
-/

namespace ApiContract.Yaml

inductive Token where
  | directive (directive : Directive)
  | documentStart
  | documentEnd
  | blockSequenceStart
  | blockMappingStart
  | blockEnd
  | flowSequenceStart
  | flowSequenceEnd
  | flowMappingStart
  | flowMappingEnd
  | blockEntry
  | flowEntry
  | key
  | value
  | reference (name : String)
  | anchor (name : String)
  | tag (name : TagName)
  | scalar (text : String) (plain : Bool)
  deriving DecidableEq, Repr

/-- A word that may turn out to be a key: the number of tokens before it and its place. -/
structure KeyCandidate where
  number : Nat
  /-- Nothing else can stand at this place. -/
  required : Bool
  index : Nat
  line : Nat
  column : Nat

structure Lexer where
  cursor : Cursor
  /-- The tokens so far, last first. -/
  tokens : List Token := []
  /-- The columns of the open block collections, innermost first. -/
  indents : List Nat := []
  /-- Whether a key without a mark may start here. -/
  allowsKey : Bool := true
  /-- The candidate at this level of brackets. -/
  candidate : Option KeyCandidate := none
  /-- The candidates outside of each open bracket. -/
  outer : List (Option KeyCandidate) := []

namespace Lexer

def inFlow (x : Lexer) : Bool := !x.outer.isEmpty

def emit (t : Token) (x : Lexer) : Lexer := { x with tokens := t :: x.tokens }

/-- Emits a token that takes `n` characters. -/
def take (n : Nat) (t : Token) (x : Lexer) : Lexer :=
  { x with tokens := t :: x.tokens, cursor := x.cursor.skip n }

/-- Puts a token in front of the one with a number. -/
def emitAt (number : Nat) (t : Token) (x : Lexer) : Lexer :=
  let after := x.tokens.length - number
  { x with tokens := x.tokens.take after ++ t :: x.tokens.drop after }

/-! ## Candidates for keys -/

/-- A key is on one line and not longer than this. -/
def keyLimit : Nat := 1024

/-- A candidate, unless it is out of reach. -/
def reachable (c : Cursor) : Option KeyCandidate → Except Failure (Option KeyCandidate)
  | none => .ok none
  | some k =>
    if k.line = c.line ∧ c.index - k.index ≤ keyLimit then .ok (some k)
    else if k.required then .error .malformed
    else .ok none

/-- Drops the candidates that are out of reach. -/
def dropUnreachable (x : Lexer) : Except Failure Lexer := do
  let candidate ← reachable x.cursor x.candidate
  let outer ← x.outer.mapM (reachable x.cursor)
  return { x with candidate, outer }

/-- Gives up the candidate at this level. -/
def dropCandidate (x : Lexer) : Except Failure Lexer :=
  if x.candidate.any (·.required) then .error .malformed else .ok { x with candidate := none }

/-- Remembers the word that starts here as a candidate. -/
def noteCandidate (x : Lexer) : Except Failure Lexer :=
  if x.allowsKey then do
    let x ← x.dropCandidate
    let c := x.cursor
    let required := !x.inFlow && x.indents.head? == some c.column
    let noted : KeyCandidate :=
      { number := x.tokens.length, required, index := c.index, line := c.line, column := c.column }
    return { x with candidate := some noted }
  else .ok x

/-! ## Indentation -/

/-- Closes the block collections for which `closes` holds of the column. -/
def unwind (closes : Nat → Bool) (x : Lexer) : Lexer :=
  let closed := (x.indents.takeWhile closes).length
  { x with
    tokens := List.replicate closed .blockEnd ++ x.tokens
    indents := x.indents.drop closed }

/-- Whether a column lies deeper than the innermost block collection. -/
def isDeeper (column : Nat) (x : Lexer) : Bool := x.indents.head?.all (· < column)

/-- Opens a block collection in front of a token if its column lies deeper than the open ones. -/
def openAt (column number : Nat) (t : Token) (x : Lexer) : Lexer :=
  if x.isDeeper column then { x with indents := column :: x.indents }.emitAt number t else x

/-- Opens a block collection at a mark that stands here, if no bracket is open. -/
def openHere (t : Token) (x : Lexer) : Except Failure Lexer :=
  if x.inFlow then .ok x
  else if x.allowsKey then .ok (x.openAt x.cursor.column x.tokens.length t)
  else .error .malformed

/-! ## Tokens -/

/-- Goes on to the next token; outside of brackets a key may start on a new line. -/
def skipToToken : (fuel : Nat) → Lexer → Lexer
  | 0, x => x
  | fuel + 1, x =>
    let c := (x.cursor.skipWhile (· == ' ')).skipComment
    match c.lineBreak? with
    | none => { x with cursor := c }
    | some (_, c) =>
      skipToToken fuel { x with cursor := c, allowsKey := x.allowsKey || !x.inFlow }

/-- Ends all block collections in front of a token that stands outside of them. -/
def closeAll (x : Lexer) : Except Failure Lexer := do
  let x ← (x.unwind fun _ => true).dropCandidate
  return { x with allowsKey := false }

def scanDirective (x : Lexer) : Except Failure Lexer := do
  let x ← x.closeAll
  let (d, cursor) ← directive x.cursor
  return { x with cursor }.emit (.directive d)

def scanMark (t : Token) (x : Lexer) : Except Failure Lexer := do
  return (← x.closeAll).take 3 t

def openBracket (t : Token) (x : Lexer) : Except Failure Lexer := do
  let x ← x.noteCandidate
  return { x with outer := x.candidate :: x.outer, candidate := none, allowsKey := true }.take 1 t

def closeBracket (t : Token) (x : Lexer) : Except Failure Lexer := do
  let x ← x.dropCandidate
  match x.outer with
  | [] => .error .malformed
  | candidate :: outer => return { x with outer, candidate, allowsKey := false }.take 1 t

def scanFlowEntry (x : Lexer) : Except Failure Lexer := do
  return { ← x.dropCandidate with allowsKey := true }.take 1 .flowEntry

def scanBlockEntry (x : Lexer) : Except Failure Lexer := do
  let x ← (← x.openHere .blockSequenceStart).dropCandidate
  return { x with allowsKey := true }.take 1 .blockEntry

def scanKey (x : Lexer) : Except Failure Lexer := do
  let x ← (← x.openHere .blockMappingStart).dropCandidate
  return { x with allowsKey := !x.inFlow }.take 1 .key

/-- A colon makes a key of the candidate, or it belongs to a key with a mark. -/
def scanValue (x : Lexer) : Except Failure Lexer := do
  match x.candidate with
  | some k =>
    let x := { x with candidate := none, allowsKey := false }.emitAt k.number .key
    let x := if x.inFlow then x else x.openAt k.column k.number .blockMappingStart
    return x.take 1 .value
  | none =>
    let x ← x.openHere .blockMappingStart
    return { x with allowsKey := !x.inFlow }.take 1 .value

/-- A word that may be a key. -/
def scanWord (read : Cursor → Except Failure (Token × Cursor)) (x : Lexer) : Except Failure Lexer := do
  let x ← x.noteCandidate
  let (t, cursor) ← read x.cursor
  return { x with cursor, allowsKey := false }.emit t

def scanQuoted (quote : Char) (x : Lexer) : Except Failure Lexer :=
  x.scanWord fun c => do
    let (text, c) ← quotedText quote (c.rest.length + 1) c.next
    return (.scalar (String.ofList text) false, c)

/-- The least column of text within the innermost block collection. -/
def innerColumn (x : Lexer) : Nat := (x.indents.head?.map (· + 1)).getD 0

def scanBlockText (folded : Bool) (x : Lexer) : Except Failure Lexer := do
  let x ← x.dropCandidate
  let (text, cursor) ← blockText folded x.innerColumn x.cursor
  return { x with cursor, allowsKey := true }.emit (.scalar (String.ofList text) false)

def scanPlain (x : Lexer) : Except Failure Lexer := do
  let x ← x.noteCandidate
  let (text, allowsKey, cursor) :=
    plainText x.inFlow x.innerColumn (x.cursor.rest.length + 1) false x.cursor
  return { x with cursor, allowsKey }.emit (.scalar (String.ofList text) true)

/-- Whether a plain scalar may start with `c` before `rest`. -/
def startsPlain (inFlow : Bool) (c : Char) (rest : List Char) : Bool :=
  let joined := !rest.head?.all isSpacing
  if c == '-' then joined
  else if c == '?' || c == ':' then !inFlow && joined
  else
    !isSpacing c && !isFlowIndicator c &&
      !(['#', '&', '*', '!', '|', '>', '\'', '"', '%', '@', '\u0060'] : List Char).contains c

/-- The token that starts at the cursor, where the text goes on with `c`. -/
def scanToken (c : Char) (rest : List Char) (x : Lexer) : Except Failure Lexer :=
  let alone := rest.head?.all isSpacing
  let marks := x.cursor.column = 0 ∧ isDocumentMark (c :: rest)
  if c = '%' ∧ x.cursor.column = 0 then x.scanDirective
  else if c = '-' ∧ marks then x.scanMark .documentStart
  else if c = '.' ∧ marks then x.scanMark .documentEnd
  else
    match c with
    | '[' => x.openBracket .flowSequenceStart
    | ']' => x.closeBracket .flowSequenceEnd
    | '\x7b' => x.openBracket .flowMappingStart
    | '\x7d' => x.closeBracket .flowMappingEnd
    | ',' => x.scanFlowEntry
    | '*' => x.scanWord fun c => do
      let (name, c) ← anchorName c
      return (.reference name, c)
    | '&' => x.scanWord fun c => do
      let (name, c) ← anchorName c
      return (.anchor name, c)
    | '!' => x.scanWord fun c => do
      let (name, c) ← tagName c
      return (.tag name, c)
    | '\'' => x.scanQuoted '\''
    | '"' => x.scanQuoted '"'
    | c =>
      if c = '-' ∧ alone then x.scanBlockEntry
      else if c = '?' ∧ (x.inFlow ∨ alone) then x.scanKey
      else if c = ':' ∧ (x.inFlow ∨ alone) then x.scanValue
      else if c = '|' ∧ !x.inFlow then x.scanBlockText false
      else if c = '>' ∧ !x.inFlow then x.scanBlockText true
      else if startsPlain x.inFlow c rest then x.scanPlain
      else .error .malformed

/-- All tokens up to the end of the text. -/
def run : (fuel : Nat) → Lexer → Except Failure Lexer
  | 0, x => .ok x
  | fuel + 1, x => do
    let x ← (x.skipToToken (x.cursor.rest.length + 1)).dropUnreachable
    match x.cursor.rest with
    | [] => x.closeAll
    | c :: rest =>
      let x := if x.inFlow then x else x.unwind (x.cursor.column < ·)
      run fuel (← x.scanToken c rest)

end Lexer

/-- The tokens of a text. A byte order mark may stand at its start. -/
def Token.scan (text : List Char) : Except Failure (List Token) := do
  if text.all isAllowed then
    let start : Cursor := { rest := text }
    let cursor := if text.head? = some '\ufeff' then start.next else start
    return (← Lexer.run (text.length + 1) { cursor }).tokens.reverse
  else .error .malformed

end ApiContract.Yaml
