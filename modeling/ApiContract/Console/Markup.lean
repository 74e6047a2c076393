import ApiContract.Console.Emoji
import ApiContract.Console.Literal
import ApiContract.Console.TextStyle
import ApiContract.Text.Printable
import ApiContract.Text.Tabs

/-!
# Console markup

Marked text holds tags in brackets. `[bold red]` opens a style, `[/bold red]` closes it and `[/]` closes
the one that was opened last; an equals sign parts the name of a tag from its parameters. A backslash in
front of a tag keeps it as text, and two of them stand for one. `Markup.shown?` is what is seen of a
marked text where nothing is coloured: it has no tags and no tabs, and emoji in place of their names. Its
lines are as long as they come: what a console of a certain width does to them, which may break a line or
crop it, is left out.
-/

namespace ApiContract.Markup

open ApiContract.Text

/-- A name with the parameters behind its equals sign. -/
structure Tag where
  name : List Char
  parameters : Option (List Char)
  deriving DecidableEq, Repr

/-- The parts of a marked text. -/
inductive Part where
  | plain (text : List Char)
  | tag (tag : Tag)
  deriving DecidableEq, Repr

def Tag.ofText (text : List Char) : Tag :=
  let name := text.takeWhile (· != '=')
  match text.drop name.length with
  | _ :: parameters => ⟨name, some parameters⟩
  | [] => ⟨name, none⟩

/-- The name and the parameters of a tag as the words of one style. -/
def Tag.style (t : Tag) : List Char :=
  match t.parameters with
  | some parameters => t.name ++ ' ' :: parameters
  | none => t.name

def startsTag (c : Char) : Bool :=
  ('a' ≤ c && c ≤ 'z') || c == '#' || c == '/' || c == '@'

/-- The tag at the start of a text, from behind its bracket on, and what follows it. -/
def tag? : List Char → Option (List Char × List Char)
  | [] => none
  | c :: rest =>
    let inside := rest.takeWhile fun d => d != '[' && d != ']'
    match startsTag c, rest.drop inside.length with
    | true, ']' :: after => some (c :: inside, after)
    | _, _ => none

/-- The first tag of a text with the backslashes in front of it. -/
structure Match where
  before : List Char
  slashes : Nat
  tag : List Char
  after : List Char

def firstTag? : List Char → Option Match
  | [] => none
  | c :: rest =>
    let slashes := (c :: rest).takeWhile (· == '\\')
    let here :=
      match (c :: rest).drop slashes.length with
      | '[' :: inside => tag? inside
      | _ => none
    match here with
    | some (tag, after) => some ⟨[], slashes.length, tag, after⟩
    | none => (firstTag? rest).map fun m => { m with before := c :: m.before }

/-- The tag of a match, or its text if it is kept. -/
def Match.part (m : Match) : Part :=
  if m.slashes % 2 = 1 then .plain ('[' :: m.tag ++ [']']) else .tag (.ofText m.tag)

/-- The parts of a text, with fuel for each of its tags. -/
def partsWithin : (fuel : Nat) → List Char → List Part
  | 0, _ => []
  | fuel + 1, text =>
    match firstTag? text with
    | none => [.plain text]
    | some m =>
      .plain m.before :: .plain (List.replicate (m.slashes / 2) '\\') :: m.part ::
        partsWithin fuel m.after

def parts (text : List Char) : List Part := partsWithin (text.length + 1) text

/-- Brackets without the backslash that may stand in front of them. -/
def unescape : List Char → List Char
  | '\\' :: '[' :: rest => '[' :: unescape rest
  | c :: rest => c :: unescape rest
  | [] => []

/-- Whether a console leaves out a character that would move its cursor. -/
def isControl (c : Char) : Bool := [0x07, 0x08, 0x0b, 0x0c, 0x0d].contains c.toNat

/-- What is seen of a text between tags. -/
def visible (text : List Char) : List Char :=
  (Emoji.replaceNames (unescape text)).filter (!isControl ·)

/-! ## Handlers -/

/-- Whether a character may stand in the name of a handler. -/
def isHandlerChar (c : Char) : Bool :=
  c.isAlphanum || c == '_' || c == '.' || (0x80 ≤ c.toNat && isPrintable c)

/-- The literal in the parameters of a handler: behind its name in round brackets, or by itself. -/
def handlerLiteral (parameters : List Char) : List Char :=
  let rest := parameters.dropWhile isHandlerChar
  if rest.isEmpty then ['(', ')']
  else if rest.head? == some '(' && rest.getLast? == some ')' && !rest.contains '\n' then rest
  else parameters

def Tag.isHandler (t : Tag) : Bool := t.name.head? == some '@'

/-- Whether the parameters of a handler can be read. -/
def Tag.hasLiteral (t : Tag) : Bool :=
  match t.parameters with
  | none | some [] => true
  | some parameters => Literal.isLiteral (handlerLiteral (strip parameters))

/-! ## Rendering -/

/-- A tag that is open since a length of the text. -/
structure OpenTag where
  tag : Tag
  start : Nat

/-- A stretch of text in a style. -/
structure Span where
  style : List Char
  start : Nat
  stop : Nat

/-- What has been seen of a text so far. -/
structure Progress where
  text : List Char := []
  /-- Tags that are open, the last one first. -/
  opened : List OpenTag := []
  spans : List Span := []

namespace Progress

/-- A tag is closed here. -/
def close (p : Progress) (t : OpenTag) : Option Progress :=
  if t.tag.isHandler then if t.tag.hasLiteral then some p else none
  else some { p with spans := ⟨t.tag.style, t.start, p.text.length⟩ :: p.spans }

/-- The normal form of a name, unless it has none. -/
def normalName? (name : List Char) : Option (List Char) :=
  (TextStyle.normalForm name).toOption.map String.toList

def addTag? (p : Progress) (t : Tag) : Option Progress :=
  match t.name with
  | '/' :: name =>
    let name := strip name
    if name.isEmpty then
      match p.opened with
      | [] => none
      | last :: others => { p with opened := others }.close last
    else do
      let name ← normalName? name
      let found ← p.opened.find? (·.tag.name == name)
      { p with opened := p.opened.eraseP (·.tag.name == name) }.close found
  | name => do
    let name ← normalName? name
    return { p with opened := ⟨{ t with name }, p.text.length⟩ :: p.opened }

def addPart? (p : Progress) : Part → Option Progress
  | .plain text => some { p with text := p.text ++ visible text }
  | .tag t => p.addTag? t

/-- All spans, those of tags that were left open included. -/
def allSpans (p : Progress) : List Span :=
  p.opened.map (fun t => ⟨t.tag.style, t.start, p.text.length⟩) ++ p.spans

/-- Whether a span is looked at: where lines or tabs divide the text, one without text is dropped. -/
def shows (p : Progress) (s : Span) : Bool :=
  !(p.text.contains '\n' || p.text.contains '\t') ||
    ((p.text.take s.stop).drop s.start).any (· != '\n')

/-- Whether the style of a span can be taken for what it is, a style or none. -/
def isReadable (s : Span) : Bool :=
  match TextStyle.read s.style with
  | .error .numeral => false
  | _ => true

end Progress

/-- What is seen of a marked text, unless a tag closes what is not open or cannot be read. -/
def shown? (marked : String) : Option String := do
  let p ← (parts marked.toList).foldlM Progress.addPart? {}
  if p.allSpans.all fun s => !p.shows s || Progress.isReadable s then
    return String.ofList (expandTabs p.text)
  else none

/-- What is seen of a text without markup. -/
def shownPlain (text : String) : String :=
  String.ofList (expandTabs (text.toList.filter (!isControl ·)))

end ApiContract.Markup
