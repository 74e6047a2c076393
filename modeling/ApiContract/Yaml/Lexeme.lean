import ApiContract.Number.Numeral
import ApiContract.Yaml.Cursor

/-!
# Words of a YAML text

The parts of a text that are read character by character: plain, quoted and block scalars, anchors,
tags and directives. Lines within a plain or quoted scalar are folded: a single line break becomes a
space, and of several the first is dropped.
-/

namespace ApiContract.Yaml

open ApiContract.Number ApiContract.Text

/-- Line breaks as they are folded into a scalar. -/
def foldBreaks (first : Char) (others : List Char) : List Char :=
  if first != '\n' then first :: others
  else if others.isEmpty then [' ']
  else others

/-! ## Plain scalars -/

/-- The part of a plain scalar up to the next space or line end. -/
def plainWord (inFlow : Bool) : List Char → List Char
  | [] => []
  | c :: rest =>
    let ends (d : Char) : Bool := isSpacing d || (inFlow && isFlowIndicator d)
    if ends c || (c == ':' && rest.head?.all ends) || (inFlow && c == '?') then []
    else c :: plainWord inFlow rest

/-- The empty lines and indentation before the next line of a plain scalar; none if a document mark
stands there. -/
def plainBreaks : (fuel : Nat) → Cursor → Option (List Char) × Cursor
  | 0, c => (some [], c)
  | fuel + 1, c =>
    if isDocumentMark c.rest then (none, c)
    else
      let c := c.skipWhile (· == ' ')
      match c.lineBreak? with
      | none => (some [], c)
      | some (b, c) =>
        let (others, c) := plainBreaks fuel c
        (others.map (b :: ·), c)

/-- What separates two words of a plain scalar, and whether a line ended there. Nothing stands for the
end of the scalar. -/
def plainGap (c : Cursor) : List Char × Bool × Cursor :=
  let (blanks, c) := c.span (· == ' ')
  match c.lineBreak? with
  | none => (blanks, false, c)
  | some (first, c) =>
    match plainBreaks (c.rest.length + 1) c with
    | (some others, c) => (foldBreaks first others, true, c)
    | (none, c) => ([], true, c)

/-- A plain scalar, and whether it ends at the start of a line. -/
def plainText (inFlow : Bool) (indent : Nat) :
    (fuel : Nat) → (atLineStart : Bool) → Cursor → List Char × Bool × Cursor
  | 0, atLineStart, c => ([], atLineStart, c)
  | fuel + 1, atLineStart, c =>
    let word := if c.rest.head? = some '#' then [] else plainWord inFlow c.rest
    if word.isEmpty then ([], atLineStart, c)
    else
      let (gap, atLineStart, c) := plainGap (c.skip word.length)
      if gap.isEmpty || c.rest.head? = some '#' || (!inFlow && c.column < indent) then
        (word, atLineStart, c)
      else
        let (more, atLineStart, c) := plainText inFlow indent fuel atLineStart c
        (if more.isEmpty then word else word ++ gap ++ more, atLineStart, c)

/-! ## Quoted scalars -/

/-- Empty lines within a quoted scalar; a document mark may not stand there. -/
def quotedBreaks : (fuel : Nat) → Cursor → Except Failure (List Char × Cursor)
  | 0, c => .ok ([], c)
  | fuel + 1, c =>
    if isDocumentMark c.rest then .error .malformed
    else
      let c := c.skipWhile isBlank
      match c.lineBreak? with
      | none => .ok ([], c)
      | some (b, c) => do
        let (others, c) ← quotedBreaks fuel c
        return (b :: others, c)

/-- Blanks or line ends within a quoted scalar. -/
def quotedGap (c : Cursor) : Except Failure (List Char × Cursor) := do
  let (blanks, c) := c.span isBlank
  match c.lineBreak? with
  | none => return (blanks, c)
  | some (first, c) =>
    let (others, c) ← quotedBreaks (c.rest.length + 1) c
    return (foldBreaks first others, c)

/-- Characters that stand for others after a backslash. -/
def escapedChar? : Char → Option Char
  | '0' => some '\x00'
  | 'a' => some '\x07'
  | 'b' => some '\x08'
  | 't' | '\t' => some '\t'
  | 'n' => some '\n'
  | 'v' => some '\x0b'
  | 'f' => some '\x0c'
  | 'r' => some '\r'
  | 'e' => some '\x1b'
  | ' ' => some ' '
  | '"' => some '"'
  | '\\' => some '\\'
  | '/' => some '/'
  | 'N' => some '\x85'
  | '_' => some '\u00a0'
  | 'L' => some '\u2028'
  | 'P' => some '\u2029'
  | _ => none

/-- The number of digits that follow a letter in an escape. -/
def escapeWidth? : Char → Option Nat
  | 'x' => some 2
  | 'u' => some 4
  | 'U' => some 8
  | _ => none

/-- The number written by the first `width` characters, all of them hexadecimal digits. -/
def hexNumber? (width : Nat) (text : List Char) : Option Nat := do
  let digits ← (text.take width).mapM hexDigit?
  if digits.length = width then return ofDigits 16 digits else none

/-- The low surrogate escaped at the start of a text. -/
def lowSurrogate? : List Char → Option Nat
  | '\\' :: 'u' :: rest => do
    let code ← hexNumber? 4 rest
    if 0xdc00 ≤ code ∧ code ≤ 0xdfff then return code else none
  | _ => none

/-- The character with a number; two surrogates make up one character, and one that stands alone gives
the replacement character. -/
def numberedChar (code : Nat) (c : Cursor) : Except Failure (Char × Cursor) :=
  if 0x10ffff < code then .error .noValue
  else if 0xd800 ≤ code ∧ code ≤ 0xdfff then
    match lowSurrogate? c.rest with
    | some low =>
      if code ≤ 0xdbff then
        .ok (Char.ofNat (0x10000 + (code - 0xd800) * 0x400 + (low - 0xdc00)), c.skip 6)
      else .ok ('\ufffd', c)
    | none => .ok ('\ufffd', c)
  else .ok (Char.ofNat code, c)

/-- What an escape stands for, read from behind the backslash on. -/
def escaped (c : Cursor) : Except Failure (List Char × Cursor) := do
  let some letter := c.rest.head? | .error .malformed
  if let some ch := escapedChar? letter then
    return ([ch], c.next)
  if let some width := escapeWidth? letter then
    let some code := hexNumber? width c.next.rest | .error .malformed
    let (ch, c) ← numberedChar code (c.next.skip width)
    return ([ch], c)
  match c.lineBreak? with
  | some (_, c) => quotedBreaks (c.rest.length + 1) c
  | none => .error .malformed

/-- A quoted scalar, read from behind its first quote on. -/
def quotedText (quote : Char) : (fuel : Nat) → Cursor → Except Failure (List Char × Cursor)
  | 0, _ => .error .malformed
  | fuel + 1, c =>
    match c.rest with
    | [] => .error .malformed
    | ch :: rest =>
      if ch = quote then
        if quote = '\'' ∧ rest.head? = some '\'' then do
          let (more, c) ← quotedText quote fuel (c.skip 2)
          return ('\'' :: more, c)
        else .ok ([], c.next)
      else do
        let (part, c) ←
          if ch = '\\' ∧ quote = '"' then escaped c.next
          else if isSpacing ch then quotedGap c
          else .ok ([ch], c.next)
        let (more, c) ← quotedText quote fuel c
        return (part ++ more, c)

/-! ## Block scalars -/

/-- What becomes of the line breaks at the end of a block scalar. -/
inductive Chomping where
  | strip
  | clip
  | keep
  deriving DecidableEq, Repr

def chomping? : Option Char → Option Chomping
  | some '+' => some .keep
  | some '-' => some .strip
  | _ => none

/-- The digit from one to nine that says how far a block scalar is indented. -/
def indentation (c : Cursor) : Except Failure (Option Nat × Cursor) :=
  match c.rest.head?.bind asciiDigit? with
  | none => .ok (none, c)
  | some 0 => .error .malformed
  | some n => .ok (some n, c.next)

/-- The header of a block scalar: a mark for its end and a digit, in either order. -/
def blockHeader (c : Cursor) : Except Failure (Chomping × Option Nat × Cursor) := do
  let (chomping, indent, c) ←
    match chomping? c.rest.head? with
    | some chomping => do
      let (indent, c) ← indentation c.next
      pure (chomping, indent, c)
    | none => do
      let (indent, c) ← indentation c
      match indent, chomping? c.rest.head? with
      | some _, some chomping => pure (chomping, indent, c.next)
      | _, _ => pure (.clip, indent, c)
  if c.endsAt isSpaceOrBreak then return (chomping, indent, ← c.endLine) else .error .malformed

/-- Empty lines at the start of a block scalar and the widest indentation there. -/
def blockLead : (fuel : Nat) → (widest : Nat) → Cursor → List Char × Nat × Cursor
  | 0, widest, c => ([], widest, c)
  | fuel + 1, widest, c =>
    let c := c.skipWhile (· == ' ')
    let widest := max widest c.column
    match c.lineBreak? with
    | none => ([], widest, c)
    | some (b, c) =>
      let (others, widest, c) := blockLead fuel widest c
      (b :: others, widest, c)

/-- Empty lines within a block scalar, up to the indentation of its next line. -/
def blockBreaks (indent : Nat) : (fuel : Nat) → Cursor → List Char × Cursor
  | 0, c => ([], c)
  | fuel + 1, c =>
    let c := c.skip (min (indent - c.column) (c.rest.takeWhile (· == ' ')).length)
    match c.lineBreak? with
    | none => ([], c)
    | some (b, c) =>
      let (others, c) := blockBreaks indent fuel c
      (b :: others, c)

/-- Whether a line of a block scalar starts here. -/
def atBlockLine (indent : Nat) (c : Cursor) : Bool := c.column == indent && !c.rest.isEmpty

/-- The lines of a block scalar that starts with the given empty lines. A line is joined to the next
with a space where it is folded and neither of them starts with a blank. -/
def blockLines (folded : Bool) (chomping : Chomping) (indent : Nat) :
    (fuel : Nat) → (before : List Char) → Cursor → List Char × Cursor
  | 0, before, c => (before, c)
  | fuel + 1, before, c =>
    let flush := !c.endsAt isBlank
    let (line, c) := c.span (!isBreak ·)
    let (ending, c) :=
      match c.lineBreak? with
      | some (b, c) => ([b], c)
      | none => ([], c)
    let (others, c) := blockBreaks indent (c.rest.length + 1) c
    if atBlockLine indent c then
      let join :=
        if folded && ending == ['\n'] && flush && !c.endsAt isBlank then
          if others.isEmpty then [' '] else []
        else ending
      let (more, c) := blockLines folded chomping indent fuel (join ++ others) c
      (before ++ line ++ more, c)
    else
      let ending :=
        match chomping with
        | .strip => []
        | .clip => ending
        | .keep => ending ++ others
      (before ++ line ++ ending, c)

/-- A block scalar within a collection that is indented by `outer - 1` columns. -/
def blockText (folded : Bool) (outer : Nat) (c : Cursor) : Except Failure (List Char × Cursor) := do
  let (chomping, digit, c) ← blockHeader c.next
  let least := max outer 1
  let (before, indent, c) :=
    match digit with
    | some n =>
      let (before, c) := blockBreaks (least + n - 1) (c.rest.length + 1) c
      (before, least + n - 1, c)
    | none =>
      let (before, widest, c) := blockLead (c.rest.length + 1) 0 c
      (before, max least widest, c)
  if atBlockLine indent c then
    return blockLines folded chomping indent (c.rest.length + 1) before c
  else return (if chomping = .keep then before else [], c)

/-! ## Anchors and tags -/

/-- The name behind the mark of an anchor or of a reference to one. -/
def anchorName (c : Cursor) : Except Failure (String × Cursor) :=
  let (name, c) := c.next.span isWordChar
  let ends (ch : Char) : Bool :=
    isSpacing ch || ['?', ':', ',', ']', '\x7d', '%', '@', '\u0060'].contains ch
  if !name.isEmpty && c.endsAt ends then .ok (String.ofList name, c) else .error .malformed

def isUriChar (c : Char) : Bool :=
  isWordChar c || ";/?:@&=+$,.!~*'()[]".toList.contains c

/-- Bytes written by percent signs. -/
def uriBytes : (fuel : Nat) → Cursor → Except Failure (List UInt8 × Cursor)
  | 0, c => .ok ([], c)
  | fuel + 1, c =>
    if c.rest.head? = some '%' then
      match hexNumber? 2 c.next.rest with
      | some n => do
        let (more, c) ← uriBytes fuel (c.skip 3)
        return (n.toUInt8 :: more, c)
      | none => .error .malformed
    else .ok ([], c)

/-- The longest text of a URI; escaped bytes have to be UTF-8. -/
def uriText : (fuel : Nat) → Cursor → Except Failure (List Char × Cursor)
  | 0, c => .ok ([], c)
  | fuel + 1, c => do
    let (word, c) := c.span isUriChar
    if c.rest.head? = some '%' then
      let (bytes, c) ← uriBytes (c.rest.length + 1) c
      let some text := String.fromUTF8? ⟨bytes.toArray⟩ | .error .malformed
      let (more, c) ← uriText fuel c
      return (word ++ text.toList ++ more, c)
    else return (word, c)

/-- A text of a URI that is not empty. -/
def uri (c : Cursor) : Except Failure (String × Cursor) := do
  let (text, after) ← uriText (c.rest.length + 1) c
  if after.index = c.index then .error .malformed else return (String.ofList text, after)

/-- A handle of tags: an exclamation mark, or a word between two of them. -/
def tagHandle (c : Cursor) : Except Failure (String × Cursor) :=
  if c.rest.head? != some '!' then .error .malformed
  else
    let (word, c) := c.next.span isWordChar
    if c.rest.head? = some '!' then .ok (String.ofList ('!' :: word ++ ['!']), c.next)
    else if word.isEmpty && c.rest.head? = some ' ' then .ok ("!", c)
    else .error .malformed

/-- A tag as it is written: a handle, unless the tag is given in full, and a suffix. -/
structure TagName where
  handle : Option String
  suffix : String
  deriving DecidableEq, Repr

def tagName (c : Cursor) : Except Failure (TagName × Cursor) := do
  let (name, c) ←
    if c.next.rest.head? = some '<' then do
      let (suffix, c) ← uri (c.skip 2)
      if c.rest.head? = some '>' then pure (TagName.mk none suffix, c.next)
      else .error .malformed
    else if c.next.endsAt isSpacing then pure (TagName.mk none "!", c.next)
    else do
      let word := c.next.rest.takeWhile (!isSpaceOrBreak ·)
      let (handle, c) ← if word.contains '!' then tagHandle c else pure ("!", c.next)
      let (suffix, c) ← uri c
      pure (TagName.mk (some handle) suffix, c)
  if c.endsAt isSpaceOrBreak then return (name, c) else .error .malformed

/-! ## Directives -/

inductive Directive where
  | version (major : Nat)
  | tag (handle leading : String)
  | other
  deriving DecidableEq, Repr

def versionNumber (c : Cursor) : Except Failure (Nat × Cursor) :=
  let (digits, c) := c.span Char.isDigit
  if digits.isEmpty then .error .malformed
  else if numeralLimit < digits.length then .error .noValue
  else .ok (Nat.ofDigitChars 10 digits 0, c)

/-- A version of the format, of which the first number matters. -/
def versionDirective (c : Cursor) : Except Failure (Directive × Cursor) := do
  let (major, c) ← versionNumber (c.skipWhile (· == ' '))
  if c.rest.head? != some '.' then .error .malformed
  else
    let (_, c) ← versionNumber c.next
    if c.endsAt isSpaceOrBreak then return (.version major, c) else .error .malformed

/-- A handle and what it stands for. -/
def tagDirective (c : Cursor) : Except Failure (Directive × Cursor) := do
  let (handle, c) ← tagHandle (c.skipWhile (· == ' '))
  if c.rest.head? != some ' ' then .error .malformed
  else
    let (leading, c) ← uri (c.skipWhile (· == ' '))
    if c.endsAt isSpaceOrBreak then return (.tag handle leading, c) else .error .malformed

def directive (c : Cursor) : Except Failure (Directive × Cursor) := do
  let (name, c) := c.next.span isWordChar
  if name.isEmpty || !c.endsAt isSpaceOrBreak then .error .malformed
  else
    let (directive, c) ←
      if name = ['Y', 'A', 'M', 'L'] then versionDirective c
      else if name = ['T', 'A', 'G'] then tagDirective c
      else pure (.other, c.skipWhile (!isBreak ·))
    return (directive, ← c.endLine)

end ApiContract.Yaml
