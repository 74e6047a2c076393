import ApiContract.Number.Numeral
import ApiContract.Text.Letter

/-!
# Text styles

A `TextStyle` is what is asked of the look of a text: attributes, two colours and the address of a link.
`TextStyle.read` reads one from words in any order, and `TextStyle.normalForm` writes it with its words in
a fixed order, so that two names of one style can be told to be equal.
-/

namespace ApiContract

open ApiContract.Text ApiContract.Number

structure TextStyle where
  /-- Attributes that are asked for or forbidden; the first entry of each counts. -/
  attributes : List (String × Bool) := []
  colour : Option String := none
  background : Option String := none
  link : Option String := none
  deriving DecidableEq, Repr

namespace TextStyle

/-- Why words are no style. -/
inductive Problem where
  | unknown
  /-- The share of a primary colour is no number. -/
  | numeral
  deriving DecidableEq, Repr

/-- The attributes in the order in which they are written, with their short names. -/
def attributeNames : List (String × Option String) :=
  [("bold", some "b"), ("dim", some "d"), ("italic", some "i"), ("underline", some "u"),
    ("blink", none), ("blink2", none), ("reverse", some "r"), ("conceal", some "c"),
    ("strike", some "s"), ("underline2", some "uu"), ("frame", none), ("encircle", none),
    ("overline", some "o")]

def attribute? (word : String) : Option String :=
  (attributeNames.find? fun (name, short) => name == word || short == some word).map (·.1)

/-- The colours that go by a name. -/
def colourNames : List String :=
  ["aquamarine1", "aquamarine3", "black", "blue", "blue1", "blue3", "blue_violet", "bright_black",
    "bright_blue", "bright_cyan", "bright_green", "bright_magenta", "bright_red", "bright_white",
    "bright_yellow", "cadet_blue", "chartreuse1", "chartreuse2", "chartreuse3", "chartreuse4",
    "cornflower_blue", "cornsilk1", "cyan", "cyan1", "cyan2", "cyan3", "dark_blue", "dark_cyan",
    "dark_goldenrod", "dark_green", "dark_khaki", "dark_magenta", "dark_olive_green1",
    "dark_olive_green2", "dark_olive_green3", "dark_orange", "dark_orange3", "dark_red",
    "dark_sea_green", "dark_sea_green1", "dark_sea_green2", "dark_sea_green3", "dark_sea_green4",
    "dark_slate_gray1", "dark_slate_gray2", "dark_slate_gray3", "dark_turquoise", "dark_violet",
    "deep_pink1", "deep_pink2", "deep_pink3", "deep_pink4", "deep_sky_blue1", "deep_sky_blue2",
    "deep_sky_blue3", "deep_sky_blue4", "dodger_blue1", "dodger_blue2", "dodger_blue3", "gold1",
    "gold3", "gray0", "gray100", "gray11", "gray15", "gray19", "gray23", "gray27", "gray3",
    "gray30", "gray35", "gray37", "gray39", "gray42", "gray46", "gray50", "gray53", "gray54",
    "gray58", "gray62", "gray63", "gray66", "gray69", "gray7", "gray70", "gray74", "gray78",
    "gray82", "gray84", "gray85", "gray89", "gray93", "green", "green1", "green3", "green4",
    "green_yellow", "grey0", "grey100", "grey11", "grey15", "grey19", "grey23", "grey27", "grey3",
    "grey30", "grey35", "grey37", "grey39", "grey42", "grey46", "grey50", "grey53", "grey54",
    "grey58", "grey62", "grey63", "grey66", "grey69", "grey7", "grey70", "grey74", "grey78",
    "grey82", "grey84", "grey85", "grey89", "grey93", "honeydew2", "hot_pink", "hot_pink2",
    "hot_pink3", "indian_red", "indian_red1", "khaki1", "khaki3", "light_coral", "light_cyan1",
    "light_cyan3", "light_goldenrod1", "light_goldenrod2", "light_goldenrod3", "light_green",
    "light_pink1", "light_pink3", "light_pink4", "light_salmon1", "light_salmon3",
    "light_sea_green", "light_sky_blue1", "light_sky_blue3", "light_slate_blue",
    "light_slate_gray", "light_slate_grey", "light_steel_blue", "light_steel_blue1",
    "light_steel_blue3", "light_yellow3", "magenta", "magenta1", "magenta2", "magenta3",
    "medium_orchid", "medium_orchid1", "medium_orchid3", "medium_purple", "medium_purple1",
    "medium_purple2", "medium_purple3", "medium_purple4", "medium_spring_green",
    "medium_turquoise", "medium_violet_red", "misty_rose1", "misty_rose3", "navajo_white1",
    "navajo_white3", "navy_blue", "orange1", "orange3", "orange4", "orange_red1", "orchid",
    "orchid1", "orchid2", "pale_green1", "pale_green3", "pale_turquoise1", "pale_turquoise4",
    "pale_violet_red1", "pink1", "pink3", "plum1", "plum2", "plum3", "plum4", "purple", "purple3",
    "purple4", "red", "red1", "red3", "rosy_brown", "royal_blue1", "salmon1", "sandy_brown",
    "sea_green1", "sea_green2", "sea_green3", "sky_blue1", "sky_blue2", "sky_blue3", "slate_blue1",
    "slate_blue3", "spring_green1", "spring_green2", "spring_green3", "spring_green4",
    "steel_blue", "steel_blue1", "steel_blue3", "tan", "thistle1", "thistle3", "turquoise2",
    "turquoise4", "violet", "wheat1", "wheat4", "white", "yellow", "yellow1", "yellow2", "yellow3",
    "yellow4"]

/-- The largest number of a colour in the palette, and the largest share of a primary colour. -/
def largestShare : Nat := 255

/-- The share of a primary colour in digits of any script. -/
def share (digits : List Char) : Except Problem Nat :=
  match digits.mapM digitValue? with
  | some values =>
    if digits.isEmpty || numeralLimit < digits.length then .error .numeral
    else .ok (ofDigits 10 values)
  | none => .error .unknown

/-- The text between the brackets of a function written around it. -/
def argument? (function text : List Char) : Option (List Char) :=
  if (function ++ ['(']).isPrefixOf text && text.getLast? == some ')' then
    some ((text.drop (function.length + 1)).dropLast)
  else none

/-- Whether digits are the number of a colour in the palette. -/
def isPaletteNumber (digits : List Char) : Bool :=
  match digits.mapM asciiDigit? with
  | some values => 1 ≤ values.length && values.length ≤ 3 && ofDigits 10 values ≤ largestShare
  | none => false

/-- Three shares with commas between them, each no more than the largest. -/
def checkShares (text : List Char) : Except Problem Unit :=
  let parts := text.splitOn ','
  if parts.length ≠ 3 ∨ !text.all (fun c => c == ',' || (digitValue? c).isSome) then
    .error .unknown
  else do
    let shares ← parts.mapM share
    if shares.all (· ≤ largestShare) then .ok () else .error .unknown

/-- A colour by its name, by six hexadecimal digits, by its number or by its shares. -/
def readColour (word : String) : Except Problem String := do
  let text := lower word.toList
  let name := String.ofList text
  if name = "default" || colourNames.contains name then return name
  match text with
  | '#' :: digits =>
    if digits.length = 6 && digits.all fun c => (hexDigit? c).isSome then return name
    else .error .unknown
  | _ =>
    match argument? "color".toList text, argument? "rgb".toList text with
    | some digits, _ => if isPaletteNumber digits then return name else .error .unknown
    | none, some shares => do
      checkShares shares
      return name
    | none, none => .error .unknown

/-- The style with more words added to it. -/
def addWords (s : TextStyle) : List String → Except Problem TextStyle
  | [] => .ok s
  | word :: rest =>
    match lowerString word, rest with
    | "on", colour :: rest => do
      let _ ← readColour colour
      addWords { s with background := some colour } rest
    | "not", name :: rest =>
      match attribute? name with
      | some known =>
        addWords { s with attributes := (known, false) :: s.attributes } rest
      | none => .error .unknown
    | "link", address :: rest => addWords { s with link := some address } rest
    | "on", [] | "not", [] | "link", [] => .error .unknown
    | name, rest =>
      match attribute? name with
      | some known => addWords { s with attributes := (known, true) :: s.attributes } rest
      | none => do
        let colour ← readColour name
        addWords { s with colour := some colour } rest

/-- A style from its words; no words and the word `none` stand for the one that asks for nothing. -/
def read (text : List Char) : Except Problem TextStyle :=
  match (words text).map String.ofList with
  | ["none"] => .ok {}
  | found => addWords {} found

/-- The words of a style in their order. -/
def toWords (s : TextStyle) : List String :=
  (attributeNames.filterMap fun (name, _) =>
      (s.attributes.lookup name).map fun wanted => if wanted then name else "not " ++ name) ++
    s.colour.toList ++ (s.background.map ("on " ++ lowerString ·)).toList ++
    (s.link.map ("link " ++ ·)).toList

/-- A style in words. -/
def text (s : TextStyle) : String :=
  match s.toWords with
  | [] => "none"
  | found => " ".intercalate found

/-- The name that all names of a style share. What is no style keeps its own name in small letters. -/
def normalForm (name : List Char) : Except Problem String :=
  match read name with
  | .ok s => .ok s.text
  | .error .unknown => .ok (String.ofList (lower (strip name)))
  | .error .numeral => .error .numeral

end TextStyle

end ApiContract
