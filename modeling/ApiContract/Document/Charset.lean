import ApiContract.Text.Letter
import ApiContract.Text.Blank
import ApiContract.Text.Ranges

/-!
# Character sets

A `Charset` says what the bytes of a reply stand for. `Charset.ofContentType` finds the one that a type of
content names, and `Charset.decode` reads bytes in it.
-/

namespace ApiContract

open ApiContract.Text

inductive Charset where
  | utf8
  /-- The same with a mark in front that is left out. -/
  | markedUtf8
  | ascii
  | latin1
  | windows1252
  deriving DecidableEq, Repr

namespace Charset

/-- The names of character sets, in small letters and with an underscore for each separator. -/
def names : List (Charset × List String) :=
  [(.utf8, ["utf_8", "utf8", "utf", "u8", "utf8_ucs2", "utf8_ucs4", "cp65001"]),
    (.markedUtf8, ["utf_8_sig", "utf8_sig"]),
    (.ascii, ["ascii", "us_ascii", "646", "ansi_x3.4_1968", "ansi_x3_4_1968", "ansi_x3.4_1986",
      "cp367", "csascii", "ibm367", "iso646_us", "iso_646.irv_1991", "iso_ir_6", "us"]),
    (.latin1, ["latin_1", "latin1", "latin", "l1", "8859", "cp819", "csisolatin1", "ibm819",
      "iso8859", "iso8859_1", "iso_8859_1", "iso_8859_1_1987", "iso_ir_100"]),
    (.windows1252, ["cp1252", "windows_1252", "1252"])]

/-- A name with an underscore in place of each run of separators. -/
def normalName (name : List Char) : List Char :=
  let isPart (c : Char) : Bool := c.isAlphanum || c == '.'
  let parts := (name.splitOnP (!isPart ·)).filter (!·.isEmpty)
  ['_'].intercalate parts

def named? (name : List Char) : Option Charset :=
  let name := String.ofList (normalName (lower name))
  (names.find? fun e => e.2.contains name).map (·.1)

/-- The text between quotes, if there are any. -/
def unquote (text : List Char) : List Char :=
  match text, text.getLast? with
  | '"' :: rest@(_ :: _), some '"' => rest.dropLast
  | _, _ => text

/-- The value of a parameter of a type of content. -/
def parameter? (name : String) (type : String) : Option (List Char) :=
  (type.toList.splitOn ';').findSome? fun part =>
    let key := part.takeWhile (· != '=')
    match part.drop key.length with
    | _ :: value => if lower (strip key) == name.toList then some (unquote (strip value)) else none
    | [] => none

/-- The character set of a type of content; it is UTF-8 if none is named that is known. -/
def ofContentType (type : String) : Charset :=
  ((parameter? "charset" type).bind named?).getD .utf8

/-- The characters of the bytes from `0x80` to `0x9f` in Windows-1252. -/
def windowsSigns : List Nat :=
  [0x20ac, 0xfffd, 0x201a, 0x0192, 0x201e, 0x2026, 0x2020, 0x2021, 0x02c6, 0x2030, 0x0160, 0x2039,
    0x0152, 0xfffd, 0x017d, 0xfffd, 0xfffd, 0x2018, 0x2019, 0x201c, 0x201d, 0x2022, 0x2013, 0x2014,
    0x02dc, 0x2122, 0x0161, 0x203a, 0x0153, 0xfffd, 0x017e, 0x0178]

/-- The character that a byte stands for in a set of one byte for each character. -/
def charOf (byte : Nat) : Charset → Char
  | .windows1252 =>
    if 0x80 ≤ byte ∧ byte < 0xa0 then Char.ofNat ((windowsSigns[byte - 0x80]?).getD 0xfffd)
    else Char.ofNat byte
  | .ascii => if byte < 0x80 then Char.ofNat byte else '\ufffd'
  | _ => Char.ofNat byte

/-- What the bytes of a text in UTF-8 stand for. -/
def decode (set : Charset) (body : String) : String :=
  match set with
  | .utf8 => body
  | .markedUtf8 => if body.toList.head? == some '\ufeff' then String.ofList (body.toList.drop 1) else body
  | set => String.ofList (body.toUTF8.toList.map fun b => set.charOf b.toNat)

end Charset

end ApiContract
