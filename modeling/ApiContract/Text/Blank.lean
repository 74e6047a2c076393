import ApiContract.Text.Ranges

/-!
# White space

`isSpace` is the Unicode property of white space, and `isBlank` is that property together with the four
separator controls. `trim` and `strip` drop them at both ends of a text, and `words` are what blanks
separate.
-/

namespace ApiContract.Text

/-- White space: the separators and the controls that act as such. -/
def blanks : Ranges :=
  [(0x9, 0xd), (0x1c, 0x20), (0x85, 0x85), (0xa0, 0xa0), (0x1680, 0x1680), (0x2000, 0x200a),
   (0x2028, 0x2029), (0x202f, 0x202f), (0x205f, 0x205f), (0x3000, 0x3000)]

def isBlank (c : Char) : Bool := blanks.contains c

def isSpace (c : Char) : Bool := isBlank c && !(0x1c ≤ c.toNat && c.toNat ≤ 0x1f)

/-- `items` without what `p` holds of at its two ends. -/
def dropEnds {α : Type} (p : α → Bool) (items : List α) : List α :=
  ((items.dropWhile p).reverse.dropWhile p).reverse

def strip (text : List Char) : List Char := dropEnds isBlank text

def trim (text : List Char) : List Char := dropEnds isSpace text

/-- The parts of `text` between blanks. -/
def words (text : List Char) : List (List Char) :=
  (text.splitOnP isBlank).filter (!·.isEmpty)

/-- Whether `text` holds nothing but white space. -/
def isAllBlank (text : List Char) : Bool := text.all isBlank

end ApiContract.Text
