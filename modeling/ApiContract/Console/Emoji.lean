import ApiContract.Console.EmojiTable
import ApiContract.Text.Blank
import ApiContract.Text.Letter

/-!
# Emoji

`Emoji.replaceNames` puts emoji in the place of their names, which stand between colons. A name may end in
`-text` or `-emoji` to choose how its emoji is drawn.
-/

namespace ApiContract.Emoji

open ApiContract.Text

/-- Every name with its emoji. -/
def table : List (String × List Char) :=
  emojiNames.flatMap fun (codes, names) =>
    (words names.toList).map fun name => (String.ofList name, codes.map Char.ofNat)

/-- How an emoji is to be drawn, by the end of its name and the selector put behind it. -/
def variants : List (List Char × Char) :=
  [("-emoji".toList, '\ufe0f'), ("-text".toList, '\ufe0e')]

/-- A name without the end that chooses a variant, and the selector of that. -/
def splitVariant (name : List Char) : List Char × List Char :=
  match variants.find? fun v => v.1.isSuffixOf name with
  | some (ending, selector) => (name.take (name.length - ending.length), [selector])
  | none => (name, [])

/-- The emoji of a name, in any case. -/
def named? (name : List Char) : Option (List Char) :=
  let (name, selector) := splitVariant name
  (table.lookup (String.ofList (lower name))).map (· ++ selector)

/-- The name between the colon in front of a text and the next one, and what follows that. -/
def name? (text : List Char) : Option (List Char × List Char) :=
  let name := text.takeWhile fun c => c != ':' && !isBlank c
  match text.drop name.length with
  | ':' :: rest => some (name, rest)
  | _ => none

/-- `replaceNames` with fuel for each character. An unknown name stays, and so do its two colons. -/
def replaceWithin : (fuel : Nat) → List Char → List Char
  | 0, _ => []
  | _, [] => []
  | fuel + 1, ':' :: rest =>
    match name? rest with
    | none => ':' :: replaceWithin fuel rest
    | some (name, after) =>
      (named? name).getD (':' :: name ++ [':']) ++ replaceWithin fuel after
  | fuel + 1, c :: rest => c :: replaceWithin fuel rest

def replaceNames (text : List Char) : List Char := replaceWithin (text.length + 1) text

end ApiContract.Emoji
