/-!
# Occurrences

`occursIn` tells whether one text stands within another.
-/

namespace ApiContract.Text

def occursIn (part : List Char) : List Char → Bool
  | [] => part.isEmpty
  | c :: rest => part.isPrefixOf (c :: rest) || occursIn part rest

end ApiContract.Text
