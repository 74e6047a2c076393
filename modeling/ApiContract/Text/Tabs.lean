import ApiContract.Text.CellWidth

/-!
# Tabs

`expandTabs` fills up the lines of a text with spaces in place of its tabs, each of which reaches to the
next tab stop. Stops stand every eight cells.
-/

namespace ApiContract.Text

/-- The distance between two tab stops. -/
def tabWidth : Nat := 8

/-- The first tab stop behind a column. -/
def nextStop (column : Nat) : Nat := (column / tabWidth + 1) * tabWidth

/-- `expandTabs` for a text that starts at a column. -/
def expandTabsFrom (column : Nat) : List Char → List Char
  | [] => []
  | '\n' :: rest => '\n' :: expandTabsFrom 0 rest
  | '\t' :: rest =>
    List.replicate (nextStop column - column) ' ' ++ expandTabsFrom (nextStop column) rest
  | c :: rest => c :: expandTabsFrom (column + cells c) rest

def expandTabs (text : List Char) : List Char := expandTabsFrom 0 text

end ApiContract.Text
