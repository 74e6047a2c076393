/-!
# Ranges of code points

A property of characters is given by a table of inclusive code point ranges, `Ranges`, and read with
`Ranges.contains`.
-/

namespace ApiContract.Text

/-- Inclusive ranges of code points in increasing order. -/
abbrev Ranges := List (Nat × Nat)

def Ranges.contains (table : Ranges) (c : Char) : Bool :=
  table.any fun r => r.1 ≤ c.toNat && c.toNat ≤ r.2

end ApiContract.Text
