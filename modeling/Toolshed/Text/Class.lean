/-!
# Classes of characters

A class of characters is given by a table of ranges of code points.
-/

namespace Toolshed.Text

/-- A list of closed ranges of code points. -/
abbrev ClassTable := List (Nat × Nat)

/-- A character belongs to a table when its code point lies in one of the ranges. -/
def ClassTable.holds (table : ClassTable) (c : Char) : Bool :=
  table.any fun (first, last) => first ≤ c.toNat && c.toNat ≤ last

end Toolshed.Text
