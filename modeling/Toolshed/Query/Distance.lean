/-!
# Edit distance

The distance of two texts is the least number of insertions, deletions and substitutions of
single characters that turn one into the other.  It is computed row by row: the row of a
beginning of the longer text holds its distances from all beginnings of the shorter one.
-/

namespace Toolshed.Query

/-- The entries of the next row after its first one, for the character `c` of the longer text.
The arguments are the rest of the shorter text, the previous row from the entry before it on,
and the entry just computed. -/
def nextEntries (c : Char) : List Char → List Nat → Nat → List Nat
  | s :: shorter, diagonal :: above :: previous, left =>
    let substituted := diagonal + if c = s then 0 else 1
    let entry := min (min substituted (above + 1)) (left + 1)
    entry :: nextEntries c shorter (above :: previous) entry
  | _, _, _ => []

/-- The row after one more character of the longer text. -/
def nextRow (shorter : List Char) (previous : List Nat) (c : Char) : List Nat :=
  let first := previous.headD 0 + 1
  first :: nextEntries c shorter previous first

/-- The last row of the table of a longer and a shorter text. -/
def lastRow (longer shorter : List Char) : List Nat :=
  longer.foldl (nextRow shorter) (List.range (shorter.length + 1))

/-- The edit distance of two texts. -/
def distance (a b : List Char) : Nat :=
  let (longer, shorter) := if b.length ≤ a.length then (a, b) else (b, a)
  (lastRow longer shorter).getLastD 0

end Toolshed.Query
