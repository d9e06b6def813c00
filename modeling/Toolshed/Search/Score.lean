import Toolshed.Decimal.Binary64

/-!
# Scores

The score of an item is the share of the weight of its fields that a search matches.
-/

namespace Toolshed.Search

/-- A matched weight out of an available one, in half points. -/
structure Score where
  matched : Nat
  available : Nat
deriving DecidableEq, Inhabited

namespace Score

/-- The score of an item before it is searched. -/
def none : Score := ⟨0, 0⟩

/-- The score of every item when nothing is asked for. -/
def full : Score := ⟨1, 1⟩

/-- The score with one more field of a weight. -/
def add (score : Score) (weight : Nat) (isMatch : Bool) : Score :=
  ⟨score.matched + (if isMatch then weight else 0), score.available + weight⟩

/-- A score is at most another one. -/
def le (score other : Score) : Bool :=
  score.matched * other.available ≤ other.matched * score.available

/-- The number that is reported for a score. -/
def value (score : Score) : Binary64 :=
  .ofRatio false score.matched (max score.available 1)

end Score

/-- The fields that a query is scored against, with their weights in half points. -/
def fieldWeights : List (String × Nat) :=
  [("title", 6), ("name", 6), ("description", 4), ("category", 3), ("content", 2)]

/-- The weight of a field without a weight of its own. -/
def defaultWeight : Nat := 2

/-- The weight of a named field. -/
def weightOf (field : String) : Nat :=
  match fieldWeights.find? fun (name, _) => name = field with
  | some (_, weight) => weight
  | none => defaultWeight

end Toolshed.Search
