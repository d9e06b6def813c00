import Toolshed.Text.Case
import Toolshed.Text.Word
import Toolshed.Query.Glob
import Toolshed.Query.Distance

/-!
# Queries

A query combines terms, phrases and wildcards by `and`, `or` and `not`.  Terms and phrases match a
text that contains them; a wildcard matches a text with a token that it matches; a term also
matches a text with a token within the allowed edit distance, when one is allowed.
-/

namespace Toolshed

/-- A search query. -/
inductive Query where
  | all
  | term (text : List Char)
  | phrase (text : List Char)
  | wildcard (glob : Query.Glob)
  | and (left right : Query)
  | or (left right : Query)
  | not (inner : Query)
deriving DecidableEq, Inhabited

namespace Query

/-- The query asks for nothing. -/
def isAll : Query → Bool
  | .all => true
  | _ => false

/-- The query matches a text in lowercase, terms up to a number of edits. -/
def matchesLowered (edits : Nat) (text : List Char) : Query → Bool
  | .all => true
  | .term t =>
    Text.occursIn t text ||
      0 < edits && (Text.tokens text).any fun word => distance t word ≤ edits
  | .phrase t => Text.occursIn t text
  | .wildcard g => (Text.tokens text).any g.matchesWord
  | .and l r => l.matchesLowered edits text && r.matchesLowered edits text
  | .or l r => l.matchesLowered edits text || r.matchesLowered edits text
  | .not q => !q.matchesLowered edits text

/-- The query matches a text in any letter case, terms up to a number of edits. -/
def matchesText (q : Query) (edits : Nat) (text : String) : Bool :=
  q.matchesLowered edits (Text.lowerChars text.toList)

end Query

end Toolshed
