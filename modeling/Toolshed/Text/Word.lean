import Toolshed.Text.Blank
import Toolshed.Text.WordTable
import Toolshed.Text.IdentifierTable

/-!
# Words and identifiers

A word is a maximal run of word characters.
-/

namespace Toolshed.Text

/-- The word characters; those of the ASCII range are decided without the table. -/
def isWordChar (c : Char) : Bool :=
  if c.toNat < 128 then c.isAlphanum || c == '_' else wordTable.holds c

/-- The words of a text, in order. -/
def wordsIn (cs : List Char) : List (List Char) :=
  runs isWordChar cs

/-- The tokens of a text: its fields, followed by the words inside them. -/
def tokens (cs : List Char) : List (List Char) :=
  fields cs ++ wordsIn cs

/-- The characters that may start an identifier. -/
def isIdentifierStart (c : Char) : Bool :=
  if c.toNat < 128 then c.isAlpha || c == '_' else identifierStartTable.holds c

/-- The characters that may continue an identifier. -/
def isIdentifierChar (c : Char) : Bool :=
  if c.toNat < 128 then c.isAlphanum || c == '_' else identifierContinueTable.holds c

end Toolshed.Text
