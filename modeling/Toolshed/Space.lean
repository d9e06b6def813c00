import Toolshed.Text.Case
import Toolshed.Text.Blank

/-!
# Spaces

Items are kept in three spaces.  A space of higher rank may depend on those of lower or equal
rank; only the two upper ones are written to.
-/

namespace Toolshed

/-- A storage space. -/
inductive Space where
  | project
  | user
  | system
deriving DecidableEq, Inhabited

namespace Space

/-- All spaces, the one that takes precedence first. -/
def all : List Space := [.project, .user, .system]

theorem mem_all (space : Space) :
  space ∈ all
  := by
  cases space with
  | project => decide
  | user => decide
  | system => decide

/-- The rank of a space. -/
def rank : Space → Nat
  | .project => 2
  | .user => 1
  | .system => 0

/-- The name of a space. -/
def name : Space → String
  | .project => "project"
  | .user => "user"
  | .system => "system"

/-- The space may be written to. -/
def isWritable : Space → Bool
  | .system => false
  | _ => true

/-- The space with a given name. -/
def ofName? (s : String) : Option Space :=
  all.find? fun space => space.name = s

/-- The space that a text names, in any letter case and with blanks around it; otherwise the name
that was looked for. -/
def ofText (text : String) : Except String Space :=
  let wanted := Text.lower (Text.trim text)
  match ofName? wanted with
  | some space => .ok space
  | none => .error wanted

end Space

end Toolshed
