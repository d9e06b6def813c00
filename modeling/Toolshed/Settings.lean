import Toolshed.Space
import Toolshed.Item
import Toolshed.Path
import Toolshed.Environment.Expansion
import Toolshed.Text.Case

/-!
# Settings

The roots of the three spaces and the bounds of the caches, given or read from an environment.
-/

namespace Toolshed

/-- Where the spaces are, and the bounds of the caches. -/
structure Settings where
  project : Option String
  user : String
  system : String
  /-- The time for which a cache entry stays fresh. -/
  lifetime : Nat
  capacity : Nat
deriving DecidableEq, Inhabited

namespace Settings

/-- The directory of the project space below the project. -/
def projectDirectory : String := ".ai"

/-- A second; times are counted in millionths of it. -/
def second : Nat := 1000000

/-- The default number of seconds for which a cache entry stays fresh. -/
def defaultSeconds : Nat := 300

/-- The default capacity of a cache. -/
def defaultCapacity : Nat := 1000

/-- The value of a variable, if it is not empty. -/
def nonEmpty? (env : Environment) (name : String) : Option String :=
  (Assoc.get? name env).filter (· ≠ "")

/-- The number of at most 64 bits that a text writes in decimal, blanks around it left aside. -/
def number? (s : String) : Option Nat :=
  let text := Text.trimBoth s.toList
  let digits := match text with
    | '+' :: rest => rest
    | _ => text
  if digits.isEmpty || !digits.all Char.isDigit then none
  else
    let n := digits.foldl (fun n c => 10 * n + (c.toNat - 48)) 0
    if n < Nat.pow 2 64 then some n else none

/-- The settings that an environment gives for a project. -/
def ofEnvironment (env : Environment) (project : Option String) : Settings :=
  let user := ((nonEmpty? env "USER_SPACE").or
    ((nonEmpty? env "HOME").map fun home => Path.join home projectDirectory)).getD projectDirectory
  let system := (nonEmpty? env "RYE_SYSTEM_SPACE").getD
    (Path.join (project.getD ".") ".ai-system")
  let number := fun name => (Assoc.get? name env).bind number?
  ⟨project, user, system, (number "RYE_CACHE_TTL").getD defaultSeconds * second,
    max 1 ((number "RYE_CACHE_MAX_ENTRIES").getD defaultCapacity)⟩

/-- The root of a space; without a project, the project space has none. -/
def root? (c : Settings) : Space → Option String
  | .project => c.project.map fun project => Path.join project projectDirectory
  | .user => some c.user
  | .system => some c.system

/-- The directory of a space for the items of a kind. -/
def typeDirectory? (c : Settings) (kind : ItemKind) (space : Space) : Option String :=
  (c.root? space).map fun root => Path.join root kind.directory

/-- The value of a switch in an environment: off only for a few texts, in any letter case. -/
def switch (env : Environment) (name : String) (default : Bool) : Bool :=
  match Assoc.get? name env with
  | some value => Text.lower (Text.trim value) ∉ ["0", "false", "no", "off"]
  | none => default

end Settings

end Toolshed
