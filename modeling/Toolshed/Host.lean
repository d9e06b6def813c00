import Toolshed.Environment.Expansion
import Toolshed.Files.Tree

/-!
# Hosts

What a machine shows at one moment: its files, the time, and the environment of the process.  It has
no working directory, so the paths of spaces and projects are absolute, and they are Unicode text.
-/

namespace Toolshed

/-- A machine at one moment. -/
structure Host where
  files : FileTree
  /-- The time, in millionths of a second. -/
  now : Nat
  environment : Environment
deriving Inhabited

end Toolshed
