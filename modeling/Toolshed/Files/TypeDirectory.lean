import Toolshed.Settings
import Toolshed.Files.Tree

/-!
# Type directories

The items of a kind are kept in one directory of each space.  A directory that does not exist holds
no items.
-/

namespace Toolshed

/-- The directories for the items of a kind that exist, with their spaces, the one that takes
precedence first. -/
def Settings.typeDirectories (s : Settings) (files : FileTree) (kind : ItemKind) :
    List (String × Space) :=
  Space.all.filterMap fun space =>
    ((s.typeDirectory? kind space).filter files.isDirectory).map fun path => (path, space)

end Toolshed
