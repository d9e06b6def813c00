import Toolshed.Files.Tree
import Toolshed.Manifest

/-!
# Manifests in files

The manifest of a tool is read from the file of the tool, whose name tells the format.
-/

namespace Toolshed

/-- The manifest in a file. -/
def Manifest.ofFile (files : FileTree) (path : String) : Except Failure Manifest := do
  match Format.ofToolPath? path with
  | none => .error (.input (.unsupportedFile path))
  | some format =>
    let text ← (files.read path).mapError .file
    let fields ← format.fields text.toList
    pure (Manifest.ofFields fields)

end Toolshed
