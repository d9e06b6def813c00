import Toolshed.Text.Case
import Toolshed.Text.Blank

/-!
# Items

An item is a directive, a tool or a knowledge entry, and items of each kind have a directory of
their own.  A tool plays one of three roles in a chain.
-/

namespace Toolshed

/-- The kind of an item. -/
inductive ItemKind where
  | directive
  | tool
  | knowledge
deriving DecidableEq, Inhabited

namespace ItemKind

/-- The name of a kind. -/
def name : ItemKind → String
  | .directive => "directive"
  | .tool => "tool"
  | .knowledge => "knowledge"

/-- The directory of the items of a kind. -/
def directory : ItemKind → String
  | .directive => "directives"
  | .tool => "tools"
  | .knowledge => "knowledge"

/-- The kind with a given name. -/
def ofName? (s : String) : Option ItemKind :=
  [directive, tool, knowledge].find? fun kind => kind.name = s

/-- The kind that a text names by its name or by its directory, in any letter case and with blanks
around it; otherwise the name that was looked for. -/
def ofText (text : String) : Except String ItemKind :=
  let wanted := Text.lower (Text.trim text)
  match [directive, tool, knowledge].find? fun kind =>
      kind.name = wanted || kind.directory = wanted with
  | some kind => .ok kind
  | none => .error wanted

end ItemKind

/-- The role of a tool in a chain. -/
inductive Role where
  | primitive
  | runtime
  | tool
deriving DecidableEq, Inhabited

namespace Role

/-- The name of a role. -/
def name : Role → String
  | .primitive => "primitive"
  | .runtime => "runtime"
  | .tool => "tool"

/-- The role with a given name. -/
def ofName? (s : String) : Option Role :=
  [primitive, runtime, tool].find? fun role => role.name = s

/-- The role of a tool with a declared type.  Types other than the names of roles are those of
ordinary tools; without a type, a tool that has an executor is an ordinary one and a tool that has
none is a primitive. -/
def ofDeclared (declared : Option String) (hasExecutor : Bool) : Role :=
  match declared with
  | some text =>
    let wanted := Text.lower (Text.trim text)
    if wanted = "primitive" then .primitive
    else if wanted = "runtime" then .runtime
    else .tool
  | none => if hasExecutor then .tool else .primitive

end Role

end Toolshed
