import Toolshed.Space
import Toolshed.Item
import Toolshed.Manifest
import Toolshed.Json.Record

/-!
# Chains

A tool runs through its executor, which may have an executor in turn.  The links of a chain start
with the tool and end with what runs it all.
-/

namespace Toolshed.Chain

open Json

/-- What the legality of a chain depends on in one of its links. -/
structure Link where
  item : String
  space : Space
  role : Option Role
  executor : Option String
  version : Option String
  inputs : Option (List String)
  outputs : Option (List String)
  childConstraints : Option Fields
deriving Inhabited

/-- The fields of a link, in order. -/
def Link.fieldNames : List String :=
  ["item_id", "space", "tool_type", "executor_id", "version", "inputs", "outputs",
    "child_constraints"]

/-- The link that a value describes.  A version may be a number, and a declared type that names no
role is that of an ordinary tool. -/
def Link.ofJson? (v : Value) : Option Link := do
  let fields ← recordFields? Link.fieldNames v
  pure {
    item := ← field? fields "item_id" "" Value.string?
    space := ← field? fields "space" .project (named? Space.ofName?)
    role := ((Assoc.get? "tool_type" fields).bind Value.scalar?).map fun declared =>
      Role.ofDeclared (some declared) false
    executor := ← field? fields "executor_id" none (nullable? Value.string?)
    version := (Assoc.get? "version" fields).bind Value.scalar?
    inputs := ← field? fields "inputs" none (nullable? Value.texts?)
    outputs := ← field? fields "outputs" none (nullable? Value.texts?)
    childConstraints := ← field? fields "child_constraints" none (nullable? Value.object?) }

/-- The links that a value describes. -/
def linksOfJson? : Value → Option (List Link)
  | .array items => items.mapM Link.ofJson?
  | _ => none

/-- One resolved link of a chain. -/
structure Element where
  item : String
  space : Space
  role : Role
  executor : Option String
  version : Option String
  path : String
  config : Fields
  envConfig : Option Fields
  configSchema : Option Value
  inputs : Option (List String)
  outputs : Option (List String)
  childConstraints : Option Fields
deriving Inhabited

/-- Nothing runs the element, so it ends a chain. -/
def Element.isTerminal (e : Element) : Bool :=
  e.executor.isNone

/-- What the legality of a chain depends on in an element. -/
def Element.link (e : Element) : Link :=
  ⟨e.item, e.space, some e.role, e.executor, e.version, e.inputs, e.outputs, e.childConstraints⟩

/-- The element of a tool that was found somewhere. -/
def Element.ofManifest (item : String) (space : Space) (path : String) (m : Manifest) : Element :=
  ⟨item, space, Role.ofDeclared m.toolType m.executor.isSome, m.executor, m.version, path, m.config,
    m.envConfig, m.configSchema, m.inputs, m.outputs, m.childConstraints⟩

end Toolshed.Chain
