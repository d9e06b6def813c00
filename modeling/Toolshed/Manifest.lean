import Toolshed.Format

/-!
# Manifests

What a tool declares about itself.  The contract with its neighbours in a chain may stand among
the fields of the tool or inside its configuration.
-/

namespace Toolshed

open Json

/-- What a tool declares. -/
structure Manifest where
  version : Option String
  toolType : Option String
  executor : Option String
  category : Option String
  description : Option String
  config : Fields
  envConfig : Option Fields
  configSchema : Option Value
  inputs : Option (List String)
  outputs : Option (List String)
  childConstraints : Option Fields
  fields : Fields
deriving Inhabited

/-- The text of a scalar field. -/
def textOf? (fields : Fields) (name : String) : Option String :=
  (Assoc.get? name fields).bind Value.scalar?

/-- The members of an object field. -/
def objectOf? (fields : Fields) (name : String) : Option Fields :=
  (Assoc.get? name fields).bind Value.object?

/-- The manifest of the fields that a tool declares; a blank executor is none. -/
def Manifest.ofFields (fields : Fields) : Manifest :=
  let config := (objectOf? fields "config").getD []
  let contract := fun name => (Assoc.get? name fields).or (Assoc.get? name config)
  ⟨textOf? fields "version", textOf? fields "tool_type",
    (textOf? fields "executor_id").filter (fun id => Text.trim id ≠ ""),
    textOf? fields "category", textOf? fields "description", config,
    objectOf? fields "env_config",
    (Assoc.get? "config_schema" fields).filter (fun v => !v.isNull),
    (contract "inputs").bind Value.strings?, (contract "outputs").bind Value.strings?,
    (contract "child_constraints").bind Value.object?, fields⟩

end Toolshed
