import Toolshed.Manifest

/-!
# Interpreters

A runtime may say how its interpreter is found, the variable that names it, and what stands in for
it when it is not found.
-/

namespace Toolshed

open Json

/-- The ways to find an interpreter. -/
inductive Strategy where
  | pythonEnvironment (places : List String)
  | nodeModules (places : List String)
  | binary (name : Option String)
  | versionManager (manager version plugin root binary : Option String)
deriving DecidableEq, Inhabited

/-- How an interpreter is found. -/
structure InterpreterSpec where
  variableName : String
  fallback : Option String
  strategy : Option Strategy
deriving DecidableEq, Inhabited

namespace InterpreterSpec

/-- The variable that names an interpreter without a variable of its own. -/
def defaultVariable : String := "INTERPRETER"

/-- The places that are searched when none are given. -/
def defaultPlaces : List String := ["project", "rye", "user", "system"]

/-- The text of a scalar field that is not empty. -/
def setting? (fields : Fields) (name : String) : Option String :=
  (textOf? fields name).filter (· ≠ "")

/-- How the interpreter that the fields describe is found. -/
def ofFields (fields : Fields) : InterpreterSpec :=
  let places := ((Assoc.get? "search" fields).bind Value.strings?).getD defaultPlaces
  let setting := setting? fields
  let strategy := match setting "type" with
    | some "venv_python" => some (.pythonEnvironment places)
    | some "node_modules" => some (.nodeModules places)
    | some "system_binary" => some (.binary (setting "binary"))
    | some "version_manager" =>
      some (.versionManager (setting "manager") (setting "version") (setting "plugin")
        (setting "root") (setting "binary"))
    | _ => none
  ⟨(setting "var").getD defaultVariable, setting "fallback", strategy⟩

end InterpreterSpec

end Toolshed
