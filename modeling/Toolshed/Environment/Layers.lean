import Toolshed.Settings
import Toolshed.Environment.EnvFile
import Toolshed.Interpreter.Locator

/-!
# Layers of environments

The environment in which a tool runs is built in layers, the later ones taking precedence: a base,
the environment files of the user space and of the project, the variable of the interpreter, the
variables of the chain, and those of the caller.
-/

namespace Toolshed

open Json

/-- What environments are built from; without a base, that of the process counts. -/
structure EnvironmentLayers where
  locator : Locator
  base : Option Environment
deriving Inhabited

/-- The variables that an environment file sets. -/
def Environment.ofFile (host : Host) (path : String) : Except Failure Environment :=
  match host.files.read path with
  | .ok text =>
    match EnvFile.parse? host.environment text.toList with
    | some found => .ok found
    | none => .error .envFile
  | .error _ => .error .envFile

/-- An environment with one more variable, whose value is the text of a scalar expanded in it. -/
def Environment.assign (env : Environment) (name : String) (value : Value) : Environment :=
  match value.scalar? with
  | some text => Assoc.insert name (env.expandText text) env
  | none => env

/-- An environment with the variables of an object, one after another. -/
def Environment.assignAll (env : Environment) (entries : Fields) : Environment :=
  entries.foldl (fun env (name, value) => env.assign name value) env

namespace EnvironmentLayers

/-- The environment files, in the order in which they are read. -/
def filePaths (r : EnvironmentLayers) : List String :=
  Path.join r.locator.user ".env" ::
    match r.locator.project with
    | some project =>
      [Path.joinAll project [Settings.projectDirectory, ".env"], Path.join project ".env",
        Path.join project ".env.local"]
    | none => []

/-- The variables of one environment file; a file that is missing or malformed sets none. -/
def fileLayer (host : Host) (path : String) : Environment :=
  if host.files.isFile path then (Environment.ofFile host path).toOption.getD [] else []

/-- The variables that the environment files set. -/
def fileVariables (r : EnvironmentLayers) (host : Host) : Environment :=
  (r.filePaths.map (fileLayer host)).foldl (fun env layer => Assoc.insertAll layer env) []

/-- The environment with the variable of the interpreter that a configuration asks for. -/
def withInterpreter (r : EnvironmentLayers) (host : Host) (config : Fields)
    (env : Environment) : Environment :=
  match objectOf? config "interpreter" with
  | some fields =>
    let spec := InterpreterSpec.ofFields fields
    match r.locator.resolve? host spec with
    | some path => Assoc.insert spec.variableName path env
    | none => env
  | none => env

/-- The environment for a configuration and for the variables of a caller. -/
def resolve (r : EnvironmentLayers) (host : Host) (config callerVariables : Fields)
    (withFiles : Bool) : Environment :=
  let env := r.base.getD host.environment
  let env := if withFiles then Assoc.insertAll (r.fileVariables host) env else env
  let env := r.withInterpreter host config env
  let env := env.assignAll ((objectOf? config "env").getD [])
  env.assignAll callerVariables

end EnvironmentLayers

end Toolshed
