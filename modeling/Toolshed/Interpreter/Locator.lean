import Toolshed.Host
import Toolshed.Interpreter

/-!
# Locating interpreters

An interpreter is looked for in the project, among the scripts of its space, in the user space and
along a search path.  Version managers keep the versions that they installed below a root.
-/

namespace Toolshed

/-- Where interpreters are looked for; without a search path, the one of the process counts. -/
structure Locator where
  project : Option String
  user : String
  searchPath : Option String
deriving DecidableEq, Inhabited

/-- How a version manager keeps what it installed. -/
structure InstallLayout where
  /-- The variable that names its root. -/
  rootVariable : String
  /-- The directory below the home directory that is its root otherwise. -/
  homeDirectory : String
  /-- The names that lead from the root to the versions. -/
  versions : List String
deriving DecidableEq, Inhabited

namespace Locator

/-- The file that may be executed under a name, in the first directory of the search path that has
one. -/
def which? (l : Locator) (host : Host) (binary : String) : Option String := do
  let path ← l.searchPath.or (Assoc.get? "PATH" host.environment)
  let places := (Text.cutAll ':' path.toList).map fun directory =>
    Path.join (String.ofList directory) binary
  places.find? host.files.isExecutable

/-- The path of a tail at a place that has a directory. -/
def placed? (l : Locator) (tail place : String) : Option String :=
  if place = "project" then l.project.map fun project => Path.join project tail
  else if place = "rye" then
    l.project.map fun project => Path.joinAll project [".ai", "scripts", tail]
  else if place = "user" then some (Path.join l.user tail)
  else none

/-- The first file at the given places; the system stands for the search path, where a few names
are looked for. -/
def search? (l : Locator) (host : Host) (tail : String) (binaries : List String) :
    List String → Option String
  | [] => none
  | place :: places =>
    let found :=
      if place = "system" then binaries.findSome? (l.which? host)
      else (l.placed? tail place).filter host.files.isFile
    found.or (search? l host tail binaries places)

/-- The root of a version manager: the given one, that of its variable, or its directory in the
home directory. -/
def managerRoot (host : Host) (layout : InstallLayout) (root : Option String) : String :=
  let setting := fun name => (Assoc.get? name host.environment).filter (· ≠ "")
  (root.or (setting layout.rootVariable)).getD
    (Path.join ((setting "HOME").getD "") layout.homeDirectory)

/-- A binary of an installed version, or else along the search path. -/
def installed? (l : Locator) (host : Host) (versions : List String) (version : Option String)
    (binary : String) : Option String :=
  let install := version.map fun version =>
    match versions with
    | root :: names => Path.joinAll root (names ++ [version, "bin", binary])
    | [] => binary
  (install.filter host.files.isFile).or (l.which? host binary)

/-- The binary of a version manager.  One without a known layout must be given its root and the
name of the binary. -/
def managed? (l : Locator) (host : Host) (manager version plugin root binary : Option String) :
    Option String := do
  let manager ← manager
  let known (layout : InstallLayout) (binary : String) :=
    l.installed? host (managerRoot host layout root :: layout.versions) version binary
  if manager = "rbenv" then
    known ⟨"RBENV_ROOT", ".rbenv", ["versions"]⟩ (binary.getD "ruby")
  else if manager = "nvm" then
    known ⟨"NVM_DIR", ".nvm", ["versions", "node"]⟩ (binary.getD "node")
  else if manager = "asdf" then
    let plugin ← plugin
    known ⟨"ASDF_DATA_DIR", ".asdf", ["installs", plugin]⟩ (binary.getD plugin)
  else
    let root ← root
    let binary ← binary
    l.installed? host [root, "versions"] version binary

/-- The interpreter that a strategy finds. -/
def locate? (l : Locator) (host : Host) : Strategy → Option String
  | .pythonEnvironment places => l.search? host ".venv/bin/python" ["python3", "python"] places
  | .nodeModules places => l.search? host "node_modules/.bin/node" ["node"] places
  | .binary name => name.bind (l.which? host)
  | .versionManager manager version plugin root binary =>
    l.managed? host manager version plugin root binary

/-- The interpreter of a specification: the one found, or what stands in for it. -/
def resolve? (l : Locator) (host : Host) (spec : InterpreterSpec) : Option String :=
  (spec.strategy.bind (l.locate? host)).or spec.fallback

end Locator

end Toolshed
