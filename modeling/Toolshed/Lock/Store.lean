import Toolshed.Settings
import Toolshed.Files.Tree
import Toolshed.Lock.File

/-!
# Stores of lockfiles

Every space has a directory of lockfiles.  They are read from the space that takes precedence, and
written and deleted only in the spaces that may be written to.
-/

namespace Toolshed.Lock

/-- Where lockfiles are kept, and the space into which new ones are written. -/
structure Store where
  settings : Settings
  scope : Space
deriving DecidableEq, Inhabited

/-- A lockfile that was found. -/
structure Entry where
  pin : Pin
  space : Space
  path : String
deriving DecidableEq, Inhabited

namespace Store

/-- The name of a directory of lockfiles. -/
def directoryName : String := "lockfiles"

/-- The directory of a space; without a project, the project space has none. -/
def directory? (s : Store) (space : Space) : Option String :=
  (s.settings.root? space).map fun root => Path.join root directoryName

/-- The directories with their spaces, the one that takes precedence first. -/
def directories (s : Store) : List (String × Space) :=
  Space.all.filterMap fun space => (s.directory? space).map fun path => (path, space)

/-- The paths that the lockfile of a pin may have, with their spaces. -/
def places (s : Store) (pin : Pin) : List (String × Space) :=
  s.directories.map fun (directory, space) => (Path.join directory pin.fileName, space)

/-- The directory into which new lockfiles are written. -/
def target (s : Store) : Except Failure String :=
  if s.scope.isWritable then
    match s.directory? s.scope with
    | some directory => .ok directory
    | none => .error (.lock (.noSuchSpace s.scope.name))
  else .error (.lock (.readOnlySpace s.scope.name))

/-- A lockfile written at a time: its path, and the files then.  Directories that are missing are
made first, and they stay when the file cannot be written. -/
def save (s : Store) (files : FileTree) (modified : Int) (l : Lockfile) :
    Except Failure String × FileTree :=
  match s.target with
  | .error failure => (.error failure, files)
  | .ok directory =>
    match files.makeDirectories directory with
    | .error fault => (.error (.file fault), files)
    | .ok files =>
      let path := Path.join directory l.pin.fileName
      match files.write path l.text.toUTF8 modified false with
      | .error fault => (.error (.file fault), files)
      | .ok files => (.ok path, files)

/-- The lockfile in a file, if it can be read. -/
def read? (files : FileTree) (path : String) : Option Lockfile :=
  if files.isFile path then (files.read path).toOption.bind Lockfile.parse? else none

/-- The first lockfile of a pin that can be read. -/
def get? (s : Store) (files : FileTree) (pin : Pin) : Option Lockfile :=
  (s.places pin).findSome? fun (path, _) => read? files path

/-- A lockfile of a pin exists, readable or not. -/
def contains (s : Store) (files : FileTree) (pin : Pin) : Bool :=
  (s.places pin).any fun (path, _) => files.isFile path

/-- The entries of one directory, in the order of their names. -/
def entriesIn (files : FileTree) (directory : String) (space : Space) : List Entry :=
  match files.names directory with
  | .error _ => []
  | .ok names => names.filterMap fun name =>
      (Pin.ofFileName? name).map fun pin => ⟨pin, space, Path.join directory name⟩

/-- One more entry, unless there is one of its pin. -/
def addEntry (found : List Entry) (entry : Entry) : List Entry :=
  if found.any fun e => e.pin = entry.pin then found else found ++ [entry]

/-- All lockfiles; a pin counts once, in the space that takes precedence. -/
def list (s : Store) (files : FileTree) : List Entry :=
  (s.directories.flatMap fun (directory, space) => entriesIn files directory space).foldl
    addEntry []

/-- The files without those at some paths, and whether there was one. -/
def deleteAll (files : FileTree) (deleted : Bool) :
    List String → Except Failure Bool × FileTree
  | [] => (.ok deleted, files)
  | path :: paths =>
    if files.isFile path then
      match files.removeFile path with
      | .error fault => (.error (.file fault), files)
      | .ok files => deleteAll files true paths
    else deleteAll files deleted paths

/-- The lockfile of a pin deleted from the spaces that may be written to. -/
def delete (s : Store) (files : FileTree) (pin : Pin) : Except Failure Bool × FileTree :=
  let writable := (s.places pin).filter fun (_, space) => space.isWritable
  deleteAll files false (writable.map Prod.fst)

end Store

end Toolshed.Lock
