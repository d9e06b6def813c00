import Toolshed.Cache
import Toolshed.Failure
import Toolshed.Path

/-!
# File trees

The files that a program sees: directories of files, directories and symbolic links.  A path is
followed step by step, links included, to the place it leads to.  It starts at the root; relative
paths find nothing, except as targets of links.  Names are Unicode text.  The entries of a directory
are kept in the order of their names.
-/

namespace Toolshed

/-- A file with what it holds and when it was last changed, a symbolic link, or a directory. -/
inductive FileTree where
  | file (content : ByteArray) (modified : Int) (isExecutable : Bool)
  | link (target : String)
  | directory (entries : List (String × FileTree))
deriving Inhabited

namespace FileTree

/-- The tree without any file. -/
def empty : FileTree :=
  .directory []

/-- The node of a name among the entries of a directory. -/
def child? (name : String) (entries : List (String × FileTree)) : Option FileTree :=
  Assoc.get? name entries

/-- The node at a location, given by the names that lead to it. -/
def at? : List String → FileTree → Option FileTree
  | [], tree => some tree
  | name :: rest, .directory entries => (child? name entries).bind (at? rest)
  | _ :: _, _ => none

/-- The entries with a new one in its place, or with another node of its name. -/
def putEntry (name : String) (node : FileTree) :
    List (String × FileTree) → List (String × FileTree)
  | [] => [(name, node)]
  | (other, t) :: rest =>
    if other = name then (name, node) :: rest
    else if name < other then (name, node) :: (other, t) :: rest
    else (other, t) :: putEntry name node rest

/-- A tree with the entries of the directory at a location changed. -/
def changeAt (change : List (String × FileTree) → List (String × FileTree)) :
    List String → FileTree → FileTree
  | [], .directory entries => .directory (change entries)
  | name :: rest, .directory entries =>
    .directory (entries.map fun (other, t) =>
      if other = name then (other, changeAt change rest t) else (other, t))
  | _, tree => tree

/-! ### Following paths -/

/-- Where a path leads: to a node, or to a name that is free in a directory. -/
inductive Place where
  | taken (location : List String)
  | free (directory : List String) (name : String)
deriving DecidableEq, Inhabited

/-- The steps of a path; a slash at its end asks for a directory, as a single point does. -/
def steps (path : String) : List String :=
  let parts := Path.parts path
  parts.filter (· ≠ "") ++ (if 1 < parts.length && parts.getLast? = some "" then ["."] else [])

/-- The greatest number of bytes of a name. -/
def maxNameLength : Nat := 255

/-- The greatest number of bytes of a path. -/
def maxPathLength : Nat := 4095

/-- The greatest number of links that are followed on one path. -/
def maxLinks : Nat := 40

/-- The place to which steps lead from a location, given how a link is followed: from a location on
by the steps of its target and those after it.  The last step may be a link that is not followed. -/
def walk (tree : FileTree) (followLast : Bool)
    (follow : List String → List String → Except FileFault Place) (here : List String) :
    List String → Except FileFault Place
  | [] => .ok (.taken here)
  | step :: rest =>
    match tree.at? here with
    | some (.directory entries) =>
      if step = "." then walk tree followLast follow here rest
      else if step = ".." then walk tree followLast follow here.dropLast rest
      else if maxNameLength < step.utf8ByteSize then .error .nameTooLong
      else match child? step entries with
        | none => if rest.isEmpty then .ok (.free here step) else .error .notFound
        | some (.link target) =>
          if rest.isEmpty && !followLast then .ok (.taken (here ++ [step]))
          else follow (if Path.isAbsolute target then [] else here) (steps target ++ rest)
        | some _ => walk tree followLast follow (here ++ [step]) rest
    | _ => .error .notDirectory

/-- The place to which steps lead from a location, with a bound on the links that are followed. -/
def locateFrom (tree : FileTree) (followLast : Bool) :
    Nat → List String → List String → Except FileFault Place
  | 0 => walk tree followLast fun _ _ => .error .tooManyLinks
  | links + 1 => walk tree followLast (locateFrom tree followLast links)

/-- The place to which an absolute path leads.  A relative path leads nowhere, as there is no
working directory. -/
def locate (tree : FileTree) (followLast : Bool) (path : String) : Except FileFault Place :=
  if '\x00' ∈ path.toList then .error .nulInPath
  else if maxPathLength < path.utf8ByteSize then .error .nameTooLong
  else if !Path.isAbsolute path then .error .notFound
  else locateFrom tree followLast maxLinks [] (steps path)

/-- The location of the node to which a path leads. -/
def location (tree : FileTree) (path : String) : Except FileFault (List String) := do
  match ← tree.locate true path with
  | .taken location => pure location
  | .free _ _ => .error .notFound

/-- The node to which a path leads. -/
def find (tree : FileTree) (path : String) : Except FileFault FileTree := do
  let location ← tree.location path
  match tree.at? location with
  | some node => pure node
  | none => .error .notFound

/-! ### Reading -/

/-- The path leads to a file. -/
def isFile (tree : FileTree) (path : String) : Bool :=
  match tree.find path with
  | .ok (.file _ _ _) => true
  | _ => false

/-- The path leads to a directory. -/
def isDirectory (tree : FileTree) (path : String) : Bool :=
  match tree.find path with
  | .ok (.directory _) => true
  | _ => false

/-- The path leads to a file that may be executed. -/
def isExecutable (tree : FileTree) (path : String) : Bool :=
  match tree.find path with
  | .ok (.file _ _ isExecutable) => isExecutable
  | _ => false

/-- The fingerprint of a node; those of directories are alike. -/
def fingerprintOf : FileTree → Fingerprint
  | .file content modified _ => ⟨modified, content.size⟩
  | .link target => ⟨0, target.utf8ByteSize⟩
  | .directory _ => ⟨0, 0⟩

/-- The fingerprint of what a path leads to. -/
def fingerprint? (tree : FileTree) (path : String) : Option Fingerprint :=
  (tree.find path).toOption.map fingerprintOf

/-- The text of the file to which a path leads. -/
def read (tree : FileTree) (path : String) : Except FileFault String := do
  match ← tree.find path with
  | .file content _ _ =>
    match String.fromUTF8? content with
    | some text => pure text
    | none => .error .notUtf8
  | _ => .error .isDirectory

/-- The names in the directory to which a path leads, in order. -/
def names (tree : FileTree) (path : String) : Except FileFault (List String) := do
  match ← tree.find path with
  | .directory entries => pure (entries.map Prod.fst)
  | _ => .error .notDirectory

/-! ### Writing -/

/-- The tree with a node at a location. -/
def put (tree : FileTree) (location : List String) (node : FileTree) : FileTree :=
  match location.getLast? with
  | some name => tree.changeAt (putEntry name node) location.dropLast
  | none => node

/-- The tree without the node at a location. -/
def drop (tree : FileTree) (location : List String) : FileTree :=
  match location.getLast? with
  | some name =>
    tree.changeAt (fun entries => entries.filter fun (other, _) => other ≠ name) location.dropLast
  | none => tree

/-- The tree with new content in the file to which a path leads; a file that exists keeps its
permissions, and may gain the one to be executed. -/
def write (tree : FileTree) (path : String) (content : ByteArray) (modified : Int)
    (makeExecutable : Bool) : Except FileFault FileTree := do
  match ← tree.locate true path with
  | .free parent name => pure (tree.put (parent ++ [name])
      (.file content modified makeExecutable))
  | .taken location =>
    match tree.at? location with
    | some (.file _ _ isExecutable) =>
      pure (tree.put location (.file content modified (isExecutable || makeExecutable)))
    | _ => .error .isDirectory

/-- The tree with another time of change for the file to which a path leads. -/
def touch (tree : FileTree) (path : String) (modified : Int) : Except FileFault FileTree := do
  let location ← tree.location path
  match tree.at? location with
  | some (.file content _ isExecutable) =>
    pure (tree.put location (.file content modified isExecutable))
  | _ => pure tree

/-- The tree with one more directory. -/
def makeDirectory (tree : FileTree) (path : String) : Except FileFault FileTree := do
  match ← tree.locate false path with
  | .free parent name => pure (tree.put (parent ++ [name]) empty)
  | .taken _ => .error .exists

/-- The path of the first steps of a path. -/
def pathOf (steps : List String) : String :=
  "/" ++ "/".intercalate steps

/-- The tree with a directory and those above it, which are made as far as they are missing.  The
names are given from the last one to the first. -/
def makeDirectoriesOf (tree : FileTree) : List String → Except FileFault FileTree
  | [] => .ok tree
  | name :: outer =>
    let path := pathOf (name :: outer).reverse
    match tree.makeDirectory path with
    | .ok tree => .ok tree
    | .error .notFound => do
      let tree ← makeDirectoriesOf tree outer
      match tree.makeDirectory path with
      | .ok tree => pure tree
      | .error fault => if tree.isDirectory path then pure tree else .error fault
    | .error fault => if tree.isDirectory path then .ok tree else .error fault

/-- The tree with the directory of a path and those above it. -/
def makeDirectories (tree : FileTree) (path : String) : Except FileFault FileTree :=
  tree.makeDirectoriesOf (Path.names path).reverse

/-- The tree with a link at a path. -/
def makeLink (tree : FileTree) (path target : String) : Except FileFault FileTree := do
  match ← tree.locate false path with
  | .free parent name => pure (tree.put (parent ++ [name]) (.link target))
  | .taken _ => .error .exists

/-- The tree without the file or the link at a path. -/
def removeFile (tree : FileTree) (path : String) : Except FileFault FileTree := do
  match ← tree.locate false path with
  | .free _ _ => .error .notFound
  | .taken location =>
    match tree.at? location with
    | some (.directory _) => .error .isDirectory
    | _ => pure (tree.drop location)

/-- The tree without the directory or the link at a path. -/
def removeDirectory (tree : FileTree) (path : String) : Except FileFault FileTree := do
  match ← tree.locate false path with
  | .free _ _ => .error .notFound
  | .taken location =>
    match tree.at? location with
    | some (.file _ _ _) => .error .notDirectory
    | _ => pure (tree.drop location)

end FileTree

end Toolshed
