import Toolshed.Files.Tree

/-!
# Walks through directories

A walk lists the files below a directory, those of every directory in the order of their names.
It may follow links, but never into a directory that it is inside of.
-/

namespace Toolshed.FileTree

mutual

/-- The names that lead to the files below a node, links not counted. -/
def filesIn (outer : List String) : FileTree → List (List String)
  | .file _ _ _ => [outer]
  | .link _ => []
  | .directory entries => filesInEntries outer entries

/-- The names that lead to the files below some entries. -/
def filesInEntries (outer : List String) : List (String × FileTree) → List (List String)
  | [] => []
  | (name, node) :: entries => filesIn (outer ++ [name]) node ++ filesInEntries outer entries

end

/-- The names that lead from a directory to the files below it, links not counted. -/
def filesBelow (tree : FileTree) (directory : String) : List (List String) :=
  match tree.find directory with
  | .ok node => node.filesIn []
  | .error _ => []

mutual

/-- The number of directories in a tree. -/
def directoryCount : FileTree → Nat
  | .file _ _ _ => 0
  | .link _ => 0
  | .directory entries => 1 + directoryCountIn entries

/-- The number of directories in some entries. -/
def directoryCountIn : List (String × FileTree) → Nat
  | [] => 0
  | (_, node) :: entries => directoryCount node + directoryCountIn entries

end

/-- The names that lead to the files at an entry of a directory, links followed, given how another
directory is entered.  A link does not lead into a directory around it. -/
def filesAtEntry (tree : FileTree) (enter : List String → List String → List (List String))
    (around : List (List String)) (location outer : List String) :
    String × FileTree → List (List String)
  | (name, .file _ _ _) => [outer ++ [name]]
  | (name, .directory _) => enter (location ++ [name]) (outer ++ [name])
  | (name, .link _) =>
    match tree.locateFrom true maxLinks location [name] with
    | .ok (.taken found) =>
      match tree.at? found with
      | some (.directory _) => if found ∈ around then [] else enter found (outer ++ [name])
      | some _ => [outer ++ [name]]
      | none => []
    | _ => []

/-- The names that lead to the files below a location, links followed, where the fuel bounds the
depth. -/
def filesThroughLinks (tree : FileTree) : Nat → List (List String) → List String → List String →
    List (List String)
  | 0, _, _, _ => []
  | fuel + 1, around, location, outer =>
    match tree.at? location with
    | some (.directory entries) =>
      let around := location :: around
      entries.flatMap (tree.filesAtEntry (tree.filesThroughLinks fuel around) around location outer)
    | _ => []

/-- The names that lead from a directory to the files below it, links followed.  No more links are
followed into directories than there are directories, and between two of them a walk goes down. -/
def filesBelowThroughLinks (tree : FileTree) (directory : String) : List (List String) :=
  match tree.location directory with
  | .ok location =>
    let depth := tree.directoryCount + 1
    tree.filesThroughLinks (depth * depth) [] location []
  | .error _ => []

end Toolshed.FileTree
