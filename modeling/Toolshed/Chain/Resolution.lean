import Toolshed.Chain.Link
import Toolshed.Files.TypeDirectory
import Toolshed.Files.Walk

/-!
# Resolving tools

A tool is kept in a file that is named for it.  In every space, the files with the exact path of
the tool come first, and then the files deeper down whose path ends with it.
-/

namespace Toolshed.Chain

/-- A file that a tool may be read from. -/
structure Candidate where
  path : String
  space : Space
deriving DecidableEq, Inhabited

/-- The paths that a tool has directly in a directory, the preferred ones first. -/
def exactPaths (item directory : String) : List String :=
  Format.toolExtensions.map fun extension => Path.join directory (item ++ "." ++ extension)

/-- The tool that a file is named for, by the names that lead to it; a stem that is a single point
counts for nothing below another name. -/
def toolNamed? (names : List String) : Option String :=
  match names.getLast?.map Path.cutName with
  | some (stem, some extension) =>
    if extension ∈ Format.toolExtensions then
      let outer := names.dropLast
      some ("/".intercalate (if stem = "." && !outer.isEmpty then outer else outer ++ [stem]))
    else none
  | _ => none

/-- A tool with a long name is known by the end of it as well. -/
def isKnownAs (item name : String) : Bool :=
  name = item || ('/' :: item.toList).isSuffixOf name.toList

/-- The files below a directory that are named for a tool. -/
def walkedPaths (files : FileTree) (item directory : String) : List String :=
  (files.filesBelow directory).filterMap fun names =>
    if (toolNamed? names).any (isKnownAs item) then some (Path.joinAll directory names) else none

/-- One more candidate, unless its path is there already. -/
def addCandidate (found : List Candidate) (candidate : Candidate) : List Candidate :=
  if found.any fun c => Path.same c.path candidate.path then found else found ++ [candidate]

/-- The candidates with those of one more directory. -/
def addCandidates (files : FileTree) (item : String) (found : List Candidate)
    (directory : String × Space) : List Candidate :=
  let (path, space) := directory
  let exact := ((exactPaths item path).filter files.isFile).map fun p => Candidate.mk p space
  ((walkedPaths files item path).map fun p => Candidate.mk p space).foldl addCandidate
    (found ++ exact)

/-- The candidates for a tool, the preferred ones first. -/
def candidates (s : Settings) (files : FileTree) (item : String) : List Candidate :=
  (s.typeDirectories files .tool).foldl (addCandidates files item) []

end Toolshed.Chain
