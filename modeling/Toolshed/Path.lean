import Toolshed.Text.Piece

/-!
# Paths

A path is a text whose names are separated by slashes.  Empty names and single points count for
nothing.  Paths by which files are reached are absolute, as there is no working directory from which
a relative one could start.  All names are Unicode text, so a path is its own key in a cache.
-/

namespace Toolshed.Path

/-- The path is absolute. -/
def isAbsolute (path : String) : Bool :=
  path.toList.head? = some '/'

/-- The parts of a path between slashes, as they are written. -/
def parts (path : String) : List String :=
  (Text.cutAll '/' path.toList).map String.ofList

/-- The names of a path, parents by two points. -/
def names (path : String) : List String :=
  (parts path).filter fun name => name ≠ "" && name ≠ "."

/-- The last name, none when it stands for a parent. -/
def fileName? (path : String) : Option String :=
  match (names path).getLast? with
  | some name => if name = ".." then none else some name
  | none => none

/-- A name cut at its last point; a point in front of everything does not count. -/
def cutName (name : String) : String × Option String :=
  match (Text.cutAll '.' name.toList).reverse with
  | [] => (name, none)
  | last :: before =>
    let stem := ['.'].intercalate before.reverse
    if stem.isEmpty then (name, none) else (String.ofList stem, some (String.ofList last))

/-- The last name without its extension. -/
def stem? (path : String) : Option String :=
  (fileName? path).map fun name => (cutName name).1

/-- The extension of the last name. -/
def extension? (path : String) : Option String :=
  (fileName? path).bind fun name => (cutName name).2

/-- A path below another one; an absolute path stands alone. -/
def join (path other : String) : String :=
  if isAbsolute other || path.isEmpty then other
  else if path.toList.getLast? = some '/' then path ++ other
  else path ++ "/" ++ other

/-- A path with names below it. -/
def joinAll (path : String) (names : List String) : String :=
  names.foldl join path

/-- What an absolute path begins with: two slashes are kept, any other number counts as one. -/
def root (path : String) : String :=
  match path.toList with
  | '/' :: '/' :: '/' :: _ => "/"
  | '/' :: '/' :: _ => "//"
  | _ => "/"

/-- An absolute path written with single slashes, one at its end being kept.  It is of no use for a
relative path, which is not completed by a working directory. -/
def absolute (path : String) : String :=
  let text := root path ++ "/".intercalate (names path)
  if !(names path).isEmpty && path.toList.getLast? = some '/' then text ++ "/" else text

/-- Two paths have the same steps. -/
def same (path other : String) : Bool :=
  isAbsolute path == isAbsolute other && names path == names other

end Toolshed.Path
