import Toolshed.Text.Piece

/-!
# Names of lockfiles

A lockfile is named for the tool and the version that it pins.  Slashes in the name of the tool are
written as two underscores.
-/

namespace Toolshed.Lock

/-- A tool and one of its versions. -/
structure Pin where
  tool : String
  version : String
deriving DecidableEq, Inhabited

/-- The end of the name of a lockfile. -/
def nameEnd : String := ".lock.json"

/-- The name of a tool as it is written in the name of a file. -/
def encode (cs : List Char) : List Char :=
  cs.flatMap fun c => if c = '/' then ['_', '_'] else [c]

/-- The name of a tool that is written in the name of a file. -/
def decode : List Char → List Char
  | '_' :: '_' :: cs => '/' :: decode cs
  | c :: cs => c :: decode cs
  | [] => []

/-- A text without a given end. -/
def beforeEnd? (ending cs : List Char) : Option (List Char) :=
  (Text.afterStart? ending.reverse cs.reverse).map List.reverse

/-- A text cut at the last occurrence of a character. -/
def cutLast? (mark : Char) (cs : List Char) : Option (List Char × List Char) :=
  (Text.cutAt? mark cs.reverse).map fun (after, before) => (before.reverse, after.reverse)

/-- The name of the lockfile of a tool. -/
def Pin.fileName (pin : Pin) : String :=
  String.ofList (encode pin.tool.toList ++ '@' :: pin.version.toList ++ nameEnd.toList)

/-- What a lockfile of a given name pins. -/
def Pin.ofFileName? (name : String) : Option Pin := do
  let stem ← beforeEnd? nameEnd.toList name.toList
  let (tool, version) ← cutLast? '@' stem
  if tool.isEmpty || version.isEmpty then none
  else pure ⟨String.ofList (decode tool), String.ofList version⟩

end Toolshed.Lock
