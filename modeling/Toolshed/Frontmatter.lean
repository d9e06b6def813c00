import Toolshed.Text.Piece
import Toolshed.Yaml.Reader
import Toolshed.Failure

/-!
# Frontmatter

A knowledge entry may start with a block of YAML between two fences, lines of three hyphens.
-/

namespace Toolshed.Frontmatter

open Text

/-- The text after a line end. -/
def afterLineEnd? : List Char → Option (List Char)
  | '\n' :: rest => some rest
  | '\r' :: '\n' :: rest => some rest
  | _ => none

/-- The text after a fence, its hyphens and the spaces and tabs after them. -/
def afterFence? (cs : List Char) : Option (List Char) :=
  (afterStart? ['-', '-', '-'] cs).map fun rest => rest.dropWhile fun c => c = ' ' || c = '\t'

/-- The text after a line end and the fence that fills the next line. -/
def afterClosing? (cs : List Char) : Option (List Char) := do
  let rest ← afterLineEnd? cs
  let rest ← afterFence? rest
  if rest.isEmpty then pure [] else afterLineEnd? rest

/-- A text cut at the first place where a reader succeeds: what stands before that place, and
what the reader leaves. -/
def cutWhere? (close? : List Char → Option (List Char)) :
    List Char → Option (List Char × List Char)
  | [] => (close? []).map fun rest => ([], rest)
  | c :: cs =>
    match close? (c :: cs) with
    | some rest => some ([], rest)
    | none => (cutWhere? close? cs).map fun (before, rest) => (c :: before, rest)

/-- The block and the text after it. -/
def parts? (cs : List Char) : Option (List Char × List Char) := do
  let rest ← afterFence? (trimLeft cs)
  let rest ← afterLineEnd? rest
  cutWhere? afterClosing? rest

/-- The block of an entry, if it has one, and the body. -/
def split (cs : List Char) : Option (List Char) × List Char :=
  match parts? cs with
  | some (block, body) => (some block, body)
  | none => (none, cs)

/-- The members of a mapping; nothing at all is an empty one. -/
def mapping? : Json.Value → Option Json.Fields
  | .object members => some members
  | .null => some []
  | _ => none

/-- The fields that an entry declares. -/
def fields (cs : List Char) : Except Failure Json.Fields :=
  match (split cs).1 with
  | none => .ok []
  | some block =>
    match Yaml.parse? block with
    | none => .error .yaml
    | some v =>
      match mapping? v with
      | some members => .ok members
      | none => .error (.source (.frontmatterNotMapping v))

/-! ### Identity -/

/-- The texts after the line feeds in the blanks at the front, the last one first. -/
def afterBlankLines : List Char → List (List Char)
  | [] => []
  | c :: cs =>
    if isBlank c then afterBlankLines cs ++ (if c = '\n' then [cs] else [])
    else []

/-- The text after a line feed, a fence, and blanks that hold a line feed. -/
def afterLooseClosing? (cs : List Char) : Option (List Char) := do
  let rest ← afterStart? ['\n', '-', '-', '-'] cs
  (afterBlankLines rest).head?

/-- The block between a fence at the very start and the next one, blank lines around both left
aside. -/
def looseBlock? (cs : List Char) : Option (List Char) := do
  let rest ← afterStart? ['-', '-', '-'] cs
  (afterBlankLines rest).findSome? fun text => (cutWhere? afterLooseClosing? text).map Prod.fst

/-- The fields that identify an entry: those of its block if it is a mapping. -/
def identity (cs : List Char) : Json.Fields :=
  match (looseBlock? cs).bind Yaml.parse? with
  | some (.object members) => members
  | _ => []

end Toolshed.Frontmatter
