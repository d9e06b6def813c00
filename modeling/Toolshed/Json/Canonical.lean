import Toolshed.Json.Printer

/-!
# Canonical JSON

The canonical text of a value is its compact text with the members of every object in the order
of their keys and with every character from U+007F on written as escapes of its units of sixteen
bits, so that the text is plain ASCII.
-/

namespace Toolshed.Json

/-- The units of sixteen bits of a character. -/
def units16 (c : Char) : List Nat :=
  let n := c.toNat
  if n < 0x10000 then [n]
  else [0xD800 + (n - 0x10000) / 0x400, 0xDC00 + (n - 0x10000) % 0x400]

/-- A character of canonical text. -/
def asciiChar (c : Char) : List Char :=
  if c.toNat < 0x7F then [c] else (units16 c).flatMap unitEscape

/-- A member put before the first one with a greater key. -/
def insertByKey {α : Type} (key : String) (value : α) : List (String × α) → List (String × α)
  | [] => [(key, value)]
  | (k, v) :: rest =>
    if key < k then (key, value) :: (k, v) :: rest else (k, v) :: insertByKey key value rest

namespace Value

mutual

/-- The value with the members of every object in the order of their keys. -/
def sorted : Value → Value
  | .array items => .array (sortedItems items)
  | .object members => .object (sortedMembers members)
  | .null => .null
  | .bool b => .bool b
  | .number n => .number n
  | .string s => .string s

/-- Every item sorted. -/
def sortedItems : List Value → List Value
  | [] => []
  | x :: rest => sorted x :: sortedItems rest

/-- Every member sorted, in the order of the keys. -/
def sortedMembers : List (String × Value) → List (String × Value)
  | [] => []
  | (k, x) :: rest => insertByKey k (sorted x) (sortedMembers rest)

end

/-- The canonical text of a value. -/
def canonical (v : Value) : List Char :=
  v.sorted.compact.flatMap asciiChar

end Value

end Toolshed.Json
