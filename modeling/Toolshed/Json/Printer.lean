import Toolshed.Json.Value

/-!
# Writing JSON

`compact` writes a value without blanks, `pretty` with two blanks of indentation for every level.
Strings escape quotes, backslashes and control characters only.
-/

namespace Toolshed.Json

/-- A hexadecimal digit. -/
def hexDigit (n : Nat) : Char :=
  Nat.digitChar (n % 16)

/-- The escape of a unit of sixteen bits. -/
def unitEscape (n : Nat) : List Char :=
  ['\\', 'u', hexDigit (n / 4096), hexDigit (n / 256), hexDigit (n / 16), hexDigit n]

/-- A character inside quotes. -/
def escapeChar (c : Char) : List Char :=
  if c = '"' then ['\\', '"']
  else if c = '\\' then ['\\', '\\']
  else if c = '\x08' then ['\\', 'b']
  else if c = '\x0c' then ['\\', 'f']
  else if c = '\n' then ['\\', 'n']
  else if c = '\r' then ['\\', 'r']
  else if c = '\t' then ['\\', 't']
  else if c.toNat < 32 then unitEscape c.toNat
  else [c]

/-- A quoted string. -/
def quote (s : String) : List Char :=
  '"' :: s.toList.flatMap escapeChar ++ ['"']

namespace Value

mutual

/-- The text of a value without blanks. -/
def compact : Value → List Char
  | .null => "null".toList
  | .bool true => "true".toList
  | .bool false => "false".toList
  | .number n => n.text
  | .string s => quote s
  | .array items => '[' :: compactItems items ++ [']']
  | .object members => '\x7b' :: compactMembers members ++ ['\x7d']

/-- The items of an array between commas. -/
def compactItems : List Value → List Char
  | [] => []
  | [x] => compact x
  | x :: y :: rest => compact x ++ ',' :: compactItems (y :: rest)

/-- The members of an object between commas. -/
def compactMembers : List (String × Value) → List Char
  | [] => []
  | [(k, x)] => quote k ++ ':' :: compact x
  | (k, x) :: y :: rest => quote k ++ ':' :: compact x ++ ',' :: compactMembers (y :: rest)

end

/-- The start of a line at a depth. -/
def lineStart (depth : Nat) : List Char :=
  '\n' :: List.replicate (2 * depth) ' '

mutual

/-- The text of a value with one member or item a line, at a depth. -/
def pretty (depth : Nat) : Value → List Char
  | .array [] => ['[', ']']
  | .array (x :: rest) => '[' :: prettyItems (depth + 1) (x :: rest) ++ lineStart depth ++ [']']
  | .object [] => ['\x7b', '\x7d']
  | .object (m :: rest) =>
    '\x7b' :: prettyMembers (depth + 1) (m :: rest) ++ lineStart depth ++ ['\x7d']
  | .null => "null".toList
  | .bool true => "true".toList
  | .bool false => "false".toList
  | .number n => n.text
  | .string s => quote s

/-- The items of an array on lines of their own. -/
def prettyItems (depth : Nat) : List Value → List Char
  | [] => []
  | [x] => lineStart depth ++ pretty depth x
  | x :: y :: rest => lineStart depth ++ pretty depth x ++ ',' :: prettyItems depth (y :: rest)

/-- The members of an object on lines of their own. -/
def prettyMembers (depth : Nat) : List (String × Value) → List Char
  | [] => []
  | [(k, x)] => lineStart depth ++ quote k ++ ':' :: ' ' :: pretty depth x
  | (k, x) :: y :: rest =>
    lineStart depth ++ quote k ++ ':' :: ' ' :: pretty depth x ++
      ',' :: prettyMembers depth (y :: rest)

end

end Value

end Toolshed.Json
