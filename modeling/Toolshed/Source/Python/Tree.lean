import Toolshed.Source.Literal
import Toolshed.Text.Piece

/-!
# Python expressions

Of an expression only what its value as a literal and its use as the target of an assignment
depend on is kept.  A backslash that joins two lines between the parts of a literal counts as a
part of it that has no value.
-/

namespace Toolshed.Source.Python

/-- A string literal: the text before its body, the body, and whether it has replacement
fields. -/
structure StringToken where
  opening : List Char
  body : List Char
  fields : Bool
deriving Inhabited

/-- An expression. -/
inductive Expr where
  | name (word : List Char)
  | place
  | string (token : StringToken)
  | strings (parts : List Expr)
  | integer (digits : List Char)
  | float (digits : List Char)
  | bool (b : Bool)
  | none
  | list (items : List Expr)
  | tuple (items : List Expr)
  | dict (items : List Expr)
  | pair (key value : Expr)
  | spread
  | paren (items : List Expr)
  | sign (mark : Char) (operand : Expr)
  | star (operand : Expr)
  | join
  | other
deriving Inhabited

namespace StringToken

/-- The letters before the quote. -/
def flags (t : StringToken) : List Char :=
  (t.opening.reverse.dropWhile fun c => c == '\'' || c == '"').reverse.map Char.toLower

/-- The text of a string.  Formatted strings are expressions and bytes are no text. -/
def value? (t : StringToken) : Option String :=
  if t.fields || t.flags.contains 'f' || t.flags.contains 'b' then Option.none
  else if t.flags.contains 'r' then some (String.ofList t.body)
  else some (String.ofList (unescape .python t.body))

end StringToken

namespace Expr

/-- The integer that digits write. -/
def integerValue? (raw : List Char) : Option Json.Value :=
  let digits := plainDigits raw
  if digits.getLast? = some 'j' then Option.none
  else (radixInteger? digits).or (decimalInteger? digits)

/-- The number that digits with a point or an exponent write. -/
def floatValue? (raw : List Char) : Option Json.Value :=
  let digits := plainDigits raw
  if digits.getLast? = some 'j' then Option.none else real? digits

/-- The text of a value as a key of an object. -/
def keyText? : Json.Value → Option String
  | .string s => some s
  | .number n => some (String.ofList n.text)
  | _ => Option.none

mutual

/-- The value of a literal. -/
def value? : Expr → Option Json.Value
  | string token => token.value?.map .string
  | strings parts => (texts? parts).map fun s => .string (String.ofList s)
  | integer digits => integerValue? digits
  | float digits => floatValue? digits
  | bool b => some (.bool b)
  | none => some .null
  | list items => (values? items).map .array
  | tuple items => (values? items).map .array
  | dict items => (members? items).map fun entries => .object (Assoc.ofEntries entries)
  | paren [inner] => value? inner
  | sign mark operand => (value? operand).bind (signed? mark)
  | _ => Option.none

/-- The values of a list of literals. -/
def values? : List Expr → Option (List Json.Value)
  | [] => some []
  | e :: rest => do pure ((← value? e) :: (← values? rest))

/-- The text of adjacent strings. -/
def texts? : List Expr → Option (List Char)
  | [] => some []
  | .string token :: rest => do pure ((← token.value?).toList ++ (← texts? rest))
  | _ => Option.none

/-- The members that a list of pairs writes. -/
def members? : List Expr → Option (List (String × Json.Value))
  | [] => some []
  | .pair k v :: rest => do
    let key ← keyText? (← value? k)
    let value ← value? v
    pure ((key, value) :: (← members? rest))
  | _ => Option.none

end

/-- The expression is a single scalar. -/
def isConstant : Expr → Bool
  | string _ => true
  | strings _ => true
  | integer _ => true
  | float _ => true
  | bool _ => true
  | none => true
  | _ => false

/-- The expression may stand after the star of a starred target. -/
def isPlace : Expr → Bool
  | name _ => true
  | place => true
  | _ => false

mutual

/-- The expression may be assigned to. -/
def isTarget : Expr → Bool
  | name _ => true
  | place => true
  | star operand => operand.isPlace
  | list items => areTargets items
  | tuple items => areTargets items
  | paren items => areTargets items
  | _ => false

/-- Every expression of a list may be assigned to. -/
def areTargets : List Expr → Bool
  | [] => true
  | .join :: rest => areTargets rest
  | e :: rest => isTarget e && areTargets rest

end

end Expr

end Toolshed.Source.Python
