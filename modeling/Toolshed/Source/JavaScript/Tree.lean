import Toolshed.Source.Literal

/-!
# JavaScript expressions

Of an expression only what its value as a literal and its use on the left of an assignment depend
on is kept.
-/

namespace Toolshed.Source.JavaScript

/-- The name of a member of an object. -/
inductive Key where
  | plain (text : List Char)
  | string (body : List Char)
  | other
deriving Inhabited

/-- An expression. -/
inductive Expr where
  | name (word : List Char)
  | undefined
  | place
  | string (body : List Char)
  | template (body : List Char) (filled : Bool)
  | number (text : List Char)
  | bool (b : Bool)
  | null
  | array (items : List Expr)
  | object (members : List Expr)
  | pair (key : Key) (value : Expr)
  | paren (inner : Expr)
  | typed (inner : Expr)
  | unary (mark : List Char) (operand : Expr)
  | assignment (target value : Expr)
  | other
deriving Inhabited

/-- The text of a key. -/
def Key.text? : Key → Option String
  | .plain text => some (String.ofList text)
  | .string body => some (String.ofList (unescape .javaScript body))
  | .other => none

namespace Expr

/-- The value of a number. -/
def numberValue? (raw : List Char) : Option Json.Value :=
  let digits := plainDigits raw
  ((radixInteger? digits).or (decimalInteger? digits)).or (real? digits)

mutual

/-- The value of a literal. -/
def value? : Expr → Option Json.Value
  | name word => if word = "undefined".toList then some .null else none
  | undefined => some .null
  | string body => some (.string (String.ofList (unescape .javaScript body)))
  | template body filled =>
    if filled then none else some (.string (String.ofList (unescape .javaScript body)))
  | number text => numberValue? text
  | bool b => some (.bool b)
  | null => some .null
  | array items => (values? items).map .array
  | object members => (members? members).map fun entries => .object (Assoc.ofEntries entries)
  | paren inner => value? inner
  | typed inner => value? inner
  | unary [mark] operand => (value? operand).bind (signed? mark)
  | _ => none

/-- The values of a list of literals. -/
def values? : List Expr → Option (List Json.Value)
  | [] => some []
  | e :: rest => do pure ((← value? e) :: (← values? rest))

/-- The members that a list of pairs writes. -/
def members? : List Expr → Option (List (String × Json.Value))
  | [] => some []
  | .pair key e :: rest => do
    let key ← key.text?
    let value ← value? e
    pure ((key, value) :: (← members? rest))
  | _ => none

end

/-- The expression is a single scalar. -/
def isConstant : Expr → Bool
  | undefined => true
  | string _ => true
  | template _ _ => true
  | number _ => true
  | bool _ => true
  | null => true
  | _ => false

/-- The expression may stand on the left of an assignment. -/
def isAssignable : Expr → Bool
  | name _ => true
  | undefined => true
  | place => true
  | paren _ => true
  | _ => false

end Expr

end Toolshed.Source.JavaScript
