import Toolshed.Assoc
import Toolshed.Decimal.Shortest

/-!
# JSON values

Integers and other numbers are different values.  Objects keep their members in the order in
which they were inserted; the order does not count when two values are compared.
-/

namespace Toolshed.Json

/-- A JSON number: an integer of at most 64 bits, or a double precision number. -/
inductive Number where
  | int (n : Int)
  | real (x : Binary64)
deriving DecidableEq, Inhabited

/-- A JSON value. -/
inductive Value where
  | null
  | bool (b : Bool)
  | number (n : Number)
  | string (s : String)
  | array (items : List Value)
  | object (members : List (String × Value))
deriving Inhabited

/-- The members of an object. -/
abbrev Fields := Assoc Value

/-- The text of a number. -/
def Number.text : Number → List Char
  | .int n => if n < 0 then '-' :: Text.natText n.natAbs else Text.natText n.natAbs
  | .real x => x.text

/-- Two numbers are the same when both are integers or neither is, and they are equal. -/
def Number.same : Number → Number → Bool
  | .int m, .int n => m == n
  | .real x, .real y => x.same y
  | _, _ => false

namespace Value

/-- An integer value. -/
def ofInt (n : Int) : Value :=
  .number (.int n)

/-- A string, or null. -/
def ofOption : Option String → Value
  | some s => .string s
  | none => .null

/-- The members of an object. -/
def object? : Value → Option Fields
  | .object members => some members
  | _ => none

/-- The text of a string value. -/
def string? : Value → Option String
  | .string s => some s
  | _ => none

/-- The null test. -/
def isNull : Value → Bool
  | .null => true
  | _ => false

/-- The text of a string, a number or a truth value. -/
def scalar? : Value → Option String
  | .string s => some s
  | .number n => some (String.ofList n.text)
  | .bool true => some "true"
  | .bool false => some "false"
  | _ => none

/-- The strings of a list, or the one string that stands in place of a list. -/
def strings? : Value → Option (List String)
  | .array items => some (items.filterMap string?)
  | .string s => some [s]
  | _ => none

mutual

/-- The value in which a repeated key has its first place and its last value. -/
def merged : Value → Value
  | .array items => .array (mergedItems items)
  | .object members => .object (Assoc.ofEntries (mergedMembers members))
  | .null => .null
  | .bool b => .bool b
  | .number n => .number n
  | .string s => .string s

/-- Every item merged. -/
def mergedItems : List Value → List Value
  | [] => []
  | x :: xs => merged x :: mergedItems xs

/-- The value of every member merged. -/
def mergedMembers : List (String × Value) → List (String × Value)
  | [] => []
  | (k, x) :: xs => (k, merged x) :: mergedMembers xs

end

mutual

/-- The equality test of values, which is the one of the JSON library: the order of the members of
objects does not count, and numbers are compared by `Number.same`, so the two zeros are equal. -/
def same : Value → Value → Bool
  | .null, .null => true
  | .bool a, .bool b => a == b
  | .number m, .number n => m.same n
  | .string s, .string t => s == t
  | .array xs, .array ys => sameItems xs ys
  | .object xs, .object ys => xs.length == ys.length && sameMembers xs ys
  | _, _ => false

/-- Two lists hold the same values in the same order. -/
def sameItems : List Value → List Value → Bool
  | [], [] => true
  | x :: xs, y :: ys => same x y && sameItems xs ys
  | _, _ => false

/-- Every member of the first object has the same value in the second. -/
def sameMembers : List (String × Value) → List (String × Value) → Bool
  | [], _ => true
  | (k, x) :: xs, ys =>
    (match Assoc.get? k ys with
     | some y => same x y
     | none => false) && sameMembers xs ys

end

end Value

end Toolshed.Json
