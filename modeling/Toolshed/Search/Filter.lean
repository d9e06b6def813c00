import Toolshed.Json.Value
import Toolshed.Version
import Toolshed.Text.Case

/-!
# Filters

A filter bounds a named field of an item.  A string asks for an equal text in any letter case, for
another text after an exclamation mark, or for a version after a comparison; a list asks for one
of its members.  Two filters bound the date of the item instead.  An item without the field fails,
and one without a date passes.
-/

namespace Toolshed.Filter

open Json

/-- The fields of an item by name. -/
abbrev Item := String → Option Value

mutual

/-- The value, or one in the list it is, has a text equal to the expected one but for case. -/
def equalsText (expected : String) : Value → Bool
  | .array items => anyEqualsText expected items
  | v => v.scalar?.any fun text => Text.lower text = Text.lower expected

/-- One of the values has a text equal to the expected one but for case. -/
def anyEqualsText (expected : String) : List Value → Bool
  | [] => false
  | x :: xs => equalsText expected x || anyEqualsText expected xs

end

/-- The comparisons that a filter may start with, the longer ones first. -/
def comparisons : List String := [">=", "<=", ">", "<"]

/-- The comparison at the front of a filter, and the bound after it. -/
def comparison? (filter : String) : Option (String × String) :=
  comparisons.findSome? fun op => (Text.stripStart? op filter).map fun bound => (op, bound)

/-- A value passes a filter written as a string. -/
def passesText (actual : Value) (filter : String) : Bool :=
  match Text.stripStart? "!" filter with
  | some other => !equalsText other actual
  | none =>
    match comparison? filter with
    | some (op, bound) =>
      actual.scalar?.any fun version => Version.satisfies version op (Text.trim bound)
    | none => equalsText filter actual

mutual

/-- A value passes a filter. -/
def passes (actual : Value) : Value → Bool
  | .array options => passesAny actual options
  | .string filter => passesText actual filter
  | other =>
    match actual with
    | .array items => items.any fun item => item.same other
    | _ => actual.same other

/-- A value passes one of several filters. -/
def passesAny (actual : Value) : List Value → Bool
  | [] => false
  | option :: options => passes actual option || passesAny actual options

end

/-! ### Dates -/

/-- The number of bytes of a text in UTF-8. -/
def byteLength (cs : List Char) : Nat :=
  (String.ofList cs).utf8ByteSize

/-- The front of a text that takes a given number of bytes, none when no character ends there. -/
def takeBytes? : Nat → List Char → Option (List Char)
  | 0, _ => some []
  | _ + 1, [] => none
  | n + 1, c :: cs =>
    if c.utf8Size ≤ n + 1 then (takeBytes? (n + 1 - c.utf8Size) cs).map (c :: ·) else none

/-- A text with its first space replaced by a `T`. -/
def joinDateTime : List Char → List Char
  | [] => []
  | c :: cs => if c = ' ' then 'T' :: cs else c :: joinDateTime cs

/-- A date as it is compared: trimmed, with the zone and the time written in one way. -/
def normalDate (s : String) : List Char :=
  let spelled := (Text.trimBoth s.toList).flatMap fun c =>
    if c = 'Z' then "+00:00".toList else [c]
  joinDateTime spelled

/-- The part of an item's date that is compared with a bound: its first ten bytes if the bound is
that short.  There is none if no character ends there. -/
def comparedDate? (date bound : List Char) : Option (List Char) :=
  if byteLength bound = 10 ∧ 10 < byteLength date then takeBytes? 10 date else some date

/-- The date of an item stands in a relation to a bound, or one of the two is missing.  There is
no answer for a date that cannot be cut. -/
def boundsDate? (item : Item) (bound : Value) (related : List Char → List Char → Bool) :
    Option Bool :=
  match (item "created_at").bind Value.scalar?, bound.scalar? with
  | some date, some bound =>
    let date := normalDate date
    let bound := normalDate bound
    if date.isEmpty || bound.isEmpty then some true
    else (comparedDate? date bound).map fun date => related date bound
  | _, _ => some true

/-- An item passes one filter. -/
def passesOne? (item : Item) (name : String) (expected : Value) : Option Bool :=
  if name = "date_from" then boundsDate? item expected fun date bound => decide (¬ date < bound)
  else if name = "date_to" then boundsDate? item expected fun date bound => decide (¬ bound < date)
  else
    match item name with
    | none => some false
    | some .null => some false
    | some actual => some (passes actual expected)

/-- An item passes all filters; those after the first one that it fails are not looked at. -/
def matches? (item : Item) : Fields → Option Bool
  | [] => some true
  | (name, expected) :: filters =>
    match passesOne? item name expected with
    | some true => matches? item filters
    | other => other

end Toolshed.Filter
