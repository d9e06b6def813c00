import Toolshed.Yaml.Node
import Toolshed.Json.Value
import Toolshed.Decimal.Reader

/-!
# Values of YAML documents

A document is read as a JSON value.  A plain scalar is null, a truth value or a number when its
text is of that form, and a string otherwise; the tag of a type asks for that form.  The keys of
mappings are the texts of scalars, and a repeated key keeps its place and takes the last value.
Collections are nested at most 128 deep, and aliases are followed at most a hundred times for
each node of the document.
-/

namespace Toolshed.Yaml

open Json

/-! ### Plain scalars -/

/-- The spellings of null. -/
def isNullText (cs : List Char) : Bool :=
  String.ofList cs ∈ ["null", "Null", "NULL", "~"]

/-- The truth value that a text spells. -/
def bool? (cs : List Char) : Option Bool :=
  let s := String.ofList cs
  if s ∈ ["true", "True", "TRUE"] then some true
  else if s ∈ ["false", "False", "FALSE"] then some false
  else none

/-- The number that digits write in a base; there must be at least one. -/
def ofDigits? (base : Nat) : List Char → Option Nat
  | [] => none
  | cs => cs.foldlM (fun n c => do
      let d ← hexValue? c
      if d < base then pure (base * n + d) else none) 0

/-- The number that a text without a sign writes: hexadecimal, octal or binary after a base mark,
or decimal without a leading zero. -/
def natural? : List Char → Option Nat
  | '0' :: 'x' :: digits => ofDigits? 16 digits
  | '0' :: 'o' :: digits => ofDigits? 8 digits
  | '0' :: 'b' :: digits => ofDigits? 2 digits
  | '0' :: _ :: _ => none
  | cs => ofDigits? 10 cs

/-- A text without its sign, and whether the sign was a minus. -/
def splitSign : List Char → Bool × List Char
  | '-' :: cs => (true, cs)
  | '+' :: cs => (false, cs)
  | cs => (false, cs)

/-- The integer that a text writes, if it takes at most 128 bits. -/
def integer? (cs : List Char) : Option Int :=
  let (isNegative, digits) := splitSign cs
  match natural? digits with
  | some n =>
    if isNegative then if n ≤ Nat.pow 2 127 then some (-(n : Int)) else none
    else if n < Nat.pow 2 128 then some n else none
  | none => none

/-- The number of an integer that 64 bits hold, with or without a sign. -/
def exactNumber? (n : Int) : Option Value :=
  if -(Nat.pow 2 63 : Int) ≤ n ∧ n < Nat.pow 2 64 then some (.ofInt n) else none

/-- The spellings of the numbers that are not finite. -/
def isEndlessText (cs : List Char) : Bool :=
  String.ofList cs ∈ [".inf", ".Inf", ".INF", "+.inf", "+.Inf", "+.INF", "-.inf", "-.Inf", "-.INF",
    ".nan", ".NaN", ".NAN"]

/-- The number that a text writes with an optional point and exponent; null stands for a number
that is not finite. -/
def real? (cs : List Char) : Option Value :=
  if isEndlessText cs then some .null
  else
    let (isNegative, digits) := splitSign cs
    (Decimal.real? isNegative digits).map fun x => .number (.real x)

/-- Digits after a needless zero, which make a string. -/
def isPadded (cs : List Char) : Bool :=
  match (splitSign cs).2 with
  | '0' :: d :: digits => (d :: digits).all Char.isDigit
  | _ => false

/-- The value of a plain scalar; an integer must not need more than 64 bits. -/
def plainValue? (cs : List Char) : Option Value :=
  if cs.isEmpty || isNullText cs then some .null
  else match bool? cs, integer? cs with
    | some b, _ => some (.bool b)
    | none, some n => exactNumber? n
    | none, none =>
      let found := if isPadded cs then none else real? cs
      some (found.getD (.string (String.ofList cs)))

/-! ### Tags -/

/-- The types that a tag may ask for. -/
inductive Kind where
  | bool
  | int
  | float
  | null
deriving DecidableEq, Inhabited

/-- The type with a given tag. -/
def Kind.ofTag? (tag : List Char) : Option Kind :=
  match Text.afterStart? "tag:yaml.org,2002:".toList tag with
  | some name =>
    let s := String.ofList name
    if s = "bool" then some .bool
    else if s = "int" then some .int
    else if s = "float" then some .float
    else if s = "null" then some .null
    else none
  | none => none

/-- The value of a text of a given type. -/
def Kind.value? (kind : Kind) (cs : List Char) : Option Value :=
  match kind with
  | .bool => (bool? cs).map .bool
  | .int => (integer? cs).bind exactNumber?
  | .float => real? cs
  | .null => if isNullText cs then some .null else none

/-- The tag names a type of the document itself, for which there is no value. -/
def isLocalTag (tag : Option (List Char)) : Bool :=
  match tag with
  | some ('!' :: _) => true
  | _ => false

/-- The value of a scalar. -/
def scalarValue? (tag : Option (List Char)) (text : List Char) (isPlain : Bool) : Option Value :=
  match tag with
  | none => if isPlain then plainValue? text else some (.string (String.ofList text))
  | some tag =>
    match Kind.ofTag? tag with
    | some kind => kind.value? text
    | none => some (.string (String.ofList text))

/-! ### Values -/

/-- Reading values counts the aliases that are followed. -/
abbrev Reads := StateT Nat Option

/-- What the aliases of a document stand for, and how many may be followed. -/
structure Marks where
  nodes : List (Nat × Node)
  limit : Nat

/-- The last node with a mark. -/
def Marks.find? (marks : Marks) (mark : Nat) : Option Node :=
  (marks.nodes.reverse.find? fun (n, _) => n = mark).map Prod.snd

/-- The node itself, or the one that an alias stands for. -/
def Marks.follow (marks : Marks) : Node → Reads Node
  | .alias mark => do
    let followed ← get
    if followed + 1 > marks.limit then failure
    set (followed + 1)
    (marks.find? mark : Option Node)
  | node => pure node

/-- The text of a key. -/
def Marks.keyText (marks : Marks) (node : Node) : Reads String := do
  match ← marks.follow node with
  | .scalar _ text _ => pure (String.ofList text)
  | _ => failure

/-- The value of a node that is no alias, given how the nodes in it are read; collections are
refused where they must not be read. -/
def Marks.valueOf (marks : Marks) (inner : Option (Node → Reads Value)) : Node → Reads Value
  | .scalar p text isPlain =>
    if isLocalTag p.tag then failure else liftM (scalarValue? p.tag text isPlain)
  | .sequence p items => do
    let read ← inner
    if isLocalTag p.tag then failure
    else return .array (← items.mapM read)
  | .mapping p entries => do
    let read ← inner
    if isLocalTag p.tag then failure
    else
      let members ← entries.mapM fun (k, v) => do
        let key ← marks.keyText k
        return (key, ← read v)
      return .object (Assoc.ofEntries members)
  | .alias _ => failure

/-- The value of a node, with a bound on the depth of collections. -/
def Marks.value (marks : Marks) : Nat → Node → Reads Value
  | 0, node => do marks.valueOf none (← marks.follow node)
  | depth + 1, node => do marks.valueOf (some (marks.value depth)) (← marks.follow node)

/-- The value of a text that holds at most one document. -/
def parse? (text : List Char) : Option Value := do
  let tokens ← tokens? text
  match ← document? tokens with
  | none => pure .null
  | some node =>
    let marks : Marks := ⟨node.marked, 100 * node.weight⟩
    let (v, _) ← (marks.value 128 node).run 0
    pure v

end Toolshed.Yaml
