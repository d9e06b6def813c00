import Toolshed.Text.Piece

/-!
# Versions

A version is a dotted list of numbers with an optional pre-release suffix.  `Version.order`
compares the numbers as if the shorter list were padded with zeros, and puts a pre-release before
the release with the same numbers.
-/

namespace Toolshed

/-- A version: its numbers and its pre-release suffix. -/
structure Version where
  numbers : List Nat
  preRelease : Option (List Char)
deriving DecidableEq, Inhabited

namespace Version

/-- The weight of a dotted component: the number its leading digits write, when it has some and
64 bits hold it, and zero otherwise. -/
def weight (component : List Char) : Nat :=
  let digits := component.takeWhile Char.isDigit
  let n := digits.foldl (fun n c => 10 * n + (c.toNat - 48)) 0
  if n < Nat.pow 2 64 then n else 0

/-- The version that a text writes.  Blanks around it and letters `v` before it do not count, nor
does what follows a `+`; what follows the first `-` is the pre-release suffix. -/
def ofText (text : String) : Version :=
  let bare := (Text.trimBoth text.toList).dropWhile fun c => c == 'v' || c == 'V'
  let core := bare.takeWhile (· != '+')
  match Text.cutAt? '-' core with
  | some (numbers, suffix) =>
    ⟨(Text.cutAll '.' numbers).map weight, if suffix.isEmpty then none else some suffix⟩
  | none => ⟨(Text.cutAll '.' core).map weight, none⟩

/-- Lists of numbers in lexicographic order, the shorter one padded with zeros. -/
def orderNumbers : List Nat → List Nat → Ordering
  | [], [] => .eq
  | x :: xs, [] => (compare x 0).then (orderNumbers xs [])
  | [], y :: ys => (compare 0 y).then (orderNumbers [] ys)
  | x :: xs, y :: ys => (compare x y).then (orderNumbers xs ys)

/-- Texts in the order of their code points. -/
def orderText : List Char → List Char → Ordering
  | [], [] => .eq
  | _ :: _, [] => .gt
  | [], _ :: _ => .lt
  | c :: cs, d :: ds => (compare c.toNat d.toNat).then (orderText cs ds)

/-- Suffixes in the order of their text, all of them before no suffix. -/
def orderSuffix : Option (List Char) → Option (List Char) → Ordering
  | none, none => .eq
  | some _, none => .lt
  | none, some _ => .gt
  | some x, some y => orderText x y

/-- The order of versions. -/
def order (a b : Version) : Ordering :=
  (orderNumbers a.numbers b.numbers).then (orderSuffix a.preRelease b.preRelease)

/-- The order of the versions that two texts write. -/
def compareTexts (a b : String) : Ordering :=
  order (ofText a) (ofText b)

/-- A comparison that a version constraint may ask for. -/
inductive Comparison where
  | atLeast | atMost | above | below | equal | different
deriving DecidableEq, Inhabited

/-- The comparison that an operator sign stands for. -/
def Comparison.ofSign? (sign : String) : Option Comparison :=
  match sign with
  | ">=" => some .atLeast
  | "<=" => some .atMost
  | ">" => some .above
  | "<" => some .below
  | "==" => some .equal
  | "=" => some .equal
  | "!=" => some .different
  | _ => none

/-- The comparison holds of two texts with a given order. -/
def Comparison.holds : Comparison → Ordering → Bool
  | .atLeast, o => o != .lt
  | .atMost, o => o != .gt
  | .above, o => o == .gt
  | .below, o => o == .lt
  | .equal, o => o == .eq
  | .different, o => o != .eq

/-- The version satisfies a constraint with a comparison. -/
def meets (version : String) (comparison : Comparison) (bound : String) : Bool :=
  comparison.holds (compareTexts version bound)

/-- The version satisfies a constraint with an operator sign; no version satisfies one with an
unknown sign. -/
def satisfies (version sign bound : String) : Bool :=
  match Comparison.ofSign? (Text.trim sign) with
  | some comparison => meets version comparison bound
  | none => false

end Version

end Toolshed
