import Toolshed.Decimal.Binary64

/-!
# Reading decimals

The pieces of a decimal number at the front of a text, and the number that a whole text writes
with an optional point and exponent.
-/

namespace Toolshed.Decimal

/-- The number that decimal digits stand for. -/
def ofDigits (cs : List Char) : Nat :=
  cs.foldl (fun n c => 10 * n + (c.toNat - 48)) 0

/-- The digits at the front of a text, at least one. -/
def readDigits (cs : List Char) : Option (List Char × List Char) :=
  match cs.takeWhile Char.isDigit with
  | [] => none
  | digits => some (digits, cs.dropWhile Char.isDigit)

/-- The exponent of ten, if there is one. -/
def readExponent : List Char → Option (Option Int × List Char)
  | e :: rest =>
    if e = 'e' ∨ e = 'E' then
      let (negative, rest) := match rest with
        | '+' :: rest => (false, rest)
        | '-' :: rest => (true, rest)
        | rest => (false, rest)
      match readDigits rest with
      | some (digits, rest) =>
        let n : Int := ofDigits digits
        some (some (if negative then -n else n), rest)
      | none => none
    else some (none, e :: rest)
  | [] => some (none, [])

/-- The finite number nearest to what a text writes: digits with an optional point anywhere among
them, and an optional exponent. -/
def real? (negative : Bool) (cs : List Char) : Option Binary64 := do
  let whole := cs.takeWhile Char.isDigit
  let cs := cs.dropWhile Char.isDigit
  let (fraction, cs) := match cs with
    | '.' :: rest => (rest.takeWhile Char.isDigit, rest.dropWhile Char.isDigit)
    | rest => ([], rest)
  let (exponent, cs) ← readExponent cs
  if (whole ++ fraction).isEmpty || !cs.isEmpty then none
  else
    let power : Int := exponent.getD 0 - fraction.length
    let x := Binary64.ofDecimal negative (ofDigits (whole ++ fraction)) power
    if x.isFinite then pure x else none

end Toolshed.Decimal
