import Toolshed.Decimal.Binary64

/-!
# The shortest decimal of a number

Of the decimals that read back as a given number the shortest is taken, of several of the same
length the nearest one.  The text of a number writes it with a point when the leading digit stands
between the fifth place after the point and the sixteenth before it, and with an exponent
otherwise.
-/

namespace Toolshed.Binary64

/-- A decimal: digits and the power of ten they are multiplied by. -/
structure Decimal where
  digits : Nat
  exponent : Int
deriving DecidableEq, Inhabited

/-- Twice a magnitude and the ends of the interval of the reals that round to it, all as multiples
of `2 ^ (scale - 1076)`: lower end, value, upper end. -/
def neighbourhood (magnitude : Nat) : Nat × Nat × Nat :=
  let m := significand magnitude
  let below := if magnitude % Nat.pow 2 52 = 0 ∧ scale magnitude ≠ 0 then 1 else 2
  (4 * m - below, 4 * m, 4 * m + 2)

/-- The power of ten of the leading digit of a positive fraction. -/
def leadingPower (num den : Nat) : Int :=
  if den ≤ num then (Text.natText (num / den)).length - 1
  else - ((Text.natText ((den + num - 1) / num - 1)).length : Int)

/-- The factors that turn multiples of `2 ^ (scale - 1076)` and those of a power of ten into
multiples of one unit. -/
def commonUnit (magnitude : Nat) (exponent : Int) : Nat × Nat :=
  (Nat.pow 2 (scale magnitude) * Nat.pow 10 (-exponent).toNat,
    Nat.pow 2 1076 * Nat.pow 10 exponent.toNat)

/-- A multiple of a power of ten lies in the interval of a magnitude; the ends belong to it if the
significand is even. -/
def isInside (magnitude : Nat) (exponent : Int) (digits : Nat) : Bool :=
  let (low, _, high) := neighbourhood magnitude
  let (up, down) := commonUnit magnitude exponent
  if significand magnitude % 2 = 0 then low * up ≤ digits * down && digits * down ≤ high * up
  else low * up < digits * down && digits * down < high * up

/-- The two multiples of a power of ten around a magnitude, the nearer one first, of two equally
near ones the even one. -/
def around (magnitude : Nat) (exponent : Int) : Nat × Nat :=
  let (_, value, _) := neighbourhood magnitude
  let (up, down) := commonUnit magnitude exponent
  let floor := value * up / down
  let below := value * up - floor * down
  let above := (floor + 1) * down - value * up
  let nearer := if below < above then floor else if above < below then floor + 1
    else floor + floor % 2
  (nearer, if nearer = floor then floor + 1 else floor)

/-- The nearest multiple of a power of ten that lies in the interval of a magnitude, if any. -/
def onGrid? (magnitude : Nat) (exponent : Int) : Option Decimal :=
  let (nearer, farther) := around magnitude exponent
  if isInside magnitude exponent nearer then some ⟨nearer, exponent⟩
  else if isInside magnitude exponent farther then some ⟨farther, exponent⟩
  else none

/-- The decimal without a zero at its end; rounding up to a power of ten leaves at most one. -/
def Decimal.trimmed (d : Decimal) : Decimal :=
  if d.digits % 10 = 0 then ⟨d.digits / 10, d.exponent + 1⟩ else d

/-- The shortest decimal that reads back as a magnitude; seventeen digits are always enough. -/
def shortest (magnitude : Nat) : Decimal :=
  let lead := leadingPower (significand magnitude * Nat.pow 2 (scale magnitude)) (Nat.pow 2 1074)
  let found := (List.range 17).findSome? fun (n : Nat) => onGrid? magnitude (lead - n)
  (found.getD ⟨0, 0⟩).trimmed

/-- The digits of a decimal with a point, or with an exponent. -/
def Decimal.text (d : Decimal) : List Char :=
  let digits := Text.natText d.digits
  let point : Int := digits.length + d.exponent
  if 0 ≤ d.exponent ∧ point ≤ 16 then
    digits ++ List.replicate d.exponent.toNat '0' ++ ['.', '0']
  else if 0 < point ∧ point ≤ 16 then
    digits.take point.toNat ++ '.' :: digits.drop point.toNat
  else if -5 < point ∧ point ≤ 0 then
    '0' :: '.' :: List.replicate (-point).toNat '0' ++ digits
  else
    let power := point - 1
    let mantissa := match digits with
      | first :: second :: rest => first :: '.' :: second :: rest
      | short => short
    let sign := if power < 0 then '-' else '+'
    mantissa ++ 'e' :: sign :: Text.natText power.natAbs

/-- The text of a finite number. -/
def text (x : Binary64) : List Char :=
  let body := if x.magnitudeBits = 0 then ['0', '.', '0']
    else (shortest x.magnitudeBits).text
  if x.isNegative then '-' :: body else body

end Toolshed.Binary64
