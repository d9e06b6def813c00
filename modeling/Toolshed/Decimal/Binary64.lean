import Toolshed.Text.Piece

/-!
# Double precision numbers

A number of the binary format of 64 bits is kept as its bit pattern.  Every conversion is done
in exact arithmetic on natural numbers: `ofRatio` takes a fraction to the nearest number, of two
equally near ones to the one with an even significand.
-/

namespace Toolshed

/-- A double precision number, by its sign bit, 11 exponent bits and 52 fraction bits. -/
structure Binary64 where
  bits : UInt64
deriving DecidableEq, Inhabited

namespace Binary64

/-- The sign bit is set. -/
def isNegative (x : Binary64) : Bool :=
  x.bits.toNat / Nat.pow 2 63 = 1

/-- The bits without the sign. -/
def magnitudeBits (x : Binary64) : Nat :=
  x.bits.toNat % Nat.pow 2 63

/-- The magnitude bits of infinity, the least that stand for no finite number. -/
def infinityBits : Nat := 2047 * Nat.pow 2 52

/-- The number is neither infinite nor undefined. -/
def isFinite (x : Binary64) : Bool :=
  x.magnitudeBits < infinityBits

/-- The number with a given sign and given magnitude bits. -/
def ofMagnitude (negative : Bool) (magnitude : Nat) : Binary64 :=
  ⟨UInt64.ofNat ((if negative then Nat.pow 2 63 else 0) + magnitude)⟩

/-- The number with the opposite sign. -/
def neg (x : Binary64) : Binary64 :=
  ofMagnitude (!x.isNegative) x.magnitudeBits

/-- The significand of a magnitude. -/
def significand (magnitude : Nat) : Nat :=
  if magnitude / Nat.pow 2 52 = 0 then magnitude else Nat.pow 2 52 + magnitude % Nat.pow 2 52

/-- The power of two, raised by 1074, that the significand of a magnitude is multiplied by. -/
def scale (magnitude : Nat) : Nat :=
  magnitude / Nat.pow 2 52 - 1

/-- A quotient rounded to the nearest natural number, of two to the even one. -/
def roundQuotient (num den : Nat) : Nat :=
  let q := num / den
  let twice := 2 * (num % den)
  if twice < den then q else if twice > den then q + 1 else q + q % 2

/-- The magnitude bits nearest to a fraction, those of infinity beyond the finite range. -/
def magnitudeOfRatio (num den : Nat) : Nat :=
  if num = 0 then 0
  else
    let top : Int := num.log2 - den.log2
    let leading : Int :=
      if num * Nat.pow 2 (-top).toNat < den * Nat.pow 2 top.toNat then top - 1 else top
    let unit : Int := max (leading - 52) (-1074)
    let rounded := roundQuotient (num * Nat.pow 2 (-unit).toNat) (den * Nat.pow 2 unit.toNat)
    min ((unit + 1074).toNat * Nat.pow 2 52 + rounded) infinityBits

/-- The number nearest to a fraction with a sign. -/
def ofRatio (negative : Bool) (num den : Nat) : Binary64 :=
  ofMagnitude negative (magnitudeOfRatio num den)

/-- The number nearest to `digits · 10 ^ exponent`.  Powers so large or so small that only
infinity or zero is near are not written out. -/
def ofDecimal (negative : Bool) (digits : Nat) (exponent : Int) : Binary64 :=
  let leading : Int := exponent + (Text.natText digits).length
  if digits = 0 || leading < -400 then ofMagnitude negative 0
  else if leading > 400 then ofMagnitude negative infinityBits
  else ofRatio negative (digits * Nat.pow 10 exponent.toNat) (Nat.pow 10 (-exponent).toNat)

/-- A magnitude as a multiple of the least positive one. -/
def multiple (magnitude : Nat) : Nat :=
  significand magnitude * Nat.pow 2 (scale magnitude)

/-- The magnitude bits of one. -/
def oneBits : Nat := 1023 * Nat.pow 2 52

/-- The magnitude nearest to the product of two magnitudes. -/
def product (magnitude other : Nat) : Nat :=
  magnitudeOfRatio (multiple magnitude * multiple other) (multiple oneBits * multiple oneBits)

/-- The magnitude nearest to the quotient of two magnitudes. -/
def quotient (magnitude other : Nat) : Nat :=
  magnitudeOfRatio (multiple magnitude) (multiple other)

/-- The magnitude nearest to a natural number. -/
def magnitudeOfNat (n : Nat) : Nat :=
  magnitudeOfRatio n 1

/-- Equality of numbers: both zeros are equal and the undefined number equals nothing. -/
def same (x y : Binary64) : Bool :=
  if x.magnitudeBits > infinityBits || y.magnitudeBits > infinityBits then false
  else x == y || x.magnitudeBits == 0 && y.magnitudeBits == 0

end Binary64

end Toolshed
