import Toolshed.Proofs.Decimal.Exact
import Toolshed.Proofs.Json.Numbers

/-!
# Where numbers are read as the nearest ones

The digits of a number are taken as long as 64 bits hold what they make, and then a power of ten is
applied.  If the digits have at most 53 bits and the power is one of the first, both are exact, and
what comes out is the number nearest to the text.  Other texts may be read as a neighbour of it.
-/

namespace Toolshed.Json

open Decimal

/-- Further digits never make a number smaller. -/
theorem le_foldl_digits (n : Nat) (cs : List Char) :
  n ≤ cs.foldl (fun n c => 10 * n + (c.toNat - 48)) n
  := by
  induction cs generalizing n with
  | nil => apply Nat.le_refl
  | cons c cs ih =>
      calc n
        _ ≤ 10 * n + (c.toNat - 48) := by omega
        _ ≤ _ := ih _

/-- All digits are taken if 64 bits hold the number that they make. -/
theorem takeDigits_of_lt {n : Nat} {cs : List Char}
    (held : cs.foldl (fun n c => 10 * n + (c.toNat - 48)) n < 2 ^ 64) :
  takeDigits n cs = (cs.foldl (fun n c => 10 * n + (c.toNat - 48)) n, [])
  := by
  induction cs generalizing n with
  | nil => rfl
  | cons c cs ih =>
      rw [takeDigits, if_pos, ih held]
      · rfl
      · apply (le_foldl_digits _ cs).trans_lt held

/-- That is so of the digits before a point and of those behind it together. -/
theorem takeDigits_parts {whole fraction : List Char}
    (held : ofDigits (whole ++ fraction) < 2 ^ 64) :
  takeDigits 0 whole = (ofDigits whole, [])
    ∧ takeDigits (ofDigits whole) fraction = (ofDigits (whole ++ fraction), [])
  := by
  have joined : ofDigits (whole ++ fraction)
      = fraction.foldl (fun n c => 10 * n + (c.toNat - 48)) (ofDigits whole) := List.foldl_append
  rw [joined] at held ⊢
  constructor
  · apply takeDigits_of_lt
    apply (le_foldl_digits _ fraction).trans_lt held
  · apply takeDigits_of_lt held

/-- A number of at most 53 bits times one of the first powers of ten is rounded once. -/
theorem scaled_eq {n : Nat} {power : Int} (positive : 0 < n) (few : n < 2 ^ 53)
    (low : -22 ≤ power) (high : power ≤ 22) :
  scaled n power
    = Binary64.magnitudeOfRatio (n * Nat.pow 10 power.toNat) (Nat.pow 10 (-power).toNat)
  := by
  have stands := Binary64.standsFor_magnitudeOfNat (k := 0) positive few (by omega)
  rw [pow_zero, mul_one] at stands
  have power_pos (k : Nat) : 0 < 10 ^ k := Nat.pow_pos (by decide)
  rw [scaled]
  dsimp only
  rw [if_neg (by simp; omega), if_neg (by omega)]
  by_cases negative : power < 0
  · have whole : power.toNat = 0 := by omega
    rw [if_pos negative, whole, Nat.pow_eq, Nat.pow_eq, pow_zero, mul_one]
    apply stands.quotient (Binary64.standsFor_ten _) positive (power_pos _)
    omega
  · have whole : (-power).toNat = 0 := by omega
    rw [if_neg negative, if_pos (by omega), whole, Nat.pow_eq, Nat.pow_eq, pow_zero]
    apply stands.product (Binary64.standsFor_ten _) positive (power_pos _)
    omega

theorem length_natText_le {n : Nat} (positive : 0 < n) (few : n < 2 ^ 53) :
  (Text.natText n).length ≤ 16
  := by
  have less : 10 ^ ((Text.natText n).length - 1) < 10 ^ 16 := by
    calc 10 ^ ((Text.natText n).length - 1)
      _ ≤ n := Text.pow_length_natText_le positive
      _ < 2 ^ 53 := few
      _ < 10 ^ 16 := by decide
  have := (Nat.pow_lt_pow_iff_right (by decide)).mp less
  omega

/-- Digits that make a number of at most 53 bits are converted to the nearest number, if they are
multiplied or divided by one of the first 22 powers of ten at most. -/
theorem convert_eq_nearest {negative : Bool} {whole fraction : List Char} {exponent : Int}
    (few : ofDigits (whole ++ fraction) < 2 ^ 53) (low : -22 ≤ exponent - fraction.length)
    (high : exponent - fraction.length ≤ 22) :
  convert negative whole fraction exponent = nearest negative whole fraction exponent
  := by
  obtain ⟨first, second⟩ := takeDigits_parts (few.trans (by decide))
  rw [convert, first]
  dsimp only
  rw [second, nearest]
  dsimp only
  rw [List.length_nil, Nat.cast_zero, sub_zero, add_zero]
  generalize ofDigits (whole ++ fraction) = n at few
  generalize exponent - fraction.length = power at low high
  rcases Nat.eq_zero_or_pos n with rfl | positive
  · rfl
  · have length := length_natText_le positive few
    rw [scaled_eq positive few low high, Binary64.ofDecimal, if_neg, if_neg, Binary64.ofRatio]
    · omega
    · simp
      omega

/-- With one bit more, rounding both the digits and the quotient may miss the nearest number. -/
example :
  convert false "914".toList "4446394025773".toList 0
    ≠ nearest false "914".toList "4446394025773".toList 0
  := by
  decide +kernel

end Toolshed.Json
