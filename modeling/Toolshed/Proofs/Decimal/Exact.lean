import Toolshed.Proofs.Decimal.Rounding

/-!
# Exact magnitudes

A natural number of at most 53 bits, or one that is such a number times a power of two, has a
magnitude that stands for it, and conversion gives this magnitude.  So a product or a quotient of
two such numbers is rounded no more than once, whether its parts have been converted before or not.
-/

namespace Toolshed.Binary64

/-- A magnitude stands for a natural number. -/
def StandsFor (magnitude n : Nat) : Prop :=
  multiple magnitude = n * multiple oneBits

/-! ### Multiples -/

theorem multiple_of_significand {e r : Nat} (low : 4503599627370496 ≤ r)
    (high : r < 2 * 4503599627370496) :
  multiple (e * 4503599627370496 + r) = r * 2 ^ e
  := by
  obtain ⟨significand, scale⟩ := significand_of_large (e := e) low high
  rw [multiple, significand, scale, Nat.pow_eq]

theorem multiple_oneBits :
  multiple oneBits = 4503599627370496 * 2 ^ 1022
  := by
  have bits : oneBits = 1022 * 4503599627370496 + 4503599627370496 := by
    rfl
  have full := multiple_of_significand (e := 1022) (r := 4503599627370496) (by decide) (by decide)
  rw [← bits] at full
  apply full

theorem multiple_oneBits_pos :
  0 < multiple oneBits
  := by
  rw [multiple_oneBits]
  apply Nat.mul_pos
  · decide
  · apply Nat.two_pow_pos

theorem position_eq_multiple (magnitude : Nat) :
  position magnitude = 4 * multiple magnitude
  := by
  rw [position, multiple, Nat.mul_assoc, Nat.pow_eq]

/-! ### Numbers that have a magnitude -/

/-- The fraction at the place of a magnitude rounds to it. -/
theorem roundsTo_position (magnitude : Nat) :
  RoundsTo (position magnitude) magnitude
  := by
  constructor
  · left
    have power := Nat.two_pow_pos (scale magnitude)
    rw [middle_eq]
    exact_mod_cast Nat.lt_add_of_pos_right (Nat.mul_pos two_pos power)
  · rintro before rfl
    left
    have power := Nat.two_pow_pos (scale before)
    rw [middle_eq, position_succ]
    exact_mod_cast (by omega)

/-- A natural number is converted to the magnitude that stands for it. -/
theorem StandsFor.magnitudeOfNat_eq {n magnitude : Nat} (stands : StandsFor magnitude n)
    (positive : 0 < n) (finite : magnitude < infinityBits) :
  magnitudeOfNat n = magnitude
  := by
  apply magnitudeOfRatio_of_roundsTo positive Nat.one_pos _ finite
  have rounds := roundsTo_position magnitude
  have cast (e : Nat) : (2 : ℚ) ^ (54 + e) = 4 * (4503599627370496 * 2 ^ e : Nat) := by
    rw [pow_add, Nat.cast_mul, Nat.cast_pow]
    norm_num
    ring
  have units : (2 : ℚ) ^ 1076 = 4 * multiple oneBits := by
    rw [multiple_oneBits]
    apply cast 1022
  rw [position_eq_multiple, stands, Nat.cast_mul, Nat.cast_mul] at rounds
  rw [units, Nat.cast_one, div_one, mul_left_comm]
  exact_mod_cast rounds

/-- A number of at most 53 bits fills a significand when it is shifted. -/
theorem exists_shift {n : Nat} (positive : 0 < n) (few : n < 2 ^ 53) :
  ∃ s, s ≤ 52 ∧ 4503599627370496 ≤ n * 2 ^ s ∧ n * 2 ^ s < 2 * 4503599627370496
  := by
  have log : n.log2 ≤ 52 := Nat.le_of_lt_succ ((Nat.log2_lt positive.ne').mpr few)
  obtain ⟨s, shift⟩ : ∃ s, n.log2 + s = 52 := ⟨52 - n.log2, by omega⟩
  refine ⟨s, by omega, ?_, ?_⟩
  · calc 4503599627370496
      _ = 2 ^ n.log2 * 2 ^ s := by rw [← pow_add, shift]; rfl
      _ ≤ n * 2 ^ s := Nat.mul_le_mul_right _ (Nat.log2_self_le positive.ne')
  · calc n * 2 ^ s
      _ < 2 ^ (n.log2 + 1) * 2 ^ s :=
        Nat.mul_lt_mul_of_pos_right Nat.lt_log2_self (Nat.two_pow_pos s)
      _ = 2 * 4503599627370496 := by rw [← pow_add, Nat.add_right_comm, shift]; rfl

/-- A number of at most 53 bits times a power of two has a magnitude that stands for it. -/
theorem standsFor_magnitudeOfNat {n k : Nat} (positive : 0 < n) (few : n < 2 ^ 53)
    (small : k ≤ 900) :
  StandsFor (magnitudeOfNat (n * 2 ^ k)) (n * 2 ^ k)
  := by
  obtain ⟨s, short, low, high⟩ := exists_shift positive few
  have powers (e : Nat) (less : s ≤ 52 + e + k) :
      2 ^ s * 2 ^ (52 + e + k - s) = 2 ^ k * (4503599627370496 * 2 ^ e) := by
    rw [← pow_52, Nat.pow_eq, ← pow_add, ← pow_add, ← pow_add]
    congr 1
    omega
  have stands : StandsFor ((52 + 1022 + k - s) * 4503599627370496 + n * 2 ^ s) (n * 2 ^ k) := by
    rw [StandsFor, multiple_of_significand low high, multiple_oneBits, mul_assoc, mul_assoc,
      powers 1022 (by omega)]
  rw [stands.magnitudeOfNat_eq]
  · apply stands
  · apply Nat.mul_pos positive
    apply Nat.two_pow_pos
  · rw [infinityBits, pow_52]
    omega

/-- The powers of ten up to the twenty-second have magnitudes that stand for them. -/
theorem standsFor_ten {k : Nat} (small : k ≤ 22) :
  StandsFor (magnitudeOfNat (10 ^ k)) (10 ^ k)
  := by
  have few : 5 ^ k < 2 ^ 53 := by
    calc 5 ^ k
      _ ≤ 5 ^ 22 := Nat.pow_le_pow_right (by decide) small
      _ < 2 ^ 53 := by decide
  have split : 10 ^ k = 5 ^ k * 2 ^ k := Nat.mul_pow 5 2 k
  rw [split]
  apply standsFor_magnitudeOfNat (Nat.pow_pos (by decide)) few
  omega

/-! ### Products and quotients -/

section

variable {n m magnitude other : Nat} (stands : StandsFor magnitude n)
  (stands' : StandsFor other m) (hn : 0 < n) (hm : 0 < m)

include stands stands' hn hm

/-- The product of two magnitudes that stand for natural numbers is rounded once. -/
theorem StandsFor.product :
  product magnitude other = magnitudeOfRatio (n * m) 1
  := by
  have units := Nat.mul_pos multiple_oneBits_pos multiple_oneBits_pos
  have scaled := magnitudeOfRatio_mul_mul (Nat.mul_pos hn hm) Nat.one_pos units
  rw [Nat.one_mul] at scaled
  rw [Binary64.product, stands, stands', Nat.mul_mul_mul_comm, scaled]

/-- So is their quotient. -/
theorem StandsFor.quotient :
  quotient magnitude other = magnitudeOfRatio n m
  := by
  rw [Binary64.quotient, stands, stands']
  apply magnitudeOfRatio_mul_mul hn hm multiple_oneBits_pos

end

end Toolshed.Binary64
