import Toolshed.Decimal.Shortest
import Toolshed.Proofs.Decimal.Digits
import Mathlib.Algebra.Order.Field.Power
import Mathlib.Tactic.FieldSimp
import Mathlib.Tactic.Linarith
import Mathlib.Tactic.Positivity
import Mathlib.Tactic.Ring

/-!
# Rounding

The magnitudes are numbered from zero on, and each one stands for a fraction.  A fraction rounds to
a magnitude if it lies between the middles to its neighbours; a middle itself rounds to the one of
the two with an even number.  No fraction rounds to two magnitudes, and conversion gives the one to
which a fraction rounds.
-/

namespace Toolshed.Binary64

/-! ### Magnitudes as fractions -/

theorem pow_52 :
  Nat.pow 2 52 = 4503599627370496
  := by
  rfl

theorem significand_of_small {magnitude : Nat} (h : magnitude < 2 * 4503599627370496) :
  significand magnitude = magnitude ∧ scale magnitude = 0
  := by
  rw [significand, scale, pow_52]
  constructor
  · split
    · rfl
    · omega
  · omega

theorem significand_of_large {e r : Nat} (low : 4503599627370496 ≤ r)
    (high : r < 2 * 4503599627370496) :
  significand (e * 4503599627370496 + r) = r ∧ scale (e * 4503599627370496 + r) = e
  := by
  rw [significand, scale, pow_52]
  constructor
  · split
    · omega
    · omega
  · omega

/-- A magnitude is small, or it has an exponent and a full significand. -/
theorem small_or_large (magnitude : Nat) :
  magnitude < 2 * 4503599627370496
    ∨ ∃ e r, magnitude = e * 4503599627370496 + r ∧ 4503599627370496 ≤ r
      ∧ r < 2 * 4503599627370496
  := by
  by_cases small : magnitude < 2 * 4503599627370496
  · left
    apply small
  · right
    use magnitude / 4503599627370496 - 1, magnitude % 4503599627370496 + 4503599627370496
    omega

/-- The fraction of a magnitude, in units of `2 ^ (-1076)`. -/
def position (magnitude : Nat) : Nat :=
  4 * significand magnitude * 2 ^ scale magnitude

/-- The middle between a magnitude and the next one, in units of `2 ^ (-1076)`. -/
def middle (magnitude : Nat) : Nat :=
  (4 * significand magnitude + 2) * 2 ^ scale magnitude

theorem position_succ (magnitude : Nat) :
  position (magnitude + 1) = position magnitude + 4 * 2 ^ scale magnitude
  := by
  rcases small_or_large magnitude with small | ⟨e, r, rfl, low, high⟩
  · obtain ⟨s, t⟩ := significand_of_small small
    by_cases last : magnitude + 1 < 2 * 4503599627370496
    · obtain ⟨s', t'⟩ := significand_of_small last
      rw [position, position, s, t, s', t']
      omega
    · obtain rfl : magnitude = 9007199254740991 := by omega
      rfl
  · obtain ⟨s, t⟩ := significand_of_large (e := e) low high
    by_cases last : r + 1 < 2 * 4503599627370496
    · obtain ⟨s', t'⟩ := significand_of_large (e := e) (by omega) last
      rw [position, position, s, t, Nat.add_assoc, s', t']
      ring
    · have next : e * 4503599627370496 + r + 1 = (e + 1) * 4503599627370496 + 4503599627370496 := by
        omega
      obtain rfl : r = 9007199254740991 := by omega
      obtain ⟨s', t'⟩ := significand_of_large (e := e + 1) (le_refl _) (by omega)
      rw [next, position, position, s, t, s', t']
      ring

theorem middle_eq (magnitude : Nat) :
  middle magnitude = position magnitude + 2 * 2 ^ scale magnitude
  := by
  rw [middle, position]
  ring

theorem middle_lt_middle_succ (magnitude : Nat) :
  middle magnitude < middle (magnitude + 1)
  := by
  rw [middle_eq, middle_eq, position_succ]
  have := Nat.two_pow_pos (scale magnitude)
  omega

theorem middle_strictMono : StrictMono middle
  := by
  apply strictMono_nat_of_lt_succ
  apply middle_lt_middle_succ

/-! ### Rounding to a magnitude -/

/-- A fraction, in units of `2 ^ (-1076)`, lies below the middle between a magnitude and the next
one, or rounds down from it. -/
def IsBelow (x : ℚ) (magnitude : Nat) : Prop :=
  x < middle magnitude ∨ (x = middle magnitude ∧ magnitude % 2 = 0)

/-- A fraction lies above the middle between the magnitude before and a magnitude, or rounds up
from it. -/
def IsAbove (x : ℚ) (magnitude : Nat) : Prop :=
  ∀ before, magnitude = before + 1 →
    middle before < x ∨ (middle before = x ∧ magnitude % 2 = 0)

/-- A fraction, in units of `2 ^ (-1076)`, rounds to a magnitude. -/
structure RoundsTo (x : ℚ) (magnitude : Nat) : Prop where
  below : IsBelow x magnitude
  above : IsAbove x magnitude

namespace RoundsTo

variable {x : ℚ} {m n : Nat}

theorem le (h : RoundsTo x m) (h' : RoundsTo x n) :
  n ≤ m
  := by
  by_contra less
  obtain ⟨before, rfl⟩ : ∃ before, n = before + 1 := ⟨n - 1, by omega⟩
  have ordered : (middle m : ℚ) ≤ middle before := by
    exact_mod_cast middle_strictMono.monotone (by omega)
  rcases h.below with below | ⟨below, even⟩
  · rcases h'.above before rfl with above | ⟨above, _⟩
    · linarith
    · linarith
  · rcases h'.above before rfl with above | ⟨above, even'⟩
    · linarith
    · have same : middle m = middle before := by
        exact_mod_cast below.symm.trans above.symm
      have := middle_strictMono.injective same
      omega

/-- A fraction rounds to one magnitude at most. -/
theorem unique (h : RoundsTo x m) (h' : RoundsTo x n) :
  m = n
  := by
  apply Nat.le_antisymm
  · apply h'.le h
  · apply h.le h'

end RoundsTo

/-- A natural number is nearest to a fraction, and even if another one is as near. -/
structure IsNearest (x : ℚ) (n : Nat) : Prop where
  below : x < n + 1 / 2 ∨ (x = n + 1 / 2 ∧ n % 2 = 0)
  above : (n : ℚ) - 1 / 2 < x ∨ ((n : ℚ) - 1 / 2 = x ∧ n % 2 = 0)

theorem div_lt_half {rest den : Nat} (h : 0 < den) :
  (rest : ℚ) / den < 1 / 2 ↔ 2 * rest < den
  := by
  rw [div_lt_div_iff₀ (by exact_mod_cast h) (by norm_num), one_mul, mul_comm]
  norm_cast

theorem half_lt_div {rest den : Nat} (h : 0 < den) :
  1 / 2 < (rest : ℚ) / den ↔ den < 2 * rest
  := by
  rw [div_lt_div_iff₀ (by norm_num) (by exact_mod_cast h), one_mul, mul_comm]
  norm_cast

namespace IsNearest

variable {n : Nat} {rest : ℚ}

theorem of_lt_half (nonneg : 0 ≤ rest) (small : rest < 1 / 2) :
  IsNearest (n + rest) n
  := by
  constructor
  · left
    linarith
  · left
    linarith

theorem of_half_lt (large : 1 / 2 < rest) (less : rest < 1) :
  IsNearest (n + rest) (n + 1 : Nat)
  := by
  constructor
  · left
    push_cast
    linarith
  · left
    push_cast
    linarith

theorem of_eq_half (half : rest = 1 / 2) :
  IsNearest (n + rest) (n + n % 2 : Nat)
  := by
  rw [half]
  rcases Nat.mod_two_eq_zero_or_one n with even | odd
  · rw [even]
    constructor
    · right
      exact ⟨rfl, even⟩
    · left
      push_cast
      linarith
  · rw [odd]
    constructor
    · left
      push_cast
      linarith
    · right
      constructor
      · push_cast
        ring
      · omega

end IsNearest

theorem isNearest_roundQuotient (num : Nat) {den : Nat} (h : 0 < den) :
  IsNearest (num / den) (roundQuotient num den)
  := by
  have positive : (0 : ℚ) < den := by
    exact_mod_cast h
  have parts : (num : ℚ) / den = (num / den : Nat) + (num % den : Nat) / (den : ℚ) := by
    rw [div_eq_iff positive.ne', add_mul, div_mul_cancel₀ _ positive.ne', mul_comm]
    exact_mod_cast (Nat.div_add_mod num den).symm
  rw [roundQuotient, parts]
  split
  · next small =>
      apply IsNearest.of_lt_half
      · positivity
      · apply (div_lt_half h).mpr small
  · next small =>
      split
      · next large =>
          apply IsNearest.of_half_lt
          · apply (half_lt_div h).mpr large
          · rw [div_lt_one positive]
            exact_mod_cast Nat.mod_lt num h
      · next large =>
          apply IsNearest.of_eq_half
          apply le_antisymm
          · apply le_of_not_gt
            intro more
            apply large ((half_lt_div h).mp more)
          · apply le_of_not_gt
            intro less
            apply small ((div_lt_half h).mp less)

theorem middle_of_significand {e r : Nat} (low : 0 < e → 4503599627370496 ≤ r)
    (high : r < 2 * 4503599627370496) :
  middle (e * 4503599627370496 + r) = (4 * r + 2) * 2 ^ e
  := by
  rw [middle]
  rcases Nat.eq_zero_or_pos e with rfl | positive
  · obtain ⟨s, t⟩ := significand_of_small high
    rw [Nat.zero_mul, Nat.zero_add, s, t]
  · obtain ⟨s, t⟩ := significand_of_large (e := e) (low positive) high
    rw [s, t]

section

variable {x : ℚ} {e r : Nat} (near : IsNearest x r) (low : 0 < e → 4503599627370496 ≤ x)
  (high : x < 2 * 4503599627370496)

include near

include high in
theorem IsNearest.le_of_lt :
  r ≤ 2 * 4503599627370496
  := by
  by_contra more
  have : ((2 * 4503599627370496 + 1 : Nat) : ℚ) ≤ r := by
    exact_mod_cast Nat.lt_of_not_le more
  push_cast at this
  rcases near.above with above | ⟨above, _⟩
  · linarith
  · linarith

include low in
theorem IsNearest.le_of_le (positive : 0 < e) :
  4503599627370496 ≤ r
  := by
  by_contra less
  have : ((r + 1 : Nat) : ℚ) ≤ (4503599627370496 : Nat) := by
    exact_mod_cast Nat.lt_of_not_le less
  push_cast at this
  have := low positive
  rcases near.below with below | ⟨below, _⟩
  · linarith
  · linarith

include low high

theorem isBelow_of_isNearest :
  IsBelow (4 * x * 2 ^ e) (e * 4503599627370496 + r)
  := by
  have power : (0 : ℚ) < 2 ^ e := by
    positivity
  rcases (near.le_of_lt high).lt_or_eq with less | rfl
  · rw [IsBelow, middle_of_significand (near.le_of_le low) less]
    push_cast
    rcases near.below with below | ⟨below, even⟩
    · left
      apply mul_lt_mul_of_pos_right _ power
      linarith
    · right
      constructor
      · rw [below]
        ring
      · omega
  · -- the significand carries over
    left
    have carried : e * 4503599627370496 + 2 * 4503599627370496
        = (e + 1) * 4503599627370496 + 4503599627370496 := by
      omega
    rw [carried, middle_of_significand (fun _ => le_refl _) (by omega), pow_succ]
    push_cast
    rw [mul_comm ((2 : ℚ) ^ e), ← mul_assoc]
    apply mul_lt_mul_of_pos_right _ power
    linarith

theorem isAbove_of_isNearest :
  IsAbove (4 * x * 2 ^ e) (e * 4503599627370496 + r)
  := by
  have power : (0 : ℚ) < 2 ^ e := by
    positivity
  have most := near.le_of_lt high
  intro before same
  by_cases least : 0 < e ∧ r = 4503599627370496
  · -- the magnitude before has the exponent before
    left
    obtain ⟨positive, rfl⟩ := least
    obtain ⟨e, rfl⟩ : ∃ e', e = e' + 1 := ⟨e - 1, by omega⟩
    obtain rfl : before = e * 4503599627370496 + 9007199254740991 := by
      omega
    have := low positive
    rw [middle_of_significand (by omega) (by omega), pow_succ, mul_comm ((2 : ℚ) ^ e), ← mul_assoc]
    push_cast
    apply mul_lt_mul_of_pos_right _ (by positivity)
    linarith
  · have least' := near.le_of_le low
    obtain ⟨r, rfl⟩ : ∃ r', r = r' + 1 := ⟨r - 1, by omega⟩
    obtain rfl : before = e * 4503599627370496 + r := by
      omega
    rw [middle_of_significand (by omega) (by omega)]
    push_cast
    rcases near.above with above | ⟨above, even⟩
    · left
      push_cast at above
      apply mul_lt_mul_of_pos_right _ power
      linarith
    · right
      push_cast at above
      constructor
      · rw [← above]
        ring
      · omega

/-- A significand rounded to the nearest one gives the magnitude to which the fraction rounds; it
may carry over to the next power of two. -/
theorem roundsTo_of_isNearest :
  RoundsTo (4 * x * 2 ^ e) (e * 4503599627370496 + r)
  := by
  constructor
  · apply isBelow_of_isNearest near low high
  · apply isAbove_of_isNearest near low high

end

/-! ### Conversion -/

/-- A power with an integer exponent as a quotient of powers. -/
theorem zpow_eq_div {base : ℚ} (h : base ≠ 0) (k : Int) :
  base ^ k = base ^ k.toNat / base ^ (-k).toNat
  := by
  rw [← zpow_natCast, ← zpow_natCast, ← zpow_sub₀ h]
  congr 1
  omega

theorem lt_two_zpow_iff {num den : Nat} (h : 0 < den) (k : Int) :
  (num : ℚ) / den < 2 ^ k ↔ num * Nat.pow 2 (-k).toNat < den * Nat.pow 2 k.toNat
  := by
  rw [zpow_eq_div (by norm_num), div_lt_div_iff₀ (by exact_mod_cast h) (by positivity),
    mul_comm _ (den : ℚ)]
  exact_mod_cast Iff.rfl

/-- The logarithms of a fraction's parts tell its leading power of two up to one. -/
theorem log2_bounds {num den : Nat} (hn : 0 < num) (hd : 0 < den) :
  (2 : ℚ) ^ ((num.log2 : Int) - den.log2 - 1) < num / den
    ∧ (num : ℚ) / den < 2 ^ ((num.log2 : Int) - den.log2 + 1)
  := by
  have least : ((2 : ℚ) ^ num.log2 ≤ num) := by
    exact_mod_cast Nat.log2_self_le hn.ne'
  have most : ((num : ℚ) < 2 ^ (num.log2 + 1)) := by
    exact_mod_cast Nat.lt_log2_self
  have least' : ((2 : ℚ) ^ den.log2 ≤ den) := by
    exact_mod_cast Nat.log2_self_le hd.ne'
  have most' : ((den : ℚ) < 2 ^ (den.log2 + 1)) := by
    exact_mod_cast Nat.lt_log2_self
  have positive : (0 : ℚ) < den := by
    exact_mod_cast hd
  constructor
  · rw [sub_sub, zpow_sub₀ (by norm_num)]
    apply div_lt_div₀' least _ _ positive
    · exact_mod_cast most'
    · exact_mod_cast hn
  · rw [sub_add_eq_add_sub, zpow_sub₀ (by norm_num)]
    apply div_lt_div₀ _ least'
    · positivity
    · positivity
    · exact_mod_cast most

/-- Conversion rounds a significand for the leading power of two, as far as there are exponents. -/
theorem magnitudeOfRatio_eq {num den : Nat} (hn : 0 < num) (hd : 0 < den) :
  ∃ leading : Int, (2 : ℚ) ^ leading ≤ num / den ∧ (num : ℚ) / den < 2 ^ (leading + 1)
    ∧ let unit := max (leading - 52) (-1074)
      magnitudeOfRatio num den = min ((unit + 1074).toNat * Nat.pow 2 52
        + roundQuotient (num * Nat.pow 2 (-unit).toNat) (den * Nat.pow 2 unit.toNat)) infinityBits
  := by
  obtain ⟨least, most⟩ := log2_bounds hn hd
  by_cases less : num * Nat.pow 2 (-((num.log2 : Int) - den.log2)).toNat
      < den * Nat.pow 2 ((num.log2 : Int) - den.log2).toNat
  · use (num.log2 : Int) - den.log2 - 1, least.le
    constructor
    · rw [sub_add_cancel]
      apply (lt_two_zpow_iff hd _).mpr less
    · rw [magnitudeOfRatio, if_neg hn.ne']
      dsimp only
      rw [if_pos less]
  · use (num.log2 : Int) - den.log2
    refine ⟨?_, most, ?_⟩
    · apply le_of_not_gt
      intro small
      apply less ((lt_two_zpow_iff hd _).mp small)
    · rw [magnitudeOfRatio, if_neg hn.ne']
      dsimp only
      rw [if_neg less]

section

variable {x : ℚ} {leading unit : Int} (same : max (leading - 52) (-1074) = unit)

/-- A fraction in units of `2 ^ (-1076)` by its significand. -/
theorem mul_eq_significand (least : -1074 ≤ unit) :
  x * 2 ^ 1076 = 4 * (x / 2 ^ unit) * 2 ^ (unit + 1074).toNat
  := by
  have power : (0 : ℚ) < 2 ^ unit := by
    positivity
  have raised : (2 : ℚ) ^ (unit + 1074).toNat = 2 ^ unit * 2 ^ 1074 := by
    rw [← zpow_natCast, ← zpow_natCast, ← zpow_add₀ (by norm_num)]
    congr 1
    omega
  rw [raised, show 1076 = 1074 + 2 from rfl, pow_add]
  generalize (2 : ℚ) ^ 1074 = u
  field_simp
  ring

include same

/-- The significand is full, unless the exponent is the least one. -/
theorem le_significand (least : (2 : ℚ) ^ leading ≤ x) (positive : 0 < (unit + 1074).toNat) :
  4503599627370496 ≤ x / 2 ^ unit
  := by
  obtain rfl : leading = unit + 52 := by omega
  rw [zpow_add₀ (by norm_num)] at least
  rw [le_div_iff₀ (by positivity), mul_comm]
  norm_num at least ⊢
  apply least

theorem significand_lt (most : x < (2 : ℚ) ^ (leading + 1)) :
  x / 2 ^ unit < 2 * 4503599627370496
  := by
  have bound : (2 : ℚ) ^ (leading + 1) ≤ 2 ^ (unit + 53) := by
    apply zpow_le_zpow_right₀ (by norm_num)
    omega
  have := most.trans_le bound
  rw [zpow_add₀ (by norm_num)] at this
  rw [div_lt_iff₀ (by positivity), mul_comm]
  norm_num at this ⊢
  apply this

end

/-- Every fraction rounds to a magnitude, and conversion gives it as far as it is finite. -/
theorem exists_roundsTo {num den : Nat} (hn : 0 < num) (hd : 0 < den) :
  ∃ magnitude, RoundsTo (num / den * 2 ^ 1076) magnitude
    ∧ magnitudeOfRatio num den = min magnitude infinityBits
  := by
  obtain ⟨leading, least, most, same⟩ := magnitudeOfRatio_eq hn hd
  generalize unitEq : max (leading - 52) (-1074) = unit at same
  have den_pos : 0 < den * Nat.pow 2 unit.toNat := by
    apply Nat.mul_pos hd
    apply Nat.two_pow_pos
  have quotient : ((num * Nat.pow 2 (-unit).toNat : Nat) : ℚ) / (den * Nat.pow 2 unit.toNat : Nat)
      = num / den / 2 ^ unit := by
    rw [zpow_eq_div (by norm_num) unit, div_div_div_eq]
    simp only [Nat.pow_eq]
    push_cast
    rfl
  have near := isNearest_roundQuotient (num * Nat.pow 2 (-unit).toNat) den_pos
  rw [quotient] at near
  have rounds := roundsTo_of_isNearest near (le_significand unitEq least)
    (significand_lt unitEq most)
  rw [← mul_eq_significand (by omega), ← pow_52] at rounds
  exact ⟨_, rounds, same⟩

/-- Conversion gives the magnitude to which a fraction rounds, if it is finite. -/
theorem magnitudeOfRatio_of_roundsTo {num den magnitude : Nat} (hn : 0 < num) (hd : 0 < den)
    (rounds : RoundsTo (num / den * 2 ^ 1076) magnitude) (finite : magnitude < infinityBits) :
  magnitudeOfRatio num den = magnitude
  := by
  obtain ⟨magnitude', rounds', same⟩ := exists_roundsTo hn hd
  rw [same, rounds'.unique rounds]
  apply Nat.min_eq_left finite.le

/-- Conversion depends on what a fraction stands for, and not on how it is written. -/
theorem magnitudeOfRatio_congr {num den num' den' : Nat} (hn : 0 < num) (hd : 0 < den)
    (hn' : 0 < num') (hd' : 0 < den') (same : num * den' = num' * den) :
  magnitudeOfRatio num den = magnitudeOfRatio num' den'
  := by
  obtain ⟨magnitude, rounds, eq⟩ := exists_roundsTo hn hd
  obtain ⟨magnitude', rounds', eq'⟩ := exists_roundsTo hn' hd'
  have value : (num : ℚ) / den = num' / den' := by
    rw [div_eq_div_iff (by exact_mod_cast hd.ne') (by exact_mod_cast hd'.ne')]
    exact_mod_cast same
  rw [value] at rounds
  rw [eq, eq', rounds.unique rounds']

/-- A factor of both parts of a fraction makes no difference. -/
theorem magnitudeOfRatio_mul_mul {num den unit : Nat} (hn : 0 < num) (hd : 0 < den)
    (hu : 0 < unit) :
  magnitudeOfRatio (num * unit) (den * unit) = magnitudeOfRatio num den
  := by
  apply magnitudeOfRatio_congr (Nat.mul_pos hn hu) (Nat.mul_pos hd hu) hn hd
  rw [Nat.mul_right_comm, Nat.mul_assoc]

end Toolshed.Binary64
