import Toolshed.Proofs.Decimal.Rounding

/-!
# Decimals of numbers

A decimal that rounds to a magnitude reads back as it.  The shortest one is looked for among the
multiples of powers of ten, from the leading one downwards, and sixteen powers further down the
multiples are so close to each other that one is found.
-/

namespace Toolshed.Binary64

/-! ### Reading decimals back -/

theorem two_le_of_roundsTo {x : ℚ} {magnitude : Nat} (rounds : RoundsTo x magnitude)
    (positive : 0 < magnitude) :
  2 ≤ x
  := by
  obtain ⟨before, rfl⟩ : ∃ before, magnitude = before + 1 := ⟨magnitude - 1, by omega⟩
  have least : 2 ≤ middle before := by
    rw [middle]
    have := Nat.two_pow_pos (scale before)
    nlinarith
  have least' : (2 : ℚ) ≤ middle before := by
    exact_mod_cast least
  rcases rounds.above before rfl with above | ⟨above, _⟩
  · linarith
  · linarith

theorem middle_infinityBits :
  middle infinityBits ≤ 10 ^ 400 * 2 ^ 1076
  := by
  decide +kernel

theorem two_pow_le :
  (2 : ℚ) ^ 1076 ≤ 10 ^ 400
  := by
  have powers : 2 ^ 1076 ≤ 10 ^ 400 := by
    decide +kernel
  have := (Nat.cast_le (α := ℚ)).mpr powers
  rw [Nat.cast_pow, Nat.cast_pow] at this
  apply this

theorem lt_of_roundsTo {x : ℚ} {magnitude : Nat} (rounds : RoundsTo x magnitude)
    (finite : magnitude < infinityBits) :
  x < 10 ^ 400 * 2 ^ 1076
  := by
  have less : (middle magnitude : ℚ) < middle infinityBits := by
    exact_mod_cast middle_strictMono finite
  have most : (middle infinityBits : ℚ) ≤ ((10 ^ 400 * 2 ^ 1076 : Nat) : ℚ) := by
    exact_mod_cast middle_infinityBits
  rw [Nat.cast_mul, Nat.cast_pow, Nat.cast_pow] at most
  have below : x ≤ middle magnitude := by
    rcases rounds.below with below | ⟨below, _⟩
    · apply below.le
    · apply below.le
  apply (below.trans_lt less).trans_le most

/-- What a decimal stands for. -/
def Decimal.value (d : Decimal) : ℚ :=
  d.digits * 10 ^ d.exponent

/-- The number of digits of a decimal tells its leading power of ten. -/
theorem Decimal.value_bounds {d : Decimal} (h : 0 < d.digits) :
  (10 : ℚ) ^ (d.exponent + (Text.natText d.digits).length - 1) ≤ d.value
    ∧ d.value < 10 ^ (d.exponent + (Text.natText d.digits).length)
  := by
  have power : (0 : ℚ) < 10 ^ d.exponent := by
    positivity
  have length : 0 < (Text.natText d.digits).length :=
    List.length_pos_iff.mpr (Text.natText_ne_nil _)
  constructor
  · have least : (10 : ℚ) ^ ((Text.natText d.digits).length - 1) ≤ d.digits := by
      exact_mod_cast Text.pow_length_natText_le h
    have split : d.exponent + (Text.natText d.digits).length - 1
        = (((Text.natText d.digits).length - 1 : Nat) : Int) + d.exponent := by
      omega
    rw [split, zpow_add₀ (by norm_num), zpow_natCast, value]
    apply mul_le_mul_of_nonneg_right least power.le
  · have most : (d.digits : ℚ) < 10 ^ (Text.natText d.digits).length := by
      exact_mod_cast Text.lt_pow_length_natText d.digits
    rw [add_comm, zpow_add₀ (by norm_num), zpow_natCast, value]
    apply mul_lt_mul_of_pos_right most power

theorem digits_pos_of_roundsTo {d : Decimal} {magnitude : Nat}
    (rounds : RoundsTo (d.value * 2 ^ 1076) magnitude) (positive : 0 < magnitude) :
  0 < d.digits
  := by
  have low := two_le_of_roundsTo rounds positive
  apply Nat.pos_of_ne_zero
  intro zero
  rw [Decimal.value, zero, Nat.cast_zero, zero_mul, zero_mul] at low
  norm_num at low

/-- The leading power of a decimal that rounds to a finite magnitude is not so small that it is
taken for zero. -/
theorem Decimal.not_small {d : Decimal} (digits : 0 < d.digits) (low : 2 ≤ d.value * 2 ^ 1076) :
  ¬ d.exponent + (Text.natText d.digits).length < -400
  := by
  intro small
  have unit : (0 : ℚ) < 2 ^ 1076 := by
    positivity
  have less : d.value < 10 ^ (-400 : Int) := by
    apply (Decimal.value_bounds digits).2.trans_le
    apply zpow_le_zpow_right₀ (by norm_num) small.le
  have : d.value * 2 ^ 1076 < 1 := by
    calc
      d.value * 2 ^ 1076 < 10 ^ (-400 : Int) * 2 ^ 1076 := mul_lt_mul_of_pos_right less unit
      _ ≤ 10 ^ (-400 : Int) * 10 ^ 400 := mul_le_mul_of_nonneg_left two_pow_le (by positivity)
      _ = 1 := zpow_neg_mul_zpow_self 400 (by norm_num)
  have impossible := low.trans_lt this
  norm_num at impossible

/-- Nor is it so large that it is taken for infinity. -/
theorem Decimal.not_large {d : Decimal} (digits : 0 < d.digits)
    (high : d.value * 2 ^ 1076 < 10 ^ 400 * 2 ^ 1076) :
  ¬ d.exponent + (Text.natText d.digits).length > 400
  := by
  intro large
  have more : (10 : ℚ) ^ (400 : Int) ≤ d.value := by
    refine le_trans ?_ (Decimal.value_bounds digits).1
    apply zpow_le_zpow_right₀ (by norm_num)
    omega
  apply not_lt_of_ge more
  apply lt_of_mul_lt_mul_right high
  positivity

/-- A decimal as a quotient of natural numbers. -/
theorem Decimal.value_eq_div (d : Decimal) :
  d.value = ((d.digits * Nat.pow 10 d.exponent.toNat : Nat) : ℚ)
    / (Nat.pow 10 (-d.exponent).toNat : Nat)
  := by
  rw [value, zpow_eq_div (by norm_num), ← mul_div_assoc]
  simp only [Nat.pow_eq]
  push_cast
  rfl

/-- A decimal is read as the magnitude to which it rounds. -/
theorem ofDecimal_of_roundsTo {d : Decimal} {magnitude : Nat}
    (rounds : RoundsTo (d.value * 2 ^ 1076) magnitude) (positive : 0 < magnitude)
    (finite : magnitude < infinityBits) (negative : Bool) :
  ofDecimal negative d.digits d.exponent = ofMagnitude negative magnitude
  := by
  have digits := digits_pos_of_roundsTo rounds positive
  have notSmall := Decimal.not_small digits (two_le_of_roundsTo rounds positive)
  have notLarge := Decimal.not_large digits (lt_of_roundsTo rounds finite)
  rw [Decimal.value_eq_div] at rounds
  rw [ofDecimal]
  rw [if_neg, if_neg notLarge, ofRatio, magnitudeOfRatio_of_roundsTo _ _ rounds finite]
  · apply Nat.mul_pos digits
    apply Nat.pow_pos
    decide
  · apply Nat.pow_pos
    decide
  · simp only [Bool.or_eq_true, decide_eq_true_eq, not_or]
    exact ⟨digits.ne', notSmall⟩

/-! ### Decimals in an interval -/

/-- The lower end of the interval of a magnitude is the middle to the one before. -/
theorem low_neighbourhood (before : Nat) :
  (neighbourhood (before + 1)).1 * 2 ^ scale (before + 1) = middle before
  := by
  rw [neighbourhood, pow_52]
  dsimp only
  rcases small_or_large (before + 1) with small | ⟨e, r, same, low, high⟩
  · obtain ⟨s, t⟩ := significand_of_small small
    have small' : before < 2 * 4503599627370496 := by
      omega
    obtain ⟨s', t'⟩ := significand_of_small small'
    rw [if_neg, s, t, middle, s', t']
    · omega
    · rw [t]
      omega
  · obtain ⟨s, t⟩ := significand_of_large (e := e) low high
    rw [same, s, t]
    by_cases least : 0 < e ∧ r = 4503599627370496
    · obtain ⟨positive, rfl⟩ := least
      obtain ⟨e, rfl⟩ : ∃ e', e = e' + 1 := ⟨e - 1, by omega⟩
      obtain rfl : before = e * 4503599627370496 + 9007199254740991 := by
        omega
      rw [if_pos (by omega), middle_of_significand (by omega) (by omega), pow_succ]
      ring
    · obtain ⟨r, rfl⟩ : ∃ r', r = r' + 1 := ⟨r - 1, by omega⟩
      obtain rfl : before = e * 4503599627370496 + r := by
        omega
      rw [if_neg (by omega), middle_of_significand (by omega) (by omega)]
      congr 1

theorem high_neighbourhood (magnitude : Nat) :
  (neighbourhood magnitude).2.2 * 2 ^ scale magnitude = middle magnitude
  := by
  rfl

theorem significand_mod_two (magnitude : Nat) :
  significand magnitude % 2 = magnitude % 2
  := by
  rcases small_or_large magnitude with small | ⟨e, r, rfl, low, high⟩
  · rw [(significand_of_small small).1]
  · rw [(significand_of_large low high).1]
    omega

/-- A decimal as a quotient, in the units of the interval of a magnitude. -/
theorem value_mul (d : Decimal) (magnitude : Nat) :
  d.value * 2 ^ 1076 = ((d.digits * (commonUnit magnitude d.exponent).2 : Nat) : ℚ)
    / (Nat.pow 10 (-d.exponent).toNat : Nat)
  := by
  have unit : ((Nat.pow 2 1076 : Nat) : ℚ) = 2 ^ 1076 := by
    apply Nat.cast_pow
  simp only [Decimal.value, commonUnit, Nat.cast_mul, unit]
  rw [zpow_eq_div (by norm_num) d.exponent]
  generalize (2 : ℚ) ^ 1076 = u
  simp only [Nat.pow_eq]
  push_cast
  ring

/-- A fraction between the middles to the neighbours of a magnitude rounds to it; a middle does if
the magnitude is even. -/
theorem roundsTo_div {before num den : Nat} (positive : 0 < den)
    (between : if (before + 1) % 2 = 0
      then middle before * den ≤ num ∧ num ≤ middle (before + 1) * den
      else middle before * den < num ∧ num < middle (before + 1) * den) :
  RoundsTo (num / den) (before + 1)
  := by
  have den_pos : (0 : ℚ) < den := by
    exact_mod_cast positive
  have lt_num (m : Nat) : (m : ℚ) < num / den ↔ m * den < num := by
    rw [lt_div_iff₀ den_pos]
    exact_mod_cast Iff.rfl
  have num_lt (m : Nat) : (num : ℚ) / den < m ↔ num < m * den := by
    rw [div_lt_iff₀ den_pos]
    exact_mod_cast Iff.rfl
  have eq_num (m : Nat) : (num : ℚ) / den = m ↔ num = m * den := by
    rw [div_eq_iff den_pos.ne']
    exact_mod_cast Iff.rfl
  constructor
  · rw [IsBelow, num_lt, eq_num]
    split at between
    · next even =>
        rcases between.2.lt_or_eq with less | same
        · left
          apply less
        · right
          exact ⟨same, even⟩
    · left
      apply between.2
  · intro before' same
    obtain rfl := Nat.succ.inj same
    rw [lt_num, eq_comm (a := ((middle before : Nat) : ℚ)), eq_num]
    split at between
    · next even =>
        rcases between.1.lt_or_eq with less | same
        · left
          apply less
        · right
          exact ⟨same.symm, even⟩
    · left
      apply between.1

theorem commonUnit_fst (magnitude : Nat) (exponent : Int) :
  (commonUnit magnitude exponent).1
    = 2 ^ scale magnitude * Nat.pow 10 (-exponent).toNat
  := by
  rfl

theorem isInside_iff (magnitude : Nat) (exponent : Int) (digits : Nat) :
  isInside magnitude exponent digits = true ↔
    if magnitude % 2 = 0
    then (neighbourhood magnitude).1 * (commonUnit magnitude exponent).1
        ≤ digits * (commonUnit magnitude exponent).2
      ∧ digits * (commonUnit magnitude exponent).2
        ≤ (neighbourhood magnitude).2.2 * (commonUnit magnitude exponent).1
    else (neighbourhood magnitude).1 * (commonUnit magnitude exponent).1
        < digits * (commonUnit magnitude exponent).2
      ∧ digits * (commonUnit magnitude exponent).2
        < (neighbourhood magnitude).2.2 * (commonUnit magnitude exponent).1
  := by
  rw [isInside, significand_mod_two]
  dsimp only
  split
  · rw [Bool.and_eq_true, decide_eq_true_iff, decide_eq_true_iff]
  · rw [Bool.and_eq_true, decide_eq_true_iff, decide_eq_true_iff]

/-- A decimal inside of the interval of a magnitude rounds to it. -/
theorem roundsTo_of_isInside {before : Nat} {d : Decimal}
    (inside : isInside (before + 1) d.exponent d.digits = true) :
  RoundsTo (d.value * 2 ^ 1076) (before + 1)
  := by
  rw [value_mul d (before + 1)]
  apply roundsTo_div
  · apply Nat.pow_pos
    decide
  · rw [← low_neighbourhood, ← high_neighbourhood, Nat.mul_assoc, Nat.mul_assoc, ← commonUnit_fst]
    apply (isInside_iff _ _ _).mp inside

/-! ### The search for a decimal -/

/-- The leading power of ten of a fraction is not above it. -/
theorem leadingPower_le {num den : Nat} (hn : 0 < num) (hd : 0 < den) :
  (10 : ℚ) ^ leadingPower num den ≤ num / den
  := by
  have den_pos : (0 : ℚ) < den := by
    exact_mod_cast hd
  rw [leadingPower]
  split
  · next large =>
      have least := Text.pow_length_natText_le (Nat.div_pos large hd)
      have length : 0 < (Text.natText (num / den)).length :=
        List.length_pos_iff.mpr (Text.natText_ne_nil _)
      have power : ((Text.natText (num / den)).length : Int) - 1
          = ((Text.natText (num / den)).length - 1 : Nat) := by
        omega
      rw [power, zpow_natCast, le_div_iff₀ den_pos]
      have bound := (Nat.mul_le_mul_right den least).trans (Nat.div_mul_le_self num den)
      exact_mod_cast bound
  · next small =>
      have most := Text.lt_pow_length_natText ((den + num - 1) / num - 1)
      generalize (Text.natText ((den + num - 1) / num - 1)).length = length at most
      have rounded : 0 < (den + num - 1) / num := by
        apply Nat.div_pos _ hn
        omega
      have bound : den ≤ num * 10 ^ length := by
        have up := Nat.div_add_mod (den + num - 1) num
        have rest := Nat.mod_lt (den + num - 1) hn
        have : num * ((den + num - 1) / num) ≤ num * 10 ^ length := by
          apply Nat.mul_le_mul_left
          omega
        omega
      rw [zpow_neg, zpow_natCast, inv_le_comm₀ (by positivity) (by positivity), inv_div,
        div_le_iff₀ (by exact_mod_cast hn), mul_comm]
      exact_mod_cast bound

/-- The nearer of the two multiples around a magnitude is at most half a unit away. -/
theorem around_near (magnitude : Nat) (exponent : Int) :
  let value := (neighbourhood magnitude).2.1 * (commonUnit magnitude exponent).1
  let down := (commonUnit magnitude exponent).2
  2 * value ≤ 2 * ((around magnitude exponent).1 * down) + down
    ∧ 2 * ((around magnitude exponent).1 * down) ≤ 2 * value + down
  := by
  have positive : 0 < (commonUnit magnitude exponent).2 := by
    apply Nat.mul_pos
    · apply Nat.pow_pos
      decide
    · apply Nat.pow_pos
      decide
  rw [around]
  dsimp only
  generalize (neighbourhood magnitude).2.1 * (commonUnit magnitude exponent).1 = value
  generalize (commonUnit magnitude exponent).2 = down at positive
  have parts := Nat.div_add_mod value down
  have rest := Nat.mod_lt value positive
  rw [Nat.mul_comm] at parts
  generalize value / down = floor at parts
  have above : (floor + 1) * down = floor * down + down := Nat.succ_mul floor down
  split
  · omega
  · split
    · omega
    · rcases Nat.mod_two_eq_zero_or_one floor with even | odd
      · rw [even, Nat.add_zero]
        omega
      · rw [odd]
        omega

/-- A significand is positive, and the least one where the interval is shorter below. -/
theorem significand_bounds (before : Nat) :
  0 < significand (before + 1) ∧ significand (before + 1) ≤ 9007199254740991
    ∧ ((before + 1) % 4503599627370496 = 0 ∧ scale (before + 1) ≠ 0 →
      significand (before + 1) = 4503599627370496)
  := by
  rcases small_or_large (before + 1) with small | ⟨e, r, same, low, high⟩
  · rw [(significand_of_small small).1, (significand_of_small small).2]
    omega
  · rw [same, (significand_of_large low high).1]
    omega

/-- The nearer of two multiples that are close enough to each other lies in the interval. -/
theorem isInside_around {before : Nat} {exponent : Int}
    (close : 10 ^ 16 * (commonUnit (before + 1) exponent).2
      ≤ (neighbourhood (before + 1)).2.1 * (commonUnit (before + 1) exponent).1) :
  isInside (before + 1) exponent (around (before + 1) exponent).1 = true
  := by
  have positive : 0 < (commonUnit (before + 1) exponent).1 := by
    apply Nat.mul_pos
    · apply Nat.two_pow_pos
    · apply Nat.pow_pos
      decide
  obtain ⟨least, most⟩ := around_near (before + 1) exponent
  rw [isInside_iff]
  generalize (commonUnit (before + 1) exponent).2 = down at *
  generalize (commonUnit (before + 1) exponent).1 = up at *
  generalize (around (before + 1) exponent).1 * down = multiple at *
  obtain ⟨nonzero, bound, least_of_shorter⟩ := significand_bounds before
  have strict : (neighbourhood (before + 1)).1 * up < multiple
      ∧ multiple < (neighbourhood (before + 1)).2.2 * up := by
    rw [neighbourhood, pow_52] at *
    dsimp only at *
    generalize significand (before + 1) = m at *
    have product := Nat.mul_le_mul_right up bound
    have low (shorter : Nat) (h : shorter ≤ 4 * m) :
        (4 * m - shorter) * up + shorter * up = 4 * m * up := by
      rw [← Nat.add_mul, Nat.sub_add_cancel h]
    have high : (4 * m + 2) * up = 4 * m * up + 2 * up := Nat.add_mul (4 * m) 2 up
    rw [high]
    rw [Nat.mul_assoc 4 m up] at *
    split
    · next shorter =>
        have small := low 1 (by omega)
        have least := least_of_shorter shorter
        subst least
        omega
    · next longer =>
        have small := low 2 (by omega)
        omega
  split
  · exact ⟨strict.1.le, strict.2.le⟩
  · exact strict

theorem onGrid?_eq_some {magnitude : Nat} {exponent : Int} {d : Decimal}
    (found : onGrid? magnitude exponent = some d) :
  d.exponent = exponent ∧ isInside magnitude exponent d.digits = true
  := by
  rw [onGrid?] at found
  dsimp only at found
  split at found
  · next inside =>
      cases found
      exact ⟨rfl, inside⟩
  · split at found
    · next inside =>
        cases found
        exact ⟨rfl, inside⟩
    · cases found

/-- Sixteen powers of ten below the leading one, multiples are close enough to each other. -/
theorem isInside_lead (before : Nat) {lead : Int} {den : Nat} (unit : Nat.pow 2 1076 = 4 * den)
    (positive : 0 < den) (least : (10 : ℚ) ^ lead
      ≤ (significand (before + 1) * Nat.pow 2 (scale (before + 1)) : Nat) / den) :
  isInside (before + 1) (lead - 16) (around (before + 1) (lead - 16)).1 = true
  := by
  apply isInside_around
  rw [neighbourhood, commonUnit, unit]
  dsimp only
  have split : lead = (lead - 16) + 16 := by
    omega
  generalize lead - 16 = exponent at split ⊢
  rw [split, zpow_add₀ (by norm_num), zpow_eq_div (by norm_num) exponent, div_mul_eq_mul_div,
    div_le_div_iff₀ (by positivity) (by exact_mod_cast positive)] at least
  have least' : 10 ^ exponent.toNat * 10 ^ 16 * den
      ≤ significand (before + 1) * Nat.pow 2 (scale (before + 1)) * 10 ^ (-exponent).toNat := by
    exact_mod_cast least
  calc
    10 ^ 16 * (4 * den * 10 ^ exponent.toNat) = 4 * (10 ^ exponent.toNat * 10 ^ 16 * den) := by ring
    _ ≤ 4 * (significand (before + 1) * Nat.pow 2 (scale (before + 1))
        * 10 ^ (-exponent).toNat) := Nat.mul_le_mul_left 4 least'
    _ = 4 * significand (before + 1) * (Nat.pow 2 (scale (before + 1))
        * 10 ^ (-exponent).toNat) := by ring

/-- The search for a decimal succeeds. -/
theorem exists_onGrid? (before : Nat) (lead : Int)
    (same : lead = leadingPower (significand (before + 1) * Nat.pow 2 (scale (before + 1)))
      (Nat.pow 2 1074)) :
  ∃ d, (List.range 17).findSome? (fun (n : Nat) => onGrid? (before + 1) (lead - n)) = some d
    ∧ isInside (before + 1) d.exponent d.digits = true
  := by
  have unit : Nat.pow 2 1076 = 4 * Nat.pow 2 1074 := by
    decide +kernel
  have positive : 0 < Nat.pow 2 1074 := by
    apply Nat.two_pow_pos
  have least : (10 : ℚ) ^ lead ≤ (significand (before + 1) * Nat.pow 2 (scale (before + 1)) : Nat)
      / (Nat.pow 2 1074 : Nat) := by
    rw [same]
    apply leadingPower_le
    · apply Nat.mul_pos (significand_bounds before).1
      apply Nat.two_pow_pos
    · apply positive
  rcases found : (List.range 17).findSome? fun (n : Nat) => onGrid? (before + 1) (lead - n) with
    _ | d
  · rw [List.findSome?_eq_none_iff] at found
    have missing := found 16 (by decide)
    rw [Nat.cast_ofNat, onGrid?] at missing
    dsimp only at missing
    rw [if_pos (isInside_lead before unit positive least)] at missing
    cases missing
  · obtain ⟨n, _, found⟩ := List.exists_of_findSome?_eq_some found
    obtain ⟨exponent, inside⟩ := onGrid?_eq_some found
    use d, rfl
    rw [exponent]
    apply inside

/-- Leaving out a zero at the end changes nothing. -/
theorem Decimal.value_trimmed (d : Decimal) :
  d.trimmed.value = d.value
  := by
  rw [trimmed]
  split
  · next zero =>
      have parts := Nat.div_add_mod d.digits 10
      rw [zero, Nat.add_zero] at parts
      rw [value, value, zpow_add₀ (by norm_num), zpow_one, ← parts]
      push_cast
      rw [Nat.mul_div_cancel_left _ (by decide)]
      ring
  · rfl

/-- The shortest decimal of a magnitude rounds to it. -/
theorem roundsTo_shortest (before : Nat) :
  RoundsTo ((shortest (before + 1)).value * 2 ^ 1076) (before + 1)
  := by
  obtain ⟨d, found, inside⟩ := exists_onGrid? before _ rfl
  rw [shortest, Decimal.value_trimmed, found]
  apply roundsTo_of_isInside inside

end Toolshed.Binary64
