import Toolshed.Decimal.Reader
import Toolshed.Proofs.Text.Runs
import Mathlib.Algebra.Group.Nat.Defs
import Mathlib.Data.List.Induction

/-!
# Decimal digits

The decimal text of a number is made of digits, the first of which is not zero unless the number
is.  The digits stand for the number, and there are as many of them as its size asks for.  As
many digits as others are in the order of what they stand for.
-/

namespace Toolshed

namespace Text

theorem natText_ne_nil (n : Nat) :
  natText n ≠ []
  := by
  apply Nat.toDigits_ne_nil

theorem isDigit_of_mem_natText {n : Nat} {c : Char} (h : c ∈ natText n) :
  c.isDigit = true
  := by
  apply Nat.isDigit_of_mem_toDigits _ _ h
  · decide
  · decide

/-- There are enough digits. -/
theorem lt_pow_length_natText (n : Nat) :
  n < 10 ^ (natText n).length
  := by
  apply (Nat.length_toDigits_le_iff _ _).mp
  · apply Nat.le_refl
  · decide
  · apply Nat.length_toDigits_pos

/-- There are no more digits than needed. -/
theorem pow_length_natText_le {n : Nat} (h : 0 < n) :
  10 ^ ((natText n).length - 1) ≤ n
  := by
  by_cases one : (natText n).length = 1
  · rw [one]
    apply h
  · have nonempty : 0 < (natText n).length := Nat.length_toDigits_pos
    apply Nat.le_of_not_lt
    intro small
    have fewer := (Nat.length_toDigits_le_iff (by decide) (by omega)).mpr small
    rw [natText] at nonempty fewer
    omega

/-- The first digit of a positive number is not zero. -/
theorem natText_eq_cons {n : Nat} (h : 0 < n) :
  ∃ c rest, natText n = c :: rest ∧ c ≠ '0'
  := by
  induction n using Nat.strongRecOn with
  | ind n ih =>
      by_cases small : n < 10
      · refine ⟨n.digitChar, [], Nat.toDigits_of_lt_base small, ?_⟩
        intro zero
        rw [Nat.digitChar_eq_zero] at zero
        omega
      · obtain ⟨c, rest, digits, other⟩ := ih (n / 10) (by omega) (by omega)
        refine ⟨c, rest ++ [(n % 10).digitChar], ?_, other⟩
        rw [natText, Nat.toDigits_of_base_le (by decide) (by omega), ← natText, digits]
        rfl

end Text

namespace Decimal

theorem ofDigits_append (cs ds : List Char) :
  ofDigits (cs ++ ds) = 10 ^ ds.length * ofDigits cs + ofDigits ds
  := by
  change Nat.ofDigitChars 10 (cs ++ ds) 0 = 10 ^ ds.length * Nat.ofDigitChars 10 cs 0
    + Nat.ofDigitChars 10 ds 0
  rw [Nat.ofDigitChars_append, Nat.ofDigitChars_eq_ofDigitChars_zero]

theorem ofDigits_natText (n : Nat) :
  ofDigits (Text.natText n) = n
  := by
  apply Nat.ofDigitChars_ten_toDigits

theorem ofDigits_replicate_zero (count : Nat) :
  ofDigits (List.replicate count '0') = 0
  := by
  apply (Nat.ofDigitChars_replicate_zero).trans
  apply Nat.mul_zero

/-- Digits are read up to where they end. -/
theorem readDigits_append {digits rest : List Char} (nonempty : digits ≠ [])
    (all : ∀ c ∈ digits, c.isDigit = true) (stops : Text.Stops Char.isDigit rest) :
  readDigits (digits ++ rest) = some (digits, rest)
  := by
  rw [readDigits, Text.takeWhile_append_stops all stops, Text.dropWhile_append_stops all stops]
  rcases digits with _ | ⟨c, digits⟩
  · cases nonempty rfl
  · rfl

/-! ### The order of digits -/

theorem ofDigits_concat (cs : List Char) (c : Char) :
  ofDigits (cs ++ [c]) = 10 * ofDigits cs + (c.toNat - 48)
  := by
  rw [ofDigits, List.foldl_append]
  rfl

/-- As many digits as others come first as a text if they stand for less, and they are the others if
they stand for the same number. -/
theorem lt_iff_and_eq_iff {cs ds : List Char} (same : cs.length = ds.length)
    (digits : ∀ c ∈ cs, c.isDigit = true) (digits' : ∀ d ∈ ds, d.isDigit = true) :
  (cs < ds ↔ ofDigits cs < ofDigits ds) ∧ (cs = ds ↔ ofDigits cs = ofDigits ds)
  := by
  -- from the last digit, which counts least, so that two numbers differ by it alone
  induction cs using List.reverseRecOn generalizing ds with
  | nil =>
      obtain rfl := List.length_eq_zero_iff.mp same.symm
      simp
  | append_singleton cs c ih =>
      rcases List.eq_nil_or_concat ds with rfl | ⟨ds, d, rfl⟩
      · simp at same
      · rw [List.concat_eq_append] at *
        rw [List.length_append, List.length_append, List.length_singleton, List.length_singleton,
          Nat.add_right_cancel_iff] at same
        rw [List.forall_mem_append, List.forall_mem_singleton] at digits digits'
        have bounds : 48 ≤ c.toNat ∧ c.toNat ≤ 57 := Char.isDigit_iff_toNat.mp digits.2
        have bounds' : 48 ≤ d.toNat ∧ d.toNat ≤ 57 := Char.isDigit_iff_toNat.mp digits'.2
        obtain ⟨less, equal⟩ := ih same digits.1 digits'.1
        have last : [c] < [d] ↔ c.toNat < d.toNat := by
          rw [List.cons_lt_cons_iff]
          simp [Char.lt_def, UInt32.lt_iff_toNat_lt]
        have last' : c = d ↔ c.toNat = d.toNat := Char.toNat_inj.symm
        rw [Text.append_lt_append_iff same, List.append_singleton_inj, ofDigits_concat,
          ofDigits_concat, less, equal, last, last']
        omega

end Decimal

end Toolshed
