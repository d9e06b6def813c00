import Toolshed.Text.Blank
import Toolshed.Text.Case
import Mathlib.Data.List.TakeWhile
import Mathlib.Tactic.Use

/-!
# The case of ASCII letters

Blanks, the characters with a case and those that do not count for it are the same whether ASCII
letters are in lowercase or not.  So a text in lowercase is the same, too, also at its capital
sigmas, which are written by what stands around them.
-/

namespace Toolshed.Text

/-- It does not matter whether an ASCII letter is in lowercase. -/
def IgnoresCase {α : Type} (f : Char → α) : Prop :=
  ∀ c, f c.toLower = f c

/-- The letter of the alphabet at a position, in lowercase. -/
def lowerAt (n : Nat) : Char :=
  Char.ofNat ('a'.toNat + n)

/-- The letter of the alphabet at a position, in uppercase. -/
def upperAt (n : Nat) : Char :=
  Char.ofNat ('A'.toNat + n)

/-- A character is a letter in uppercase, or it is in lowercase already. -/
theorem exists_upperAt (c : Char) :
  (∃ n < 26, c = upperAt n) ∨ c.toLower = c
  := by
  by_cases upper : 'A'.toNat ≤ c.toNat ∧ c.toNat ≤ 'Z'.toNat
  · left
    have width : 'Z'.toNat = 'A'.toNat + 25 := by
      decide
    use c.toNat - 'A'.toNat
    rw [upperAt, Nat.add_sub_cancel' upper.1, Char.ofNat_toNat]
    constructor
    · omega
    · rfl
  · right
    apply dif_neg upper

/-- No characters but the letters need to be looked at. -/
theorem IgnoresCase.of_letters {α : Type} {f : Char → α}
    (letters : ∀ n < 26, f (lowerAt n) = f (upperAt n)) :
  IgnoresCase f
  := by
  intro c
  rcases exists_upperAt c with ⟨n, small, rfl⟩ | lower
  · have toLower : ∀ n < 26, (upperAt n).toLower = lowerAt n := by
      decide
    rw [toLower n small]
    apply letters n small
  · rw [lower]

section

variable {p : Char → Bool} (ignores : IgnoresCase p)

include ignores

theorem IgnoresCase.takeWhile_map (cs : List Char) :
  (cs.map Char.toLower).takeWhile p = (cs.takeWhile p).map Char.toLower
  := by
  have same : p ∘ Char.toLower = p := by
    funext c
    apply ignores
  rw [List.takeWhile_map, same]

theorem IgnoresCase.dropWhile_map (cs : List Char) :
  (cs.map Char.toLower).dropWhile p = (cs.dropWhile p).map Char.toLower
  := by
  have same : p ∘ Char.toLower = p := by
    funext c
    apply ignores
  rw [List.dropWhile_map, same]

end

/-! ### Blanks -/

theorem ignoresCase_isBlank :
  IgnoresCase isBlank
  := by
  apply IgnoresCase.of_letters
  decide +kernel

theorem trimLeft_map_toLower (cs : List Char) :
  trimLeft (cs.map Char.toLower) = (trimLeft cs).map Char.toLower
  := by
  apply ignoresCase_isBlank.dropWhile_map

theorem trimBoth_map_toLower (cs : List Char) :
  trimBoth (cs.map Char.toLower) = (trimBoth cs).map Char.toLower
  := by
  rw [trimBoth, trimLeft_map_toLower, trimRight, ← List.map_reverse,
    ignoresCase_isBlank.dropWhile_map, ← List.map_reverse]
  rfl

/-! ### Lowercase -/

theorem ignoresCase_holds_caseIgnorableTable :
  IgnoresCase caseIgnorableTable.holds
  := by
  apply IgnoresCase.of_letters
  decide +kernel

theorem ignoresCase_holds_casedTable :
  IgnoresCase casedTable.holds
  := by
  apply IgnoresCase.of_letters
  decide +kernel

theorem ignoresCase_lowerLetters :
  IgnoresCase lowerLetters
  := by
  apply IgnoresCase.of_letters
  decide +kernel

/-- A character that is no letter is told from the letters in any case. -/
theorem toLower_eq_iff {mark : Char} (other : ∀ n < 26, lowerAt n ≠ mark ∧ upperAt n ≠ mark)
    (c : Char) :
  c.toLower = mark ↔ c = mark
  := by
  have ignores : IgnoresCase fun c => c = mark := by
    apply IgnoresCase.of_letters
    intro n small
    obtain ⟨lower, upper⟩ := other n small
    rw [eq_false lower, eq_false upper]
  apply iff_of_eq (ignores c)

theorem casedFollows_map_toLower (cs : List Char) :
  casedFollows (cs.map Char.toLower) = casedFollows cs
  := by
  rw [casedFollows, ignoresCase_holds_caseIgnorableTable.dropWhile_map, casedFollows]
  rcases cs.dropWhile caseIgnorableTable.holds with _ | ⟨c, rest⟩
  · rfl
  · apply ignoresCase_holds_casedTable

theorem lowerIn_toLower (before after : List Char) (c : Char) :
  lowerIn (before.map Char.toLower) (after.map Char.toLower) c.toLower = lowerIn before after c
  := by
  have sigma : c.toLower = 'Σ' ↔ c = 'Σ' := by
    apply toLower_eq_iff
    decide +kernel
  rw [lowerIn, casedFollows_map_toLower, casedFollows_map_toLower,
    ignoresCase_lowerLetters, lowerIn]
  simp only [sigma]

/-- A text in lowercase does not depend on the case of its ASCII letters. -/
theorem lowerChars_map_toLower (cs : List Char) :
  lowerChars (cs.map Char.toLower) = lowerChars cs
  := by
  have every : ∀ before,
      lowerChars.go (before.map Char.toLower) (cs.map Char.toLower) = lowerChars.go before cs := by
    induction cs with
    | nil =>
        intro before
        rfl
    | cons c cs ih =>
        intro before
        rw [List.map_cons, lowerChars.go, lowerIn_toLower, ← List.map_cons, ih, lowerChars.go]
  apply every []

end Toolshed.Text
