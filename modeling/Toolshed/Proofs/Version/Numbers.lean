import Toolshed.Proofs.Decimal.Digits
import Toolshed.Proofs.Text.Blanks
import Toolshed.Proofs.Version.Order

/-!
# Versions of numbers

A list of numbers, written with points between them, is the text of a version with these numbers.
So two such texts are compared like the lists, as long as 64 bits hold every number; one that they
do not hold weighs nothing.
-/

namespace Toolshed.Version

open Std

/-! ### Written numbers -/

/-- The text of a list of numbers, with points between them. -/
def dotted (numbers : List Nat) : String :=
  ".".intercalate (numbers.map toString)

/-- What a number weighs: itself if 64 bits hold it, and nothing otherwise. -/
def held (n : Nat) : Nat :=
  if n < 2 ^ 64 then n else 0

theorem weight_natText (n : Nat) :
  weight (Text.natText n) = held n
  := by
  have whole : (Text.natText n).takeWhile Char.isDigit = Text.natText n := by
    have taken := Text.takeWhile_append_stops (fun c => Text.isDigit_of_mem_natText (n := n))
      (Text.stops_nil (p := Char.isDigit))
    rw [List.append_nil] at taken
    apply taken
  have value : (Text.natText n).foldl (fun n c => 10 * n + (c.toNat - 48)) 0 = n := by
    apply Nat.ofDigitChars_ten_toDigits
  rw [weight, whole, value]
  rfl

theorem toList_dotted (numbers : List Nat) :
  (dotted numbers).toList = ['.'].intercalate (numbers.map Text.natText)
  := by
  rw [dotted, String.toList_intercalate, List.map_map]
  have texts : String.toList ∘ toString = Text.natText := by
    funext n
    apply String.toList_ofList
  rw [texts]
  rfl

/-- Nothing but digits and points is in the text of a list of numbers. -/
theorem isDigit_of_mem_dotted {numbers : List Nat} :
  ∀ c ∈ (dotted numbers).toList, c.isDigit = true ∨ c = '.'
  := by
  rw [toList_dotted]
  induction numbers with
  | nil =>
      intro c among
      cases among
  | cons n numbers ih =>
      intro c among
      rcases numbers with _ | ⟨next, numbers⟩
      · rw [List.map_singleton, List.intercalate_singleton] at among
        left
        apply Text.isDigit_of_mem_natText among
      · rw [List.map_cons, List.map_cons, List.intercalate_cons_cons, List.mem_append,
          List.mem_append] at among
        rcases among with (digit | point) | later
        · left
          apply Text.isDigit_of_mem_natText digit
        · right
          apply List.mem_singleton.mp point
        · apply ih c later

section

variable {numbers : List Nat}

theorem isBlank_of_mem_dotted {c : Char} (among : c ∈ (dotted numbers).toList) :
  Text.isBlank c = false
  := by
  rcases isDigit_of_mem_dotted c among with digit | rfl
  · apply Text.isBlank_of_isDigit digit
  · decide

/-- No character but digits and points is found in the text of a list of numbers. -/
theorem not_mem_dotted {mark : Char} (other : mark.isDigit = false) (other' : mark ≠ '.') :
  mark ∉ (dotted numbers).toList
  := by
  intro among
  rcases isDigit_of_mem_dotted mark among with digit | point
  · rw [digit] at other
    cases other
  · apply other' point

/-- The text of a list of numbers is read as the version that has them, as far as 64 bits hold
them, and has no suffix. -/
theorem ofText_dotted (nonempty : numbers ≠ []) :
  ofText (dotted numbers) = ⟨numbers.map held, none⟩
  := by
  have tight : Text.trimBoth (dotted numbers).toList = (dotted numbers).toList := by
    apply Text.trimBoth_of_visible
    intro c among
    apply isBlank_of_mem_dotted among
  have bare : ((dotted numbers).toList.dropWhile fun c => c == 'v' || c == 'V')
      = (dotted numbers).toList := by
    apply Text.dropWhile_of_stops
    intro c first
    rw [Bool.or_eq_false_iff, beq_eq_false_iff_ne, beq_eq_false_iff_ne]
    constructor
    · rintro rfl
      apply not_mem_dotted (by decide) (by decide) (List.mem_of_mem_head? first)
    · rintro rfl
      apply not_mem_dotted (by decide) (by decide) (List.mem_of_mem_head? first)
  have core : (dotted numbers).toList.takeWhile (· != '+') = (dotted numbers).toList := by
    rw [List.takeWhile_eq_self_iff]
    intro c among
    rw [bne_iff_ne]
    rintro rfl
    apply not_mem_dotted (by decide) (by decide) among
  have uncut : Text.cutAt? '-' (dotted numbers).toList = none := by
    rw [Option.eq_none_iff_forall_ne_some]
    rintro ⟨before, after⟩ cut
    have inside : '-' ∈ (dotted numbers).toList := by
      rw [(Text.cutAt?_eq_some.mp cut).1]
      apply List.mem_append_right _ List.mem_cons_self
    apply not_mem_dotted (by decide) (by decide) inside
  have parts : Text.cutAll '.' (dotted numbers).toList = numbers.map Text.natText := by
    rw [Text.cutAll_eq_splitOn, toList_dotted]
    apply List.splitOn_intercalate
    · intro part among
      obtain ⟨n, -, rfl⟩ := List.mem_map.mp among
      intro point
      cases Text.isDigit_of_mem_natText point
    · simpa using nonempty
  rw [ofText, tight, bare, core, uncut]
  dsimp only
  rw [parts, List.map_map]
  congr 1
  apply List.map_congr_left
  intro n _
  apply weight_natText

end

theorem map_held {numbers : List Nat} (small : ∀ n ∈ numbers, n < 2 ^ 64) :
  numbers.map held = numbers
  := by
  conv_rhs => rw [← List.map_id numbers]
  apply List.map_congr_left
  intro n among
  apply if_pos (small n among)

section

variable {xs ys : List Nat} (nonempty : xs ≠ []) (nonempty' : ys ≠ [])

include nonempty nonempty'

theorem compareTexts_eq_comparePadded_held :
  compareTexts (dotted xs) (dotted ys) = comparePadded (xs.map held) (ys.map held)
  := by
  rw [compareTexts, ofText_dotted nonempty, ofText_dotted nonempty', order,
    orderNumbers_eq_comparePadded]
  apply Ordering.then_eq

theorem compareTexts_eq_comparePadded (below : ∀ n ∈ xs ++ ys, n < 2 ^ 64) :
  compareTexts (dotted xs) (dotted ys) = comparePadded xs ys
  := by
  rw [List.forall_mem_append] at below
  rw [compareTexts_eq_comparePadded_held nonempty nonempty', map_held below.1, map_held below.2]

end

/-- The texts of two lists of numbers below a limit are compared like the lists. -/
def ComparesBelow (limit : Nat) : Prop :=
  ∀ xs ys : List Nat, xs ≠ [] → ys ≠ [] → (∀ n ∈ xs ++ ys, n < limit) →
    compareTexts (dotted xs) (dotted ys) = comparePadded xs ys

/-- No larger limit will do: a number that 64 bits do not hold weighs zero, less than one. -/
theorem comparesBelow_iff {limit : Nat} :
  ComparesBelow limit ↔ limit ≤ 2 ^ 64
  := by
  constructor
  · intro compares
    by_contra large
    have below : ∀ n ∈ [2 ^ 64] ++ [1], n < limit := by
      intro n among
      simp only [List.cons_append, List.nil_append, List.mem_cons, List.not_mem_nil,
        or_false] at among
      omega
    have same := compares [2 ^ 64] [1] (List.cons_ne_nil _ _) (List.cons_ne_nil _ _) below
    rw [compareTexts_eq_comparePadded_held (List.cons_ne_nil _ _) (List.cons_ne_nil _ _)] at same
    revert same
    decide
  · intro small xs ys nonempty nonempty' below
    apply compareTexts_eq_comparePadded nonempty nonempty'
    intro n among
    apply (below n among).trans_le small

/-- The texts of two lists of numbers are compared like the lists of what the numbers weigh, so like
the lists themselves if 64 bits hold every number. -/
theorem compareTexts_dotted {xs ys : List Nat} (nonempty : xs ≠ []) (nonempty' : ys ≠ []) :
  compareTexts (dotted xs) (dotted ys) = comparePadded (xs.map held) (ys.map held)
    ∧ ((∀ n ∈ xs ++ ys, n < 2 ^ 64) →
      compareTexts (dotted xs) (dotted ys) = comparePadded xs ys)
  := by
  use compareTexts_eq_comparePadded_held nonempty nonempty'
  apply compareTexts_eq_comparePadded nonempty nonempty'

/-- The longest numbers that 64 bits hold are compared as they should be. -/
theorem compareTexts_dotted_longest :
  [2 ^ 64 - 1, 3] ≠ [] ∧ [2 ^ 64 - 2, 10, 7] ≠ []
    ∧ (∀ n ∈ [2 ^ 64 - 1, 3] ++ [2 ^ 64 - 2, 10, 7], n < 2 ^ 64)
    ∧ compareTexts (dotted [2 ^ 64 - 1, 3]) (dotted [2 ^ 64 - 2, 10, 7]) = .gt
  := by
  have below : ∀ n ∈ [2 ^ 64 - 1, 3] ++ [2 ^ 64 - 2, 10, 7], n < 2 ^ 64 := by
    decide
  refine ⟨List.cons_ne_nil _ _, List.cons_ne_nil _ _, below, ?_⟩
  rw [(compareTexts_dotted (List.cons_ne_nil _ _) (List.cons_ne_nil _ _)).2 below]
  decide

end Toolshed.Version
