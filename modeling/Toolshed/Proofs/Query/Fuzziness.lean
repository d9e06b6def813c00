import Toolshed.Query.Basic
import Mathlib.Algebra.Ring.Parity
import Mathlib.Tactic.Use

/-!
# Fuzzy matching

A term matches more texts the more edits are allowed.  So does a query, if each of its terms stands
under an even number of negations; it matches fewer texts if each stands under an odd number.
-/

namespace Toolshed.Query

/-! ### Terms and negations -/

/-- No negation occurs in a query. -/
def IsAffirmative : Query → Prop
  | .not _ => False
  | .and l r => l.IsAffirmative ∧ r.IsAffirmative
  | .or l r => l.IsAffirmative ∧ r.IsAffirmative
  | .all => True
  | .term _ => True
  | .phrase _ => True
  | .wildcard _ => True

/-- For every term of a query, the number of negations that it stands under. -/
def termDepths : Query → List Nat
  | .term _ => [0]
  | .and l r => l.termDepths ++ r.termDepths
  | .or l r => l.termDepths ++ r.termDepths
  | .not q => q.termDepths.map (· + 1)
  | .all => []
  | .phrase _ => []
  | .wildcard _ => []

/-- Without negations, no term stands under any. -/
theorem IsAffirmative.termDepths {q : Query} (affirmative : q.IsAffirmative) :
  ∀ n ∈ q.termDepths, n = 0
  := by
  induction q with
  | all => apply List.forall_mem_nil
  | phrase _ => apply List.forall_mem_nil
  | wildcard _ => apply List.forall_mem_nil
  | term _ => simp [Query.termDepths]
  | and l r ihl ihr =>
      rw [Query.termDepths, List.forall_mem_append]
      use ihl affirmative.1
      apply ihr affirmative.2
  | or l r ihl ihr =>
      rw [Query.termDepths, List.forall_mem_append]
      use ihl affirmative.1
      apply ihr affirmative.2
  | not _ _ => cases affirmative

/-! ### Numbers of edits -/

/-- A term that matches with some edits matches with more. -/
theorem matchesLowered_term {t text : List Char} {edits more : Nat} (le : edits ≤ more)
    (found : (Query.term t).matchesLowered edits text = true) :
  (Query.term t).matchesLowered more text = true
  := by
  simp only [matchesLowered, Bool.or_eq_true, Bool.and_eq_true, decide_eq_true_eq,
    List.any_eq_true] at found ⊢
  rcases found with inside | ⟨positive, word, among, near⟩
  · left
    apply inside
  · right
    use Nat.lt_of_lt_of_le positive le, word, among, Nat.le_trans near le

/-- The number of edits changes in favour of a term: it grows if the term stands under an even
number of negations, and shrinks if it stands under an odd number. -/
def Favours (edits edits' depth : Nat) : Prop :=
  (Even depth → edits ≤ edits') ∧ (Odd depth → edits' ≤ edits)

/-- Under one more negation, the opposite change is in favour of a term. -/
theorem Favours.of_succ {edits edits' depth : Nat} (favours : Favours edits edits' (depth + 1)) :
  Favours edits' edits depth
  := by
  constructor
  · intro even
    apply favours.2 even.add_one
  · intro odd
    apply favours.1 odd.add_one

/-- A query goes on to match when the number of edits changes in favour of each of its terms. -/
theorem matchesLowered_of_favours {q : Query} {text : List Char} {edits edits' : Nat}
    (favours : ∀ depth ∈ q.termDepths, Favours edits edits' depth)
    (found : q.matchesLowered edits text = true) :
  q.matchesLowered edits' text = true
  := by
  -- A negation turns the claim around, so both numbers are general in the induction.
  induction q generalizing edits edits' with
  | all => rfl
  | phrase _ => apply found
  | wildcard _ => apply found
  | term t =>
      have grows := (favours 0 List.mem_cons_self).1 Even.zero
      apply matchesLowered_term grows found
  | and l r ihl ihr =>
      rw [termDepths, List.forall_mem_append] at favours
      rw [matchesLowered, Bool.and_eq_true] at found ⊢
      use ihl favours.1 found.1
      apply ihr favours.2 found.2
  | or l r ihl ihr =>
      rw [termDepths, List.forall_mem_append] at favours
      rw [matchesLowered, Bool.or_eq_true] at found ⊢
      rcases found with left | right
      · left
        apply ihl favours.1 left
      · right
        apply ihr favours.2 right
  | not q ih =>
      rw [termDepths, List.forall_mem_map] at favours
      rw [matchesLowered, Bool.not_eq_true'] at found ⊢
      rw [Bool.eq_false_iff] at found ⊢
      intro inner
      apply found
      apply ih _ inner
      intro depth among
      apply (favours depth among).of_succ

/-! ### Whole texts -/

section

variable {q : Query} {edits edits' : Nat} {text : String}

theorem matchesText_of_even (even : ∀ depth ∈ q.termDepths, Even depth) (le : edits ≤ edits')
    (found : q.matchesText edits text = true) :
  q.matchesText edits' text = true
  := by
  apply matchesLowered_of_favours _ found
  intro depth among
  constructor
  · intro _
    apply le
  · intro odd
    cases Nat.not_even_iff_odd.mpr odd (even depth among)

theorem matchesText_of_odd (odd : ∀ depth ∈ q.termDepths, Odd depth) (le : edits ≤ edits')
    (found : q.matchesText edits' text = true) :
  q.matchesText edits text = true
  := by
  apply matchesLowered_of_favours _ found
  intro depth among
  constructor
  · intro even
    cases Nat.not_even_iff_odd.mpr (odd depth among) even
  · intro _
    apply le

end

/-- With more edits allowed, a query without negations matches more texts, and so does every query
with all its terms under even numbers of negations.  A query with all of them under odd numbers
matches fewer, and for one without terms the number does not matter. -/
theorem matchesText_monotone (q : Query) (text : String) :
  (q.IsAffirmative → ∀ edits edits', edits ≤ edits' →
      q.matchesText edits text = true → q.matchesText edits' text = true)
    ∧ ((∀ depth ∈ q.termDepths, Even depth) → ∀ edits edits', edits ≤ edits' →
      q.matchesText edits text = true → q.matchesText edits' text = true)
    ∧ ((∀ depth ∈ q.termDepths, Odd depth) → ∀ edits edits', edits ≤ edits' →
      q.matchesText edits' text = true → q.matchesText edits text = true)
    ∧ (q.termDepths = [] → ∀ edits edits', q.matchesText edits text = q.matchesText edits' text)
  := by
  refine ⟨?_, ?_, ?_, ?_⟩
  · intro affirmative edits edits' le found
    apply matchesText_of_even _ le found
    intro depth among
    rw [affirmative.termDepths depth among]
    apply Even.zero
  · intro even edits edits' le found
    apply matchesText_of_even even le found
  · intro odd edits edits' le found
    apply matchesText_of_odd odd le found
  · intro empty edits edits'
    have favours : ∀ edits edits', ∀ depth ∈ q.termDepths, Favours edits edits' depth := by
      intro edits edits'
      rw [empty]
      apply List.forall_mem_nil
    rw [Bool.eq_iff_iff]
    constructor
    · apply matchesLowered_of_favours (favours _ _)
    · apply matchesLowered_of_favours (favours _ _)

/-- A misspelt term under two negations, beside a phrase. -/
def twiceDenied : Query :=
  .and (.not (.not (.term "deploi".toList))) (.phrase "app".toList)

/-- Two terms that are not asked for, one of them under three negations. -/
def thriceDenied : Query :=
  .not (.or (.term "xyzzy".toList) (.not (.not (.term "plugh".toList))))

theorem matchesText_monotone_denied :
  ((∀ depth ∈ twiceDenied.termDepths, Even depth)
      ∧ twiceDenied.matchesText 1 "Deploy the app" = true
      ∧ twiceDenied.matchesText 3 "Deploy the app" = true)
    ∧ (∀ depth ∈ thriceDenied.termDepths, Odd depth)
      ∧ thriceDenied.matchesText 2 "Deploy the app" = true
      ∧ thriceDenied.matchesText 0 "Deploy the app" = true
  := by
  have even : ∀ depth ∈ twiceDenied.termDepths, Even depth := by
    decide
  have odd : ∀ depth ∈ thriceDenied.termDepths, Odd depth := by
    decide
  have found : twiceDenied.matchesText 1 "Deploy the app" = true := by
    decide +kernel
  have found' : thriceDenied.matchesText 2 "Deploy the app" = true := by
    decide +kernel
  refine ⟨⟨even, found, ?_⟩, odd, found', ?_⟩
  · apply (matchesText_monotone _ _).2.1 even 1 3 (by decide) found
  · apply (matchesText_monotone _ _).2.2.1 odd 0 2 (by decide) found'

end Toolshed.Query
