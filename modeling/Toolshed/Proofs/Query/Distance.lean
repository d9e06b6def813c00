import Toolshed.Query.Distance
import Mathlib.Order.Bounds.Basic
import Mathlib.Order.MinMax
import Mathlib.Order.Nat

/-!
# The edit distance is the least number of edits

A single edit inserts, deletes or replaces one character anywhere in a text.  Two texts are aligned
from the front by as many edits as the recursion over their first characters needs; these carry one
text over into the other, and no fewer do, since one edit changes that number by one at most.  The
entries of the table are the numbers for the reversed beginnings of the two texts.

Main statement: the edit distance is the least number of edits that turn one text into the other,
so it is symmetric, separates texts and satisfies the triangle inequality
(`distance_isLeast_edits`).
-/

namespace Toolshed.Query

/-! ### Edits -/

/-- One character of a text is inserted, deleted or replaced. -/
inductive Edit : List Char → List Char → Prop where
  | insertion (before after : List Char) (c : Char) : Edit (before ++ after) (before ++ c :: after)
  | deletion (before after : List Char) (c : Char) : Edit (before ++ c :: after) (before ++ after)
  | substitution (before after : List Char) (c d : Char) :
      Edit (before ++ c :: after) (before ++ d :: after)

/-- A text becomes another one by a number of edits. -/
inductive Edits (a : List Char) : Nat → List Char → Prop where
  | none : Edits a 0 a
  | more {n : Nat} {b c : List Char} (edits : Edits a n b) (last : Edit b c) : Edits a (n + 1) c

namespace Edit

variable {a b : List Char} (edit : Edit a b)

include edit

theorem symm :
  Edit b a
  := by
  cases edit with
  | insertion before after c => apply Edit.deletion
  | deletion before after c => apply Edit.insertion
  | substitution before after c d => apply Edit.substitution

theorem cons (c : Char) :
  Edit (c :: a) (c :: b)
  := by
  cases edit with
  | insertion before after d => exact .insertion (c :: before) after d
  | deletion before after d => exact .deletion (c :: before) after d
  | substitution before after d e => exact .substitution (c :: before) after d e

theorem reverse :
  Edit a.reverse b.reverse
  := by
  cases edit with
  | insertion before after c => simpa using Edit.insertion after.reverse before.reverse c
  | deletion before after c => simpa using Edit.deletion after.reverse before.reverse c
  | substitution before after c d =>
      simpa using Edit.substitution after.reverse before.reverse c d

end Edit

namespace Edits

variable {m n : Nat} {a b c : List Char}

theorem trans (first : Edits a m b) (second : Edits b n c) :
  Edits a (m + n) c
  := by
  induction second with
  | none => apply first
  | more _ last ih => exact .more ih last

/-- An edit before others. -/
theorem before (first : Edit a b) (others : Edits b n c) :
  Edits a (n + 1) c
  := by
  rw [Nat.add_comm]
  apply (Edits.more .none first).trans others

theorem symm (edits : Edits a n b) :
  Edits b n a
  := by
  induction edits with
  | none => apply Edits.none
  | more _ last ih => apply before last.symm ih

theorem cons (edits : Edits a n b) (c : Char) :
  Edits (c :: a) n (c :: b)
  := by
  induction edits with
  | none => apply Edits.none
  | more _ last ih => apply ih.more (last.cons c)

theorem reverse (edits : Edits a n b) :
  Edits a.reverse n b.reverse
  := by
  induction edits with
  | none => apply Edits.none
  | more _ last ih => apply ih.more last.reverse

theorem reverse_iff :
  Edits a.reverse n b.reverse ↔ Edits a n b
  := by
  constructor
  · intro edits
    simpa using edits.reverse
  · apply reverse

/-- A text is written character by character. -/
theorem insertions (a : List Char) :
  Edits [] a.length a
  := by
  induction a with
  | nil => apply Edits.none
  | cons c a ih => exact .more ih (.insertion [] a c)

end Edits

/-! ### Alignments -/

/-- The number of edits that align two texts from the front: their first characters are matched, or
one of them is dropped, whatever is best. -/
def alignment : List Char → List Char → Nat
  | [], b => b.length
  | c :: a, [] => (c :: a).length
  | c :: a, d :: b =>
    min (min (alignment a b + if c = d then 0 else 1) (alignment a (d :: b) + 1))
      (alignment (c :: a) b + 1)

section

variable (a b : List Char) (c d : Char)

theorem alignment_nil_left :
  alignment [] b = b.length
  := by
  rw [alignment]

theorem alignment_nil_right :
  alignment a [] = a.length
  := by
  cases a with
  | nil => rw [alignment]
  | cons c a => rw [alignment]

theorem alignment_cons_cons :
  alignment (c :: a) (d :: b)
    = min (min (alignment a b + if c = d then 0 else 1) (alignment a (d :: b) + 1))
      (alignment (c :: a) b + 1)
  := by
  rw [alignment]

theorem alignment_matched_le :
  alignment (c :: a) (d :: b) ≤ alignment a b + if c = d then 0 else 1
  := by
  rw [alignment_cons_cons]
  exact (min_le_left _ _).trans (min_le_left _ _)

theorem alignment_deleted_le :
  alignment (c :: a) b ≤ alignment a b + 1
  := by
  cases b with
  | nil => rw [alignment_nil_right, alignment_nil_right, List.length_cons]
  | cons d b =>
      rw [alignment_cons_cons]
      exact (min_le_left _ _).trans (min_le_right _ _)

theorem alignment_inserted_le :
  alignment a (d :: b) ≤ alignment a b + 1
  := by
  cases a with
  | nil => rw [alignment_nil_left, alignment_nil_left, List.length_cons]
  | cons c a =>
      rw [alignment_cons_cons]
      apply min_le_right

/-- The best way to begin an alignment is one of the three. -/
theorem alignment_cases :
  alignment (c :: a) (d :: b) = alignment a b + (if c = d then 0 else 1)
    ∨ alignment (c :: a) (d :: b) = alignment a (d :: b) + 1
    ∨ alignment (c :: a) (d :: b) = alignment (c :: a) b + 1
  := by
  rw [alignment_cons_cons]
  rcases min_choice (min (alignment a b + if c = d then 0 else 1) (alignment a (d :: b) + 1))
    (alignment (c :: a) b + 1) with best | best
  · rw [best]
    rcases min_choice (alignment a b + if c = d then 0 else 1) (alignment a (d :: b) + 1)
      with best | best
    · exact .inl best
    · exact .inr (.inl best)
  · exact .inr (.inr best)

/-- An alignment is carried out by edits. -/
theorem edits_alignment :
  Edits a (alignment a b) b
  := by
  induction a generalizing b with
  | nil =>
      rw [alignment_nil_left]
      apply Edits.insertions
  | cons c a ihA =>
      induction b with
      | nil =>
          rw [alignment_nil_right]
          apply (Edits.insertions (c :: a)).symm
      | cons d b ihB =>
          rcases alignment_cases a b c d with matched | deleted | inserted
          · rw [matched]
            split
            · next same =>
                subst same
                apply (ihA b).cons
            · apply ((ihA b).cons c).more (.substitution [] b c d)
          · rw [deleted]
            apply Edits.before (.deletion [] a c) (ihA (d :: b))
          · rw [inserted]
            apply ihB.more (.insertion [] b d)

end

/-! ### No fewer edits -/

/-- Behind a first character that is kept, the number of edits grows no more than it does without
it. -/
theorem alignment_cons_le {b b' : List Char} (near : ∀ a, alignment a b' ≤ alignment a b + 1)
    (d : Char) (a : List Char) :
  alignment a (d :: b') ≤ alignment a (d :: b) + 1
  := by
  induction a with
  | nil =>
      have lengths := near []
      rw [alignment_nil_left, alignment_nil_left] at lengths ⊢
      simpa using lengths
  | cons c a ih =>
      rcases alignment_cases a b c d with matched | deleted | inserted
      · have := alignment_matched_le a b' c d
        have := near a
        omega
      · have := alignment_deleted_le a (d :: b') c
        omega
      · have := alignment_inserted_le (c :: a) b' d
        have := near (c :: a)
        omega

theorem alignment_le_of_deletion (a b : List Char) (d : Char) :
  alignment a b ≤ alignment a (d :: b) + 1
  := by
  induction a with
  | nil =>
      rw [alignment_nil_left, alignment_nil_left, List.length_cons]
      omega
  | cons c a ih =>
      have := alignment_deleted_le a b c
      rcases alignment_cases a b c d with matched | deleted | inserted
      · omega
      · omega
      · omega

theorem alignment_le_of_substitution (a b : List Char) (d e : Char) :
  alignment a (e :: b) ≤ alignment a (d :: b) + 1
  := by
  induction a with
  | nil =>
      rw [alignment_nil_left, alignment_nil_left, List.length_cons, List.length_cons]
      omega
  | cons c a ih =>
      rcases alignment_cases a b c d with matched | deleted | inserted
      · have := alignment_matched_le a b c e
        split at this
        · omega
        · omega
      · have := alignment_deleted_le a (e :: b) c
        omega
      · have := alignment_inserted_le (c :: a) b e
        omega

/-- One edit makes an alignment longer by one at most. -/
theorem alignment_le_of_edit {b b' : List Char} (edit : Edit b b') (a : List Char) :
  alignment a b' ≤ alignment a b + 1
  := by
  cases edit with
  | insertion before after d =>
      induction before generalizing a with
      | nil => apply alignment_inserted_le
      | cons e before ih => apply alignment_cons_le ih
  | deletion before after d =>
      induction before generalizing a with
      | nil => apply alignment_le_of_deletion
      | cons e before ih => apply alignment_cons_le ih
  | substitution before after d d' =>
      induction before generalizing a with
      | nil => apply alignment_le_of_substitution
      | cons e before ih => apply alignment_cons_le ih

theorem alignment_self (a : List Char) :
  alignment a a = 0
  := by
  induction a with
  | nil => rw [alignment_nil_left, List.length_nil]
  | cons c a ih =>
      have least := alignment_matched_le a a c c
      rw [if_pos rfl, ih] at least
      apply Nat.le_zero.mp least

theorem alignment_le_of_edits {n : Nat} {a b : List Char} (edits : Edits a n b) :
  alignment a b ≤ n
  := by
  induction edits with
  | none => rw [alignment_self]
  | more _ last ih =>
      have := alignment_le_of_edit last a
      omega

/-! ### The table -/

/-- The numbers of edits that align a text with the reversed beginnings of another one: those that
end in the characters that follow the part `done`, which is given in reverse. -/
def alignments (a done : List Char) : List Char → List Nat
  | [] => []
  | s :: rest => alignment a (s :: done) :: alignments a (s :: done) rest

theorem nextEntries_alignments (c : Char) (a done rest : List Char) :
  nextEntries c rest (alignment a done :: alignments a done rest) (alignment (c :: a) done)
    = alignments (c :: a) done rest
  := by
  induction rest generalizing done with
  | nil => rfl
  | cons s rest ih =>
      rw [alignments, alignments, nextEntries, ← alignment_cons_cons, ih]

theorem nextRow_alignments (c : Char) (a shorter : List Char) :
  nextRow shorter (alignment a [] :: alignments a [] shorter) c
    = alignment (c :: a) [] :: alignments (c :: a) [] shorter
  := by
  have first : alignment a [] + 1 = alignment (c :: a) [] := by
    rw [alignment_nil_right, alignment_nil_right, List.length_cons]
  rw [nextRow, List.headD_cons, first, nextEntries_alignments]

theorem alignments_nil (done rest : List Char) :
  alignment [] done :: alignments [] done rest = List.range' done.length (rest.length + 1)
  := by
  induction rest generalizing done with
  | nil =>
      rw [alignment_nil_left]
      rfl
  | cons s rest ih =>
      rw [alignments, ih, alignment_nil_left, List.length_cons, List.length_cons,
        ← List.range'_succ]

/-- After a part of the longer text, the row holds the numbers of edits for this part. -/
theorem foldl_nextRow (longer shorter a : List Char) :
  longer.foldl (nextRow shorter) (alignment a [] :: alignments a [] shorter)
    = alignment (longer.reverse ++ a) [] :: alignments (longer.reverse ++ a) [] shorter
  := by
  induction longer generalizing a with
  | nil => rfl
  | cons c longer ih =>
      rw [List.foldl_cons, nextRow_alignments, ih, List.reverse_cons, List.append_assoc]
      rfl

theorem lastRow_eq (longer shorter : List Char) :
  lastRow longer shorter
    = alignment longer.reverse [] :: alignments longer.reverse [] shorter
  := by
  rw [lastRow, List.range_eq_range', ← List.length_nil (α := Char), ← alignments_nil,
    foldl_nextRow, List.append_nil]

theorem getLastD_alignments (a done rest : List Char) :
  (alignment a done :: alignments a done rest).getLastD 0 = alignment a (rest.reverse ++ done)
  := by
  induction rest generalizing done with
  | nil => rfl
  | cons s rest ih =>
      have others := ih (s :: done)
      rw [List.getLastD_cons] at others
      rw [List.reverse_cons, List.append_assoc, alignments, List.getLastD_cons, List.getLastD_cons,
        others]
      rfl

theorem getLastD_lastRow (longer shorter : List Char) :
  (lastRow longer shorter).getLastD 0 = alignment longer.reverse shorter.reverse
  := by
  rw [lastRow_eq, getLastD_alignments, List.append_nil]

/-- The distance is read off the table with the longer text on either side. -/
theorem distance_cases (a b : List Char) :
  distance a b = alignment a.reverse b.reverse ∨ distance a b = alignment b.reverse a.reverse
  := by
  rw [distance]
  by_cases longer : b.length ≤ a.length
  · left
    rw [if_pos longer]
    apply getLastD_lastRow
  · right
    rw [if_neg longer]
    apply getLastD_lastRow

theorem edits_distance (a b : List Char) :
  Edits a (distance a b) b
  := by
  rw [← Edits.reverse_iff]
  rcases distance_cases a b with same | swapped
  · rw [same]
    apply edits_alignment
  · rw [swapped]
    apply (edits_alignment _ _).symm

theorem distance_le_of_edits {n : Nat} {a b : List Char} (edits : Edits a n b) :
  distance a b ≤ n
  := by
  rcases distance_cases a b with same | swapped
  · rw [same]
    apply alignment_le_of_edits edits.reverse
  · rw [swapped]
    apply alignment_le_of_edits edits.symm.reverse

/-- The edit distance is the least number of edits that turn one text into another one.  It is
symmetric, is zero for equal texts only, and is never longer than a way over a third text. -/
theorem distance_isLeast_edits (a b c : List Char) :
  IsLeast {n | Edits a n b} (distance a b)
    ∧ distance a b = distance b a
    ∧ (distance a b = 0 ↔ a = b)
    ∧ distance a c ≤ distance a b + distance b c
  := by
  refine ⟨⟨edits_distance a b, fun n => distance_le_of_edits⟩, ?_, ?_, ?_⟩
  · apply le_antisymm
    · apply distance_le_of_edits (edits_distance b a).symm
    · apply distance_le_of_edits (edits_distance a b).symm
  · constructor
    · intro zero
      have edits := edits_distance a b
      rw [zero] at edits
      cases edits
      rfl
    · rintro rfl
      apply Nat.le_zero.mp (distance_le_of_edits .none)
  · apply distance_le_of_edits
    apply (edits_distance a b).trans (edits_distance b c)

/-- Two characters are replaced and one is added. -/
example : distance "kitten".toList "sitting".toList = 3 := by
  decide

end Toolshed.Query
