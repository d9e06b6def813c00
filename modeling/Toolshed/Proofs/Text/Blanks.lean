import Toolshed.Proofs.Text.Runs

/-!
# Trimmed texts

A text is trimmed when neither end of it is blank.  Trimming it leaves it as it is.
-/

namespace Toolshed.Text

/-- The characters at the front of a text that pass a test are gone once they are dropped. -/
theorem stops_dropWhile (p : Char → Bool) (cs : List Char) :
  Stops p (cs.dropWhile p)
  := by
  intro c first
  have fails := List.head?_dropWhile_not p cs
  rw [first] at fails
  apply fails

/-- What stops at the front stops there, too, when the end is cut off. -/
theorem Stops.of_start {p : Char → Bool} {cs front : List Char} (h : Stops p cs)
    (start : front <+: cs) :
  Stops p front
  := by
  intro c first
  apply h
  obtain ⟨rest, rfl⟩ := start
  rcases front with _ | ⟨d, front⟩
  · cases first
  · apply first

theorem trimLeft_trimLeft (cs : List Char) :
  trimLeft (trimLeft cs) = trimLeft cs
  := by
  apply dropWhile_of_stops
  apply stops_dropWhile

theorem length_trimLeft_le (cs : List Char) :
  (trimLeft cs).length ≤ cs.length
  := by
  apply (List.dropWhile_sublist isBlank).length_le

theorem trimBoth_of_stops {cs : List Char} (front : Stops isBlank cs)
    (back : Stops isBlank cs.reverse) :
  trimBoth cs = cs
  := by
  rw [trimBoth, trimLeft, dropWhile_of_stops front, trimRight, dropWhile_of_stops back,
    List.reverse_reverse]

theorem trimBoth_of_visible {cs : List Char} (visible : ∀ c ∈ cs, isBlank c = false) :
  trimBoth cs = cs
  := by
  apply trimBoth_of_stops
  · intro c first
    apply visible c (List.mem_of_mem_head? first)
  · intro c first
    apply visible c (List.mem_reverse.mp (List.mem_of_mem_head? first))

theorem trimBoth_trimBoth (cs : List Char) :
  trimBoth (trimBoth cs) = trimBoth cs
  := by
  apply trimBoth_of_stops
  · apply (stops_dropWhile isBlank cs).of_start
    rw [trimBoth, trimRight, ← List.reverse_suffix, List.reverse_reverse]
    apply List.dropWhile_suffix
  · rw [trimBoth, trimRight, List.reverse_reverse]
    apply stops_dropWhile

/-- Blanks at the end of a text are cut off past where it is put together, if its end has nothing
else. -/
theorem trimRight_append (front cs : List Char) :
  trimRight (front ++ cs)
    = if (trimRight cs).isEmpty then trimRight front else front ++ trimRight cs
  := by
  rw [trimRight, trimRight, List.reverse_append, List.dropWhile_append, List.isEmpty_reverse]
  split
  · rfl
  · rw [List.reverse_append, List.reverse_reverse]

theorem trimRight_cons {c : Char} (visible : isBlank c = false) (cs : List Char) :
  trimRight (c :: cs) = c :: trimRight cs
  := by
  have single : trimRight [c] = [c] := by
    rw [trimRight, List.reverse_singleton, dropWhile_of_stops (stops_cons visible)]
    rfl
  rw [← List.singleton_append, trimRight_append, single]
  split
  · next empty => rw [List.isEmpty_iff.mp empty]
  · rfl

theorem trimRight_of_blank {cs : List Char} (blank : ∀ c ∈ cs, isBlank c = true) :
  trimRight cs = []
  := by
  rw [trimRight, List.reverse_eq_nil_iff, List.dropWhile_eq_nil_iff]
  intro c among
  apply blank c (List.mem_reverse.mp among)

/-- Blanks around a text are trimmed with it. -/
theorem trimBoth_surround {before after : List Char} (blank : ∀ c ∈ before, isBlank c = true)
    (blank' : ∀ c ∈ after, isBlank c = true) (cs : List Char) :
  trimBoth (before ++ cs ++ after) = trimBoth cs
  := by
  rw [trimBoth, trimBoth, trimLeft, List.append_assoc, List.dropWhile_append_of_pos blank,
    List.dropWhile_append]
  split
  · next empty =>
      rw [trimLeft, List.isEmpty_iff.mp empty, List.dropWhile_eq_nil_iff.mpr blank']
  · rw [trimRight_append, trimRight_of_blank blank']
    rfl

/-- A text whose front and whose back are visible is trimmed, whatever stands between them. -/
theorem trimBoth_of_ends {front back : List Char} (visible : ∀ c ∈ front, isBlank c = false)
    (visible' : ∀ c ∈ back, isBlank c = false) (nonempty : front ≠ []) (nonempty' : back ≠ [])
    (middle : List Char) :
  trimBoth (front ++ (middle ++ back)) = front ++ (middle ++ back)
  := by
  apply trimBoth_of_stops
  · intro c first
    rw [List.head?_append_of_ne_nil front nonempty] at first
    apply visible c (List.mem_of_mem_head? first)
  · intro c first
    rw [← List.append_assoc, List.reverse_append,
      List.head?_append_of_ne_nil _ (List.reverse_ne_nil_iff.mpr nonempty')] at first
    apply visible' c (List.mem_reverse.mp (List.mem_of_mem_head? first))

theorem isBlank_of_isDigit {c : Char} (digit : c.isDigit = true) :
  isBlank c = false
  := by
  rw [Char.isDigit, Bool.and_eq_true, decide_eq_true_eq, decide_eq_true_eq] at digit
  have least : 48 ≤ c.toNat := digit.1
  have most : c.toNat ≤ 57 := digit.2
  simp [isBlank, ClassTable.holds, blankTable]
  omega

end Toolshed.Text
