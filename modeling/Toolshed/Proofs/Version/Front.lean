import Toolshed.Proofs.Text.Blanks
import Toolshed.Proofs.Version.Order

/-!
# What stands in front of a version

Blanks and the letters `v` in front of a version do not count.  With an equals sign before them they
do: the first number is not one any more and weighs nothing, and the rest of the version stays as it
is.
-/

namespace Toolshed.Version

/-- The version of a text in front of which nothing stands. -/
def ofBare (bare : List Char) : Version :=
  let core := bare.takeWhile (· != '+')
  match Text.cutAt? '-' core with
  | some (numbers, suffix) =>
    ⟨(Text.cutAll '.' numbers).map weight, if suffix.isEmpty then none else some suffix⟩
  | none => ⟨(Text.cutAll '.' core).map weight, none⟩

/-- The letters that do not count in front of a version. -/
def isFrontLetter (c : Char) : Bool :=
  c == 'v' || c == 'V'

theorem ofText_eq_ofBare (text : String) :
  ofText text = ofBare ((Text.trimBoth text.toList).dropWhile isFrontLetter)
  := by
  rfl

/-- What stands in front of a version and ends none of its parts belongs to the first number. -/
theorem ofBare_append {front : List Char} (free : ∀ mark ∈ ['+', '-', '.'], mark ∉ front)
    (cs : List Char) :
  ∃ first others suffix, ofBare cs = ⟨weight first :: others, suffix⟩
    ∧ ofBare (front ++ cs) = ⟨weight (front ++ first) :: others, suffix⟩
  := by
  have whole : ∀ c ∈ front, (c != '+') = true := by
    intro c among
    rw [bne_iff_ne]
    rintro rfl
    apply free _ (by decide) among
  rw [ofBare, ofBare, List.takeWhile_append_of_pos whole, Text.cutAt?_append (free _ (by decide))]
  rcases Text.cutAt? '-' (cs.takeWhile (· != '+')) with _ | ⟨numbers, suffix⟩
  · obtain ⟨first, others, parts⟩ := Text.exists_cutAll_eq '.' (cs.takeWhile (· != '+'))
    use first, others.map weight, none
    dsimp only [Option.map_none]
    rw [parts, Text.cutAll_append (free _ (by decide)) parts]
    use rfl
    rfl
  · obtain ⟨first, others, parts⟩ := Text.exists_cutAll_eq '.' numbers
    use first, others.map weight, if suffix.isEmpty then none else some suffix
    dsimp only [Option.map_some]
    rw [parts, Text.cutAll_append (free _ (by decide)) parts]
    use rfl
    rfl

theorem weight_cons {c : Char} (other : c.isDigit = false) (cs : List Char) :
  weight (c :: cs) = 0
  := by
  rw [weight, List.takeWhile_cons, other]
  rfl

/-- What a text has in front of its version is made of blanks and letters that do not count. -/
theorem exists_front (cs : List Char) :
  ∃ front, Text.trimRight cs = front ++ (Text.trimBoth cs).dropWhile isFrontLetter
    ∧ ∀ c ∈ front, Text.isBlank c = true ∨ isFrontLetter c = true
  := by
  have blank : ∀ c ∈ cs.takeWhile Text.isBlank, Text.isBlank c = true := by
    intro c among
    apply List.mem_takeWhile_imp among
  have split : Text.trimRight cs = if (Text.trimBoth cs).isEmpty then
      Text.trimRight (cs.takeWhile Text.isBlank)
    else cs.takeWhile Text.isBlank ++ Text.trimBoth cs := by
    rw [Text.trimBoth, ← Text.trimRight_append, Text.trimLeft, List.takeWhile_append_dropWhile]
  by_cases empty : (Text.trimBoth cs).isEmpty = true
  · use []
    rw [split, if_pos empty, Text.trimRight_of_blank blank, List.isEmpty_iff.mp empty]
    use rfl
    apply List.forall_mem_nil
  · use cs.takeWhile Text.isBlank ++ (Text.trimBoth cs).takeWhile isFrontLetter
    rw [split, if_neg empty, List.append_assoc, List.takeWhile_append_dropWhile]
    use rfl
    intro c among
    rcases List.mem_append.mp among with among | among
    · left
      apply blank c among
    · right
      apply List.mem_takeWhile_imp among

/-- With an equals sign in front, a version does not come later. -/
theorem atMost_equalsSign (text : String) :
  AtMost ("=" ++ text) text
  := by
  obtain ⟨front, split, uncounted⟩ := exists_front text.toList
  have free : ∀ mark ∈ ['+', '-', '.'], mark ∉ '=' :: front := by
    intro mark known
    have counted : mark ≠ '=' ∧ Text.isBlank mark = false ∧ isFrontLetter mark = false := by
      simp only [List.mem_cons, List.not_mem_nil, or_false] at known
      rcases known with rfl | rfl | rfl
      · decide
      · decide
      · decide
    rw [List.mem_cons, not_or]
    use counted.1
    intro among
    rcases uncounted mark among with blank | letter
    · rw [blank] at counted
      cases counted.2.1
    · rw [letter] at counted
      cases counted.2.2
  obtain ⟨first, others, suffix, whole, fronted⟩ :=
    ofBare_append free ((Text.trimBoth text.toList).dropWhile isFrontLetter)
  have signed : ofText ("=" ++ text) = ⟨0 :: others, suffix⟩ := by
    have trimmed : Text.trimBoth ("=" ++ text).toList = '=' :: Text.trimRight text.toList := by
      rw [String.toList_append]
      change Text.trimRight (Text.trimLeft ('=' :: text.toList)) = _
      rw [Text.trimLeft, Text.dropWhile_of_stops (Text.stops_cons (by decide)),
        Text.trimRight_cons (by decide)]
    rw [ofText_eq_ofBare, trimmed, split, Text.dropWhile_of_stops (Text.stops_cons (by decide)),
      ← List.cons_append, fronted, List.cons_append, weight_cons (by decide)]
  have rest : orderNumbers others others = .eq := Std.ReflCmp.compare_self
  have suffixes : orderSuffix suffix suffix = .eq := Std.ReflCmp.compare_self
  rw [AtMost, compareTexts, signed, ofText_eq_ofBare, whole, order, orderNumbers_eq_then]
  dsimp only [List.headD_cons, List.tail_cons]
  rw [rest, suffixes, Ordering.then_eq, Ordering.then_eq, Nat.isLE_compare]
  apply Nat.zero_le

end Toolshed.Version
