import Toolshed.Text.Piece
import Mathlib.Data.List.Basic
import Mathlib.Data.List.TakeWhile
import Mathlib.Tactic.Use

/-!
# Cutting texts

Where the first characters of a text pass a test and the next one does not, that is where a run of
characters that pass it ends.  A text is cut at a character where that occurs first.  Texts are in
the order of their beginnings.
-/

namespace Toolshed.Text

section

variable {p : Char → Bool} {run rest : List Char}

/-- A text does not begin with a character that passes a test. -/
def Stops (p : Char → Bool) (rest : List Char) : Prop :=
  ∀ c ∈ rest.head?, p c = false

theorem stops_nil :
  Stops p []
  := by
  intro c first
  cases first

theorem stops_cons {c : Char} (h : p c = false) :
  Stops p (c :: rest)
  := by
  intro d first
  rw [← Option.some.inj first, h]

theorem takeWhile_of_stops (h : Stops p rest) :
  rest.takeWhile p = []
  := by
  cases rest with
  | nil => rfl
  | cons c rest =>
      rw [List.takeWhile_cons, h c rfl]
      rfl

theorem dropWhile_of_stops (h : Stops p rest) :
  rest.dropWhile p = rest
  := by
  cases rest with
  | nil => rfl
  | cons c rest =>
      rw [List.dropWhile_cons, h c rfl]
      rfl

theorem takeWhile_append_stops (all : ∀ c ∈ run, p c = true) (h : Stops p rest) :
  (run ++ rest).takeWhile p = run
  := by
  rw [List.takeWhile_append_of_pos all, takeWhile_of_stops h, List.append_nil]

theorem dropWhile_append_stops (all : ∀ c ∈ run, p c = true) (h : Stops p rest) :
  (run ++ rest).dropWhile p = rest
  := by
  rw [List.dropWhile_append_of_pos all, dropWhile_of_stops h]

end

theorem afterStart?_eq_some {cs start rest : List Char} :
  afterStart? start cs = some rest ↔ cs = start ++ rest
  := by
  induction start generalizing cs with
  | nil =>
      rw [afterStart?, Option.some.injEq]
      rfl
  | cons p start ih =>
      rcases cs with _ | ⟨c, cs⟩
      · simp [afterStart?]
      · rw [afterStart?, List.cons_append, List.cons.injEq]
        split
        · next same => simp only [ih, same, true_and]
        · next other => simp [Ne.symm other]

theorem cutAt?_eq_some {mark : Char} {cs before after : List Char} :
  cutAt? mark cs = some (before, after) ↔ cs = before ++ mark :: after ∧ mark ∉ before
  := by
  induction cs generalizing before with
  | nil => simp [cutAt?]
  | cons c cs ih =>
      rw [cutAt?]
      split
      · next same =>
          rcases before with _ | ⟨first, before⟩
          · simp [same]
          · simp only [Option.some.injEq, Prod.mk.injEq, reduceCtorEq, false_and, false_iff,
              List.cons_append, List.cons.injEq]
            rintro ⟨⟨rfl, -⟩, other⟩
            apply other
            rw [same]
            apply List.mem_cons_self
      · next other =>
          rw [Option.map_eq_some_iff]
          rcases before with _ | ⟨first, before⟩
          · simp [other]
          · constructor
            · rintro ⟨⟨before', after'⟩, cut, same⟩
              cases same
              obtain ⟨rfl, free⟩ := ih.mp cut
              simp [free, Ne.symm other]
            · rintro ⟨same, free⟩
              obtain ⟨rfl, rfl⟩ := List.cons.inj same
              use (before, after)
              constructor
              · apply ih.mpr
                use rfl
                intro among
                apply free (List.mem_cons_of_mem _ among)
              · rfl

/-- A character of a text stands in its back or in its front. -/
theorem exists_of_append_eq {front back before after : List Char} {c : Char}
    (same : front ++ back = before ++ c :: after) :
  (∃ between, before = front ++ between ∧ back = between ++ c :: after)
    ∨ ∃ between, front = before ++ c :: between ∧ after = between ++ back
  := by
  rcases List.append_eq_append_iff.mp same with ⟨between, rfl, later⟩ | ⟨between, rfl, later⟩
  · left
    use between
  · rcases between with _ | ⟨d, between⟩
    · left
      use []
      simpa using later.symm
    · obtain ⟨rfl, rfl⟩ := List.cons.inj later
      right
      use between
      simp

/-- A text has one first character of a kind. -/
theorem eq_of_first {kind : Char → Prop} {front front' rest rest' : List Char} {c c' : Char}
    (same : front ++ c :: rest = front' ++ c' :: rest') (free : ∀ d ∈ front, ¬ kind d)
    (free' : ∀ d ∈ front', ¬ kind d) (here : kind c) (here' : kind c') :
  front = front' ∧ c = c' ∧ rest = rest'
  := by
  induction front generalizing front' with
  | nil =>
      rcases front' with _ | ⟨d, front'⟩
      · simpa using same
      · cases free' d List.mem_cons_self (by rw [← (List.cons.inj same).1]; apply here)
  | cons d front ih =>
      rcases front' with _ | ⟨d', front'⟩
      · cases free d List.mem_cons_self (by rw [(List.cons.inj same).1]; apply here')
      · obtain ⟨rfl, same'⟩ := List.cons.inj same
        rw [List.forall_mem_cons] at free free'
        obtain ⟨rfl, sames⟩ := ih same' free.2 free'.2
        use rfl

/-- Within a run of one character, no other one stands. -/
theorem eq_of_replicate_append {c d : Char} {count : Nat} {front back rest : List Char}
    (same : List.replicate count c ++ back = front ++ d :: rest) (short : front.length < count) :
  d = c
  := by
  have here := congrArg (·[front.length]?) same
  rw [List.getElem?_append_left (by simpa using short), List.getElem?_replicate, if_pos short,
    List.getElem?_append_right (Nat.le_refl _), Nat.sub_self] at here
  apply (Option.some.inj here).symm

/-- A run that is longer than what stands around it, behind another character, has one place. -/
theorem eq_of_long_run {c d d' : Char} {count : Nat} {front front' back back' : List Char}
    (long : front.length + back.length < count) (other : d ≠ c) (other' : d' ≠ c)
    (same : front ++ d :: (List.replicate count c ++ back)
      = front' ++ d' :: (List.replicate count c ++ back')) :
  front = front' ∧ d = d' ∧ back = back'
  := by
  rcases exists_of_append_eq same with ⟨between, rfl, after⟩ | ⟨between, rfl, after⟩
  · rcases between with _ | ⟨e, between⟩
    · obtain ⟨rfl, after'⟩ := List.cons.inj after
      use (List.append_nil front).symm, rfl
      apply List.append_cancel_left after'
    · have after' : List.replicate count c ++ back
          = between ++ d' :: (List.replicate count c ++ back') := (List.cons.inj after).2
      have lengths := congrArg List.length after'
      simp only [List.length_append, List.length_replicate, List.length_cons] at lengths
      cases other' (eq_of_replicate_append after' (by omega))
  · simp only [List.length_append, List.length_cons] at long
    cases other (eq_of_replicate_append after (by omega))

theorem cutAll_eq_splitOn (mark : Char) (cs : List Char) :
  cutAll mark cs = cs.splitOn mark
  := by
  rw [List.splitOn]
  induction cs with
  | nil => rfl
  | cons c cs ih =>
      rw [cutAll, ih, List.splitOnP_cons_eq_if_modifyHead]
      rcases parts : cs.splitOnP (· == mark) with _ | ⟨first, others⟩
      · cases List.splitOnP_ne_nil _ _ parts
      · simp only [beq_iff_eq, List.modifyHead_cons]

/-- What stands in front of a text without the character at which it is cut goes into its first
part. -/
theorem cutAt?_append {mark : Char} {front : List Char} (free : mark ∉ front) (cs : List Char) :
  cutAt? mark (front ++ cs)
    = (cutAt? mark cs).map fun (before, after) => (front ++ before, after)
  := by
  induction front with
  | nil => simp
  | cons c front ih =>
      rw [List.mem_cons, not_or] at free
      rw [List.cons_append, cutAt?, if_neg (Ne.symm free.1), ih free.2, Option.map_map]
      rfl

theorem cutAll_append {mark : Char} {front first : List Char} {others : List (List Char)}
    (free : mark ∉ front) {cs : List Char} (parts : cutAll mark cs = first :: others) :
  cutAll mark (front ++ cs) = (front ++ first) :: others
  := by
  induction front with
  | nil => apply parts
  | cons c front ih =>
      rw [List.mem_cons, not_or] at free
      rw [List.cons_append, cutAll, ih free.2]
      apply if_neg (Ne.symm free.1)

theorem exists_cutAll_eq (mark : Char) (cs : List Char) :
  ∃ first others, cutAll mark cs = first :: others
  := by
  apply List.exists_cons_of_ne_nil
  rw [cutAll_eq_splitOn]
  apply List.splitOn_ne_nil

/-- The parts of a cut text do not contain the character at which it is cut. -/
theorem not_mem_of_mem_cutAll {mark : Char} {cs part : List Char} (h : part ∈ cutAll mark cs) :
  mark ∉ part
  := by
  induction cs generalizing part with
  | nil =>
      rw [List.mem_singleton.mp h]
      apply List.not_mem_nil
  | cons c cs ih =>
      rw [cutAll] at h
      split at h
      · rw [List.mem_singleton.mp h]
        apply List.not_mem_nil
      · next first others parts =>
          rw [parts] at ih
          split at h
          · rcases List.mem_cons.mp h with rfl | h
            · apply List.not_mem_nil
            · apply ih h
          · next other =>
              rcases List.mem_cons.mp h with rfl | h
              · rw [List.mem_cons, not_or]
                use Ne.symm other
                apply ih List.mem_cons_self
              · apply ih (List.mem_cons_of_mem _ h)

/-- The first part of a cut text ends with the text, or where it is cut. -/
theorem exists_cutAll_cons (mark : Char) (cs : List Char) :
  ∃ first others back, cutAll mark cs = first :: others ∧ cs = first ++ back ∧ mark ∉ first
    ∧ ∀ c ∈ back.head?, c = mark
  := by
  obtain ⟨first, others, parts⟩ := exists_cutAll_eq mark cs
  have free : mark ∉ first := by
    apply not_mem_of_mem_cutAll
    rw [parts]
    apply List.mem_cons_self
  suffices ∃ back, cs = first ++ back ∧ ∀ c ∈ back.head?, c = mark by
    obtain ⟨back, whole, ends⟩ := this
    use first, others, back
  clear free
  induction cs generalizing first others with
  | nil =>
      cases parts
      use []
      simp
  | cons c cs ih =>
      obtain ⟨first', others', parts'⟩ := exists_cutAll_eq mark cs
      obtain ⟨back, rfl, ends⟩ := ih first' others' parts'
      rw [cutAll, parts'] at parts
      simp only at parts
      split at parts
      · next same =>
          cases parts
          use c :: (first' ++ back), rfl
          simpa using same
      · cases parts
        use back, rfl

theorem head?_cutAll {mark : Char} {line back : List Char} (free : mark ∉ line)
    (ends : ∀ c ∈ back.head?, c = mark) :
  (cutAll mark (line ++ back)).head? = some line
  := by
  obtain ⟨first, others, parts⟩ := exists_cutAll_eq mark back
  have empty : first = [] := by
    rcases back with _ | ⟨c, back⟩
    · cases parts
      rfl
    · obtain ⟨first', others', parts'⟩ := exists_cutAll_eq mark back
      rw [cutAll, parts', ends c rfl] at parts
      simp only [if_true, List.cons.injEq] at parts
      apply parts.1.symm
  rw [cutAll_append free parts, empty, List.append_nil]
  rfl

/-- The parts of a cut text after the first one stand behind the character at which it is cut. -/
theorem mem_tail_cutAll {mark : Char} {cs line : List Char} :
  line ∈ (cutAll mark cs).tail ↔ ∃ front back, cs = front ++ mark :: (line ++ back)
    ∧ mark ∉ line ∧ ∀ c ∈ back.head?, c = mark
  := by
  induction cs with
  | nil => simp [cutAll]
  | cons c cs ih =>
      obtain ⟨first, others, back, parts, whole, free, ends⟩ := exists_cutAll_cons mark cs
      rw [parts, List.tail_cons] at ih
      by_cases same : c = mark
      · have tail : (cutAll mark (c :: cs)).tail = first :: others := by
          rw [cutAll, parts]
          simp [same]
        rw [tail, List.mem_cons, ih]
        constructor
        · rintro (rfl | ⟨front, back', rfl, free', ends'⟩)
          · refine ⟨[], back, ?_, free, ends⟩
            rw [same, whole]
            rfl
          · exact ⟨c :: front, back', rfl, free', ends'⟩
        · rintro ⟨front, back', split, free', ends'⟩
          rcases front with _ | ⟨f, front⟩
          · left
            obtain ⟨-, rfl⟩ := List.cons.inj split
            have head := head?_cutAll free' ends'
            rw [parts] at head
            apply (Option.some.inj head).symm
          · right
            obtain ⟨-, rfl⟩ := List.cons.inj split
            exact ⟨front, back', rfl, free', ends'⟩
      · have tail : (cutAll mark (c :: cs)).tail = others := by
          rw [cutAll, parts]
          simp [same]
        rw [tail, ih]
        constructor
        · rintro ⟨front, back', rfl, rest⟩
          exact ⟨c :: front, back', rfl, rest⟩
        · rintro ⟨front, back', split, rest⟩
          rcases front with _ | ⟨f, front⟩
          · cases same (List.cons.inj split).1
          · obtain ⟨-, rfl⟩ := List.cons.inj split
            exact ⟨front, back', rfl, rest⟩

theorem cutAll_cons_self (mark : Char) (cs : List Char) :
  cutAll mark (mark :: cs) = [] :: cutAll mark cs
  := by
  obtain ⟨first, others, parts⟩ := exists_cutAll_eq mark cs
  rw [cutAll, parts]
  apply if_pos rfl

/-- The parts of a text that is cut somewhere end with those of what stands behind. -/
theorem exists_cutAll_append (mark : Char) (front back : List Char) :
  ∃ first others, cutAll mark (front ++ mark :: back) = first :: others ++ cutAll mark back
  := by
  induction front with
  | nil =>
      use [], []
      apply cutAll_cons_self
  | cons c front ih =>
      obtain ⟨first, others, parts⟩ := ih
      rw [List.cons_append, cutAll, parts, List.cons_append]
      dsimp only
      split
      · use [], first :: others
        rfl
      · use c :: first, others
        rfl

/-- The last part of a cut text is the one behind the last cut, or the text itself if it is not cut
anywhere. -/
theorem lastPart_eq_iff {mark : Char} {cs part : List Char} :
  lastPart mark cs = part ↔ mark ∉ part ∧ (cs = part ∨ ∃ front, cs = front ++ mark :: part)
  := by
  have whole {cs : List Char} (free : mark ∉ cs) : lastPart mark cs = cs := by
    have parts : cutAll mark (cs ++ []) = [cs ++ []] := by
      apply cutAll_append free
      rfl
    rw [List.append_nil] at parts
    rw [lastPart, parts]
    rfl
  have behind (front back : List Char) :
      lastPart mark (front ++ mark :: back) = lastPart mark back := by
    obtain ⟨first, others, parts⟩ := exists_cutAll_append mark front back
    obtain ⟨first', others', parts'⟩ := exists_cutAll_eq mark back
    rw [lastPart, parts, lastPart, parts', List.getLast?_append_cons]
  constructor
  · rintro rfl
    by_cases among : mark ∈ cs
    · obtain ⟨after, before, reversed, free⟩ :=
        List.eq_append_cons_of_mem (List.mem_reverse.mpr among)
      obtain rfl : cs = before.reverse ++ mark :: after.reverse := by
        rw [← List.reverse_reverse cs, reversed]
        simp
      rw [← List.mem_reverse] at free
      rw [behind, whole free]
      use free
      right
      use before.reverse
    · rw [whole among]
      use among
      left
      rfl
  · rintro ⟨free, rfl | ⟨front, rfl⟩⟩
    · apply whole free
    · rw [behind, whole free]

/-- The parts of a cut text stand behind the character at which it is cut, or come first. -/
theorem mem_cutAll {mark : Char} {cs line : List Char} :
  line ∈ cutAll mark cs ↔ ∃ front back, mark :: cs = front ++ mark :: (line ++ back)
    ∧ mark ∉ line ∧ ∀ c ∈ back.head?, c = mark
  := by
  rw [← mem_tail_cutAll, cutAll_cons_self, List.tail_cons]

/-- Of two places where a text is cut, the first one lies in front of the other. -/
theorem exists_append_of_cut {mark : Char} {front back rest rest' : List Char} (free : mark ∉ front)
    (same : back ++ mark :: rest = front ++ mark :: rest') :
  ∃ between, back = front ++ between ∧ mark :: rest' = between ++ mark :: rest
    ∧ ∀ c ∈ between.head?, c = mark
  := by
  rcases List.append_eq_append_iff.mp same with ⟨between, rfl, after⟩ | ⟨between, rfl, after⟩
  · rcases between with _ | ⟨c, between⟩
    · use []
      simpa using after.symm
    · cases free (by rw [(List.cons.inj after).1]; simp)
  · use between, rfl, after
    rcases between with _ | ⟨c, between⟩
    · simp
    · simp [(List.cons.inj after).1]

theorem suffix_of_cons_eq {mark : Char} {whole between rest : List Char}
    (same : mark :: whole = between ++ mark :: rest) :
  rest <:+ whole
  := by
  rcases between with _ | ⟨c, between⟩
  · obtain ⟨-, rfl⟩ := List.cons.inj same
    apply List.suffix_rfl
  · obtain ⟨-, rfl⟩ := List.cons.inj same
    apply (List.suffix_cons mark rest).trans (List.suffix_append between _)

/-- Where a text is cut last, no other cut comes after it. -/
theorem exists_append_of_last_cut {mark : Char} {front back rest rest' : List Char}
    (free : mark ∉ rest) (same : back ++ mark :: rest = front ++ mark :: rest') :
  ∃ between, back = front ++ between ∧ ∀ c ∈ between.head?, c = mark
  := by
  rcases List.append_eq_append_iff.mp same with ⟨between, rfl, after⟩ | ⟨between, rfl, after⟩
  · rcases between with _ | ⟨c, between⟩
    · use []
      simp
    · cases free (by rw [(List.cons.inj after).2]; simp)
  · use between, rfl
    rcases between with _ | ⟨c, between⟩
    · simp
    · simp [(List.cons.inj after).1]

/-- Texts with beginnings of the same length are in the order of the beginnings, and those with the
same one in the order of what follows. -/
theorem append_lt_append_iff {xs ys us vs : List Char} (same : xs.length = ys.length) :
  xs ++ us < ys ++ vs ↔ xs < ys ∨ xs = ys ∧ us < vs
  := by
  induction xs generalizing ys with
  | nil =>
      obtain rfl := List.length_eq_zero_iff.mp same.symm
      simp
  | cons x xs ih =>
      rcases ys with _ | ⟨y, ys⟩
      · cases same
      · rw [List.length_cons, List.length_cons, Nat.add_right_cancel_iff] at same
        rw [List.cons_append, List.cons_append, List.cons_lt_cons_iff, ih same,
          List.cons_lt_cons_iff, List.cons.injEq]
        tauto

end Toolshed.Text
