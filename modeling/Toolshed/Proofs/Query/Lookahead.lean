import Toolshed.Proofs.Query.Cursor
import Toolshed.Proofs.Text.Blanks

/-!
# Looking ahead along a cursor

What comes next in the text of a query is the same along a cursor as at the front of what is left,
whatever blanks stand before it.  Looking ahead always ends; it moves the cursor past the blanks,
and past what is consumed.
-/

namespace Toolshed.Query

/-! ### Blanks in front -/

theorem afterKeyword?_trimLeft (keyword cs : List Char) :
  afterKeyword? keyword (Text.trimLeft cs) = afterKeyword? keyword cs
  := by
  rw [afterKeyword?_eq, Text.trimLeft_trimLeft, afterKeyword?_eq]

theorem nextWord_trimLeft (cs : List Char) :
  nextWord (Text.trimLeft cs) = nextWord cs
  := by
  rw [nextWord, Text.trimLeft_trimLeft, nextWord]

theorem negationFollows_trimLeft (cs : List Char) :
  negationFollows (Text.trimLeft cs) = negationFollows cs
  := by
  rw [negationFollows, nextWord_trimLeft, negationFollows]

theorem operandFollows_trimLeft (cs : List Char) :
  operandFollows (Text.trimLeft cs) = operandFollows cs
  := by
  rw [operandFollows_eq, Text.trimLeft_trimLeft, nextWord_trimLeft, operandFollows_eq]

theorem afterClosing_trimLeft (cs : List Char) :
  afterClosing (Text.trimLeft cs) = afterClosing cs
  := by
  rw [afterClosing, Text.trimLeft_trimLeft, afterClosing]

/-! ### Consuming -/

variable {chars : List Char} {start middle stop : Nat}

/-- More than blanks is consumed on the way from one position to another. -/
def Consumes (chars : List Char) (start stop : Nat) : Prop :=
  (chars.drop stop).length < (Text.trimLeft (chars.drop start)).length

theorem Consumes.lt (consumes : Consumes chars start stop) :
  start < stop
  := by
  have := Nat.lt_of_lt_of_le consumes (Text.length_trimLeft_le _)
  simp only [List.length_drop] at this
  omega

theorem Consumes.of_skipped (skipped : chars.drop middle = Text.trimLeft (chars.drop start))
    (consumes : Consumes chars middle stop) :
  Consumes chars start stop
  := by
  rwa [Consumes, skipped, Text.trimLeft_trimLeft] at consumes

theorem Consumes.trans_le (consumes : Consumes chars start middle) (forward : middle ≤ stop) :
  Consumes chars start stop
  := by
  apply Nat.lt_of_le_of_lt _ consumes
  simp only [List.length_drop]
  omega

theorem drop_eq_cons {c : Char} {cs : List Char} (rest : chars.drop start = c :: cs) :
  start < chars.length ∧ chars.drop (start + 1) = cs
  := by
  constructor
  · have := congrArg List.length rest
    rw [List.length_drop, List.length_cons] at this
    omega
  · rw [← List.drop_drop, rest]
    rfl

/-! ### Looking ahead -/

section

variable (inside : start ≤ chars.length)

include inside

theorem ends_skipWhile (p : Char → Bool) :
  Ends chars (Characters.skipWhile chars p) start fun _ stop =>
    chars.drop stop = (chars.drop start).dropWhile p
  := by
  generalize rest : chars.drop start = cs
  induction cs generalizing start with
  | nil =>
      rw [Characters.skipWhile]
      apply Ends.next?
      rw [rest]
      apply Ends.pure inside rest
  | cons c cs ih =>
      obtain ⟨more, rest'⟩ := drop_eq_cons rest
      rw [Characters.skipWhile]
      apply Ends.next?
      rw [rest, List.head?_cons, Option.any_some]
      by_cases h : p c = true
      · rw [if_pos h, List.dropWhile_cons_of_pos h]
        apply (ends_advance more).bind
        rintro _ _ - inside' rfl
        apply ih inside' rest'
      · rw [if_neg h, List.dropWhile_cons_of_neg h]
        apply Ends.pure inside rest

theorem ends_skipBlanks :
  Ends chars (Characters.skipBlanks chars) start fun _ stop =>
    chars.drop stop = Text.trimLeft (chars.drop start)
  := by
  apply (ends_skipWhile inside Text.isBlank).called
  rintro ⟨⟩

theorem ends_word :
  Ends chars (Characters.word chars) start fun answer stop =>
    answer = nextWord (chars.drop start) ∧ chars.drop stop = Text.trimLeft (chars.drop start)
  := by
  apply Ends.called
  · apply (ends_skipBlanks inside).bind
    intro _ first _ inside' skipped
    apply Ends.position
    have cut : chars.drop first = chars.drop first ++ chars.drop chars.length := by
      rw [List.drop_length, List.append_nil]
    apply (ends_slice inside' le_rfl cut inside').bind
    rintro _ _ - - ⟨rfl, rfl⟩
    apply Ends.pure inside'
    rw [skipped, nextWord]
    use rfl
  · rintro ⟨⟩

/-- A keyword is consumed where it is the next word. -/
theorem ends_keyword {letters : List Char} (nonempty : letters ≠ []) :
  Ends chars (Characters.keyword chars letters) start fun found stop =>
    if found then
      afterKeyword? letters (chars.drop start) = some (chars.drop stop) ∧ Consumes chars start stop
    else
      afterKeyword? letters (chars.drop start) = none
        ∧ chars.drop stop = Text.trimLeft (chars.drop start)
  := by
  apply Ends.called
  · apply (ends_skipBlanks inside).bind
    intro _ first _ inside' skipped
    apply Ends.position
    rw [afterKeyword?_eq, ← skipped, List.drop_drop, List.head?_drop]
    dsimp only
    split
    · next short =>
        apply Ends.pure inside'
        rw [if_neg Bool.false_ne_true, if_neg]
        · use rfl
        · intro found
          have := length_of_sameLetters (Bool.and_eq_true_iff.mp found).1
          simp only [List.length_take, List.length_drop] at this
          omega
    · next long =>
        have long := not_lt.mp long
        have cut : chars.drop first
            = (chars.drop first).take letters.length ++ chars.drop (first + letters.length) := by
          rw [← List.drop_drop, List.take_append_drop]
        apply (ends_slice (Nat.le_add_right _ _) long cut inside').bind
        rintro _ _ - - ⟨rfl, rfl⟩
        split
        · apply (ends_moveTo (Nat.le_add_right _ _) long).bind
          rintro _ _ - - rfl
          apply Ends.pure long
          rw [if_pos rfl, Consumes, ← skipped]
          use rfl
          have := List.length_pos_of_ne_nil nonempty
          simp only [List.length_drop]
          omega
        · apply Ends.pure inside'
          rw [if_neg Bool.false_ne_true]
          use rfl
  · rintro ⟨⟩

theorem ends_negationAhead :
  Ends chars (Characters.negationAhead chars) start fun found stop =>
    found = negationFollows (chars.drop start)
      ∧ chars.drop stop = Text.trimLeft (chars.drop start)
  := by
  apply Ends.called
  · apply (ends_word inside).bind
    rintro _ stop - inside' ⟨rfl, skipped⟩
    apply Ends.pure inside' ⟨rfl, skipped⟩
  · rintro ⟨⟩

theorem ends_operandAhead :
  Ends chars (Characters.operandAhead chars) start fun found stop =>
    found = operandFollows (chars.drop start)
      ∧ chars.drop stop = Text.trimLeft (chars.drop start)
  := by
  apply Ends.called
  · apply (ends_skipBlanks inside).bind
    intro _ stop _ inside' skipped
    apply Ends.next?
    rw [operandFollows_eq, ← nextWord_trimLeft, ← skipped]
    rcases rest : chars.drop stop with _ | ⟨c, cs⟩
    · apply Ends.pure inside' ⟨rfl, rest⟩
    · rw [List.head?_cons]
      dsimp only
      split
      · apply Ends.pure inside' ⟨rfl, rest⟩
      · apply (ends_word inside').bind
        rintro _ stop' - inside'' ⟨rfl, skipped'⟩
        apply Ends.pure inside''
        rw [skipped', skipped, Text.trimLeft_trimLeft, ← skipped, rest]
        use rfl
  · rintro ⟨⟩

/-- The characters in front are consumed, and those behind them are left. -/
theorem ends_stretch (p : Char → Bool) :
  Ends chars (Characters.stretch chars p) start fun text stop =>
    text = (chars.drop start).takeWhile p ∧ chars.drop stop = (chars.drop start).dropWhile p
  := by
  apply Ends.position
  apply (ends_skipWhile inside p).bind
  intro _ stop forward inside' rest
  apply Ends.position
  have cut : chars.drop start = (chars.drop start).takeWhile p ++ chars.drop stop := by
    rw [rest, List.takeWhile_append_dropWhile]
  apply (ends_slice forward inside' cut inside').mono
  rintro _ _ - - ⟨rfl, rfl⟩
  use rfl, rest

theorem ends_closing :
  Ends chars (Characters.closing chars) start fun _ stop =>
    chars.drop stop = afterClosing (chars.drop start)
  := by
  apply (ends_skipBlanks inside).bind
  intro _ stop _ inside' skipped
  apply Ends.next?
  rw [afterClosing, ← skipped]
  rcases rest : chars.drop stop with _ | ⟨c, cs⟩
  · apply Ends.pure inside' rest
  · obtain ⟨more, rest'⟩ := drop_eq_cons rest
    rw [List.head?_cons]
    split
    · next closed =>
        cases closed
        apply (ends_advance more).mono
        rintro _ _ - - rfl
        apply rest'
    · next other =>
        apply Ends.pure inside'
        rw [rest]
        split
        · next closed =>
            cases closed
            cases other rfl
        · rfl

end

end Toolshed.Query
