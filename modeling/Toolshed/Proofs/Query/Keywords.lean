import Toolshed.Query.Reader
import Toolshed.Proofs.Text.Letters
import Toolshed.Proofs.Text.Runs

/-!
# Words and keywords of queries

A keyword ends where its word does.  So a word that is not a keyword does not begin with one, and
neither does a parenthesis or a quote.
-/

namespace Toolshed.Query

/-! ### Letters -/

/-- The case of a letter does not matter for what may stand in a term. -/
theorem isTermChar_toLower (c : Char) :
  isTermChar c.toLower = isTermChar c
  := by
  have ignores : Text.IgnoresCase isTermChar := by
    apply Text.IgnoresCase.of_letters
    decide
  apply ignores

/-- What is a keyword up to the case of its letters may stand in a term. -/
theorem isTermChar_of_sameLetters {word keyword : List Char}
    (same : sameLetters word keyword = true) (plain : ∀ c ∈ keyword, isTermChar c = true) :
  ∀ c ∈ word, isTermChar c = true
  := by
  intro c among
  rw [sameLetters, beq_iff_eq] at same
  have lower : c.toLower ∈ keyword.map Char.toLower := by
    rw [← same]
    apply List.mem_map_of_mem among
  obtain ⟨d, among', equal⟩ := List.mem_map.mp lower
  rw [← isTermChar_toLower, ← equal, isTermChar_toLower]
  apply plain d among'

/-- A word is no keyword if it is none of them up to the case of letters. -/
theorem isKeyword_eq_false_iff {word : List Char} :
  isKeyword word = false ↔ ∀ keyword ∈ keywords, sameLetters word keyword = false
  := by
  rw [isKeyword, List.any_eq_false]
  simp only [Bool.not_eq_true]

theorem isTermChar_of_mem_keywords :
  ∀ keyword ∈ keywords, ∀ c ∈ keyword, isTermChar c = true
  := by
  have all : (keywords.all fun keyword => keyword.all isTermChar) = true := by
    decide +kernel
  simpa only [List.all_eq_true] using all

theorem length_of_sameLetters {word keyword : List Char}
    (same : sameLetters word keyword = true) :
  word.length = keyword.length
  := by
  rw [sameLetters, beq_iff_eq] at same
  simpa using congrArg List.length same

theorem isBlank_of_isTermChar {c : Char} (h : isTermChar c = true) :
  Text.isBlank c = false
  := by
  simp only [isTermChar, Bool.and_eq_true, Bool.not_eq_true'] at h
  apply h.1.1.1

/-- No blank stands in front of a word. -/
theorem trimLeft_word {word : List Char} (nonempty : word ≠ [])
    (plain : ∀ c ∈ word, isTermChar c = true) (rest : List Char) :
  Text.trimLeft (word ++ rest) = word ++ rest
  := by
  cases word with
  | nil => cases nonempty rfl
  | cons c word =>
      apply Text.dropWhile_of_stops
      apply Text.stops_cons
      apply isBlank_of_isTermChar
      apply plain c List.mem_cons_self

/-! ### Where keywords are found -/

/-- A keyword is what stands in front, and what comes after it is bounded. -/
theorem afterKeyword?_eq_some {keyword cs rest : List Char}
    (found : afterKeyword? keyword cs = some rest) :
  sameLetters ((Text.trimLeft cs).take keyword.length) keyword = true
    ∧ (Text.trimLeft cs).drop keyword.length = rest ∧ Text.Stops isTermChar rest
  := by
  simp only [afterKeyword?, Option.ite_none_right_eq_some, Bool.and_eq_true,
    Option.some.injEq] at found
  obtain ⟨⟨same, bounded⟩, rfl⟩ := found
  refine ⟨same, rfl, ?_⟩
  generalize (Text.trimLeft cs).drop keyword.length = rest at bounded
  cases rest with
  | nil => apply Text.stops_nil
  | cons c rest =>
      dsimp only at bounded
      apply Text.stops_cons
      rw [isTermChar, bounded]
      rfl

theorem afterKeyword?_eq (keyword cs : List Char) :
  afterKeyword? keyword cs =
    if sameLetters ((Text.trimLeft cs).take keyword.length) keyword
        && ((Text.trimLeft cs).drop keyword.length).head?.all Text.isBlank
    then some ((Text.trimLeft cs).drop keyword.length) else none
  := by
  rw [afterKeyword?]
  rcases (Text.trimLeft cs).drop keyword.length with _ | ⟨c, rest⟩
  · rfl
  · rfl

section

variable {keyword : List Char} (plain : ∀ c ∈ keyword, isTermChar c = true)

include plain

/-- A word begins with a keyword only if it is one. -/
theorem afterKeyword?_word {word rest : List Char} (nonempty : word ≠ [])
    (proper : ∀ c ∈ word, isTermChar c = true) (different : sameLetters word keyword = false)
    (stops : Text.Stops isTermChar rest) :
  afterKeyword? keyword (word ++ rest) = none
  := by
  rw [Option.eq_none_iff_forall_ne_some]
  intro after found
  obtain ⟨same, cut, bounded⟩ := afterKeyword?_eq_some found
  rw [trimLeft_word nonempty proper] at same cut
  rcases Nat.lt_trichotomy word.length keyword.length with shorter | equal | longer
  · -- What follows the word would be part of the keyword.
    cases rest with
    | nil =>
        have := length_of_sameLetters same
        rw [List.append_nil, List.length_take] at this
        omega
    | cons c rest =>
        have inside : c ∈ (word ++ c :: rest).take keyword.length := by
          rw [List.take_append]
          apply List.mem_append_right
          obtain ⟨n, gap⟩ := Nat.exists_eq_add_of_lt shorter
          rw [show keyword.length - word.length = n + 1 by omega]
          apply List.mem_cons_self
        have proper' := isTermChar_of_sameLetters same plain c inside
        rw [stops c rfl] at proper'
        cases proper'
  · rw [← equal, List.take_left, different] at same
    cases same
  · -- The word would go on after the keyword.
    have next : word[keyword.length] ∈ after.head? := by
      rw [← cut, List.drop_append_of_le_length longer.le, List.drop_eq_getElem_cons longer]
      rfl
    have proper' := proper _ (List.getElem_mem longer)
    rw [bounded _ next] at proper'
    cases proper'

/-- No keyword begins with a character that may not stand in one. -/
theorem afterKeyword?_mark {c : Char} (nonempty : keyword ≠ []) (mark : isTermChar c = false)
    (visible : Text.isBlank c = false) (rest : List Char) :
  afterKeyword? keyword (c :: rest) = none
  := by
  rw [Option.eq_none_iff_forall_ne_some]
  intro after found
  obtain ⟨same, _, _⟩ := afterKeyword?_eq_some found
  have first : c ∈ (Text.trimLeft (c :: rest)).take keyword.length := by
    rw [Text.trimLeft, Text.dropWhile_of_stops (Text.stops_cons visible)]
    obtain ⟨_, _, rfl⟩ := List.exists_cons_of_ne_nil nonempty
    apply List.mem_cons_self
  rw [isTermChar_of_sameLetters same plain c first] at mark
  cases mark

end

/-! ### What comes next -/

/-- An operand follows `AND`. -/
theorem nextOperand?_and (cs : List Char) :
  nextOperand? (' ' :: 'A' :: 'N' :: 'D' :: ' ' :: cs) = some (' ' :: cs)
  := by
  rfl

/-- No operand follows where an alternative does. -/
theorem nextOperand?_or (cs : List Char) :
  nextOperand? (' ' :: 'O' :: 'R' :: ' ' :: cs) = none
  := by
  rfl

theorem nextAlternative?_or (cs : List Char) :
  nextAlternative? (' ' :: 'O' :: 'R' :: ' ' :: cs) = some (' ' :: cs)
  := by
  rfl

/-- Nothing is read of a text any more: it has ended, or a parenthesis is closed. -/
inductive IsOver : List Char → Prop where
  | nil : IsOver []
  | close (cs : List Char) : IsOver (')' :: cs)

namespace IsOver

variable {cs : List Char} (ended : IsOver cs)

include ended

theorem stops :
  Text.Stops isTermChar cs
  := by
  cases ended with
  | nil => apply Text.stops_nil
  | close cs => apply Text.stops_cons rfl

theorem nextOperand? :
  nextOperand? cs = none
  := by
  cases ended with
  | nil => rfl
  | close cs => rfl

theorem nextAlternative? :
  nextAlternative? cs = none
  := by
  cases ended with
  | nil => rfl
  | close cs => rfl

end IsOver

/-! ### What stands in front -/

/-- What is left after the parenthesis that may close an expression. -/
def afterClosing (cs : List Char) : List Char :=
  match Text.trimLeft cs with
  | ')' :: rest => rest
  | rest => rest

theorem readPrimary_eq (inner : Reads) (cs : List Char) :
  readPrimary inner cs =
    match Text.trimLeft cs with
    | [] => (.all, [])
    | c :: rest =>
      if c = '(' then ((inner rest).1, afterClosing (inner rest).2)
      else if c = '"' then
        (.phrase (Text.lowerChars (rest.takeWhile (· != '"'))), (rest.dropWhile (· != '"')).drop 1)
      else (ofTerm ((c :: rest).takeWhile isTermChar), (c :: rest).dropWhile isTermChar)
  := by
  rw [readPrimary]
  rcases Text.trimLeft cs with _ | ⟨c, rest⟩
  · rfl
  by_cases opened : c = '('
  · rw [opened]
    simp only [if_pos]
    rw [afterClosing]
    rcases Text.trimLeft (inner rest).2 with _ | ⟨d, left⟩
    · rfl
    by_cases closed : d = ')'
    · rw [closed]
      rfl
    · simp [closed]
  by_cases quoted : c = '"'
  · rw [quoted]
    rfl
  · simp [opened, quoted]

theorem operandFollows_eq (cs : List Char) :
  operandFollows cs =
    match Text.trimLeft cs with
    | [] => false
    | c :: _ => if c = '(' ∨ c = ')' then false else !isKeyword (nextWord cs)
  := by
  rw [operandFollows]
  rcases Text.trimLeft cs with _ | ⟨c, rest⟩
  · rfl
  by_cases opened : c = '('
  · rw [opened]
    rfl
  by_cases closed : c = ')'
  · rw [closed]
    rfl
  · simp [opened, closed]

theorem readNegation_blank (inner : Reads) (cs : List Char) :
  readNegation inner (' ' :: cs) = readNegation inner cs
  := by
  rfl

theorem readConjunction_blank (inner : Reads) (cs : List Char) :
  readConjunction inner (' ' :: cs) = readConjunction inner cs
  := by
  rfl

theorem readNegation_not (inner : Reads) (cs : List Char) :
  readNegation inner ('N' :: 'O' :: 'T' :: ' ' :: cs)
    = (.not (readPrimary inner cs).1, (readPrimary inner cs).2)
  := by
  rfl

theorem readPrimary_quote (inner : Reads) (cs : List Char) :
  readPrimary inner ('"' :: cs)
    = (.phrase (Text.lowerChars (cs.takeWhile (· != '"'))), (cs.dropWhile (· != '"')).drop 1)
  := by
  rfl

theorem readPrimary_parenthesis {inner : Reads} {cs rest : List Char} {q : Query}
    (inside : inner cs = (q, ')' :: rest)) :
  readPrimary inner ('(' :: cs) = (q, rest)
  := by
  have opening : Text.trimLeft ('(' :: cs) = '(' :: cs := by
    rfl
  have closing : Text.trimLeft (')' :: rest) = ')' :: rest := by
    rfl
  simp only [readPrimary, opening, inside, closing]

end Toolshed.Query
