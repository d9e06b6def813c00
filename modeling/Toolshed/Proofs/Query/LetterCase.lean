import Toolshed.Proofs.Query.Keywords
import Toolshed.Proofs.Text.Letters

/-!
# The case of letters in queries

A reader that is given a text with its ASCII letters in lowercase gives the same query, and leaves
the same rest, in lowercase as well.  That holds of the readers of each level of the grammar if it
holds of those of the levels inside.  So texts that differ in the case of ASCII letters only, be
they in keywords, terms, phrases or patterns, are the same query.
-/

namespace Toolshed.Query

open Text

/-! ### Keywords -/

theorem sameLetters_map_toLower (word keyword : List Char) :
  sameLetters (word.map Char.toLower) keyword = sameLetters word keyword
  := by
  have once : IgnoresCase Char.toLower := by
    apply IgnoresCase.of_letters
    decide +kernel
  have same : Char.toLower ∘ Char.toLower = Char.toLower := by
    funext c
    apply once
  rw [sameLetters, List.map_map, same, sameLetters]

theorem isKeyword_map_toLower (word : List Char) :
  isKeyword (word.map Char.toLower) = isKeyword word
  := by
  have same : sameLetters (word.map Char.toLower) = sameLetters word := by
    funext keyword
    apply sameLetters_map_toLower
  rw [isKeyword, same, isKeyword]

theorem nextWord_map_toLower (cs : List Char) :
  nextWord (cs.map Char.toLower) = (nextWord cs).map Char.toLower
  := by
  have ignores : IgnoresCase fun c => !isBlank c := by
    intro c
    apply congrArg (!·) (ignoresCase_isBlank c)
  rw [nextWord, trimLeft_map_toLower, ignores.takeWhile_map, nextWord]

theorem afterKeyword?_map_toLower (keyword cs : List Char) :
  afterKeyword? keyword (cs.map Char.toLower)
    = (afterKeyword? keyword cs).map (List.map Char.toLower)
  := by
  rw [afterKeyword?, trimLeft_map_toLower, ← List.map_take, ← List.map_drop,
    sameLetters_map_toLower, afterKeyword?]
  rcases (trimLeft cs).drop keyword.length with _ | ⟨c, rest⟩
  · simp only [List.map_nil]
    split
    · rfl
    · rfl
  · simp only [List.map_cons, ignoresCase_isBlank c]
    split
    · rfl
    · rfl

/-! ### What comes next -/

/-- A mark is told from the letters in any case. -/
theorem toLower_eq_mark_iff {mark : Char} (known : mark ∈ ['(', ')', '"']) (c : Char) :
  c.toLower = mark ↔ c = mark
  := by
  apply toLower_eq_iff
  simp only [List.mem_cons, List.not_mem_nil, or_false] at known
  rcases known with rfl | rfl | rfl
  · decide
  · decide
  · decide

theorem operandFollows_map_toLower (cs : List Char) :
  operandFollows (cs.map Char.toLower) = operandFollows cs
  := by
  have opening := toLower_eq_mark_iff (show '(' ∈ ['(', ')', '"'] by decide)
  have closing := toLower_eq_mark_iff (show ')' ∈ ['(', ')', '"'] by decide)
  rw [operandFollows_eq, trimLeft_map_toLower, nextWord_map_toLower, isKeyword_map_toLower,
    operandFollows_eq]
  rcases trimLeft cs with _ | ⟨c, rest⟩
  · rfl
  · simp only [List.map_cons, opening, closing]

theorem negationFollows_map_toLower (cs : List Char) :
  negationFollows (cs.map Char.toLower) = negationFollows cs
  := by
  rw [negationFollows, nextWord_map_toLower, sameLetters_map_toLower, negationFollows]

/-- Where the next operand is looked for does not depend on the case of letters. -/
def FindsAnyCase (next? : List Char → Option (List Char)) : Prop :=
  ∀ cs, next? (cs.map Char.toLower) = (next? cs).map (List.map Char.toLower)

theorem findsAnyCase_nextOperand? :
  FindsAnyCase nextOperand?
  := by
  intro cs
  rw [nextOperand?, afterKeyword?_map_toLower, negationFollows_map_toLower,
    operandFollows_map_toLower, nextOperand?]
  rcases afterKeyword? ['A', 'N', 'D'] cs with _ | rest
  · dsimp only [Option.map_none]
    split
    · rfl
    · rfl
  · rfl

theorem findsAnyCase_nextAlternative? :
  FindsAnyCase nextAlternative?
  := by
  apply afterKeyword?_map_toLower

/-! ### Readers -/

/-- A reader does not depend on the case of letters. -/
def ReadsAnyCase (read : Reads) : Prop :=
  ∀ cs, read (cs.map Char.toLower) = ((read cs).1, (read cs).2.map Char.toLower)

theorem ofTerm_map_toLower (text : List Char) :
  ofTerm (text.map Char.toLower) = ofTerm text
  := by
  rw [ofTerm, List.isEmpty_map, isKeyword_map_toLower, lowerChars_map_toLower, ofTerm]

theorem afterClosing_map_toLower (cs : List Char) :
  afterClosing (cs.map Char.toLower) = (afterClosing cs).map Char.toLower
  := by
  have closing := toLower_eq_mark_iff (show ')' ∈ ['(', ')', '"'] by decide)
  rw [afterClosing, trimLeft_map_toLower, afterClosing]
  rcases trimLeft cs with _ | ⟨c, rest⟩
  · rfl
  by_cases closed : c = ')'
  · rw [closed]
    rfl
  · have closed' := mt (closing c).mp closed
    simp [closed, closed']

section

variable {inner operand : Reads} {next? : List Char → Option (List Char)}
  {join : Query → Query → Query}

theorem ReadsAnyCase.primary (reads : ReadsAnyCase inner) :
  ReadsAnyCase (readPrimary inner)
  := by
  intro cs
  have opening := toLower_eq_mark_iff (show '(' ∈ ['(', ')', '"'] by decide)
  have quote := toLower_eq_mark_iff (show '"' ∈ ['(', ')', '"'] by decide)
  have unquoted : IgnoresCase (· != '"') := by
    apply IgnoresCase.of_letters
    decide +kernel
  rw [readPrimary_eq, trimLeft_map_toLower, readPrimary_eq]
  rcases trimLeft cs with _ | ⟨c, rest⟩
  · rfl
  rw [List.map_cons]
  simp only [opening, quote]
  by_cases opened : c = '('
  · simp only [if_pos opened, reads rest, afterClosing_map_toLower]
  by_cases quoted : c = '"'
  · simp only [if_neg opened, if_pos quoted, unquoted.takeWhile_map, unquoted.dropWhile_map,
      lowerChars_map_toLower, List.map_drop]
  · have ignores : IgnoresCase isTermChar := isTermChar_toLower
    simp only [if_neg opened, if_neg quoted, ← List.map_cons, ignores.takeWhile_map,
      ignores.dropWhile_map, ofTerm_map_toLower]

theorem ReadsAnyCase.negation (reads : ReadsAnyCase inner) :
  ReadsAnyCase (readNegation inner)
  := by
  intro cs
  rw [readNegation, afterKeyword?_map_toLower, readNegation]
  rcases afterKeyword? ['N', 'O', 'T'] cs with _ | rest
  · apply reads.primary
  · dsimp only [Option.map_some]
    rw [reads.primary]

/-- A loop goes on alike as long as its operands are found and read alike. -/
theorem ReadsAnyCase.more (reads : ReadsAnyCase operand) (finds : FindsAnyCase next?)
    (fuel : Nat) (left : Query) :
  ReadsAnyCase (readMore next? operand join fuel left)
  := by
  induction fuel generalizing left with
  | zero =>
      intro cs
      rfl
  | succ fuel ih =>
      intro cs
      rw [readMore, finds, readMore]
      rcases next? cs with _ | rest
      · rfl
      · dsimp only [Option.map_some]
        rw [reads, ih]

theorem ReadsAnyCase.joined (reads : ReadsAnyCase operand) (finds : FindsAnyCase next?) :
  ReadsAnyCase (readJoined next? operand join)
  := by
  intro cs
  rw [readJoined, reads, readJoined]
  dsimp only
  rw [List.length_map, reads.more finds]

end

theorem readsAnyCase_readExpression (depth : Nat) :
  ReadsAnyCase (readExpression depth)
  := by
  induction depth with
  | zero =>
      intro cs
      rfl
  | succ depth ih =>
      apply ReadsAnyCase.joined _ findsAnyCase_nextAlternative?
      apply ReadsAnyCase.joined _ findsAnyCase_nextOperand?
      apply ih.negation

/-! ### Whole texts -/

/-- A text with its ASCII letters in lowercase is the same query. -/
theorem parse_map_toLower (text : String) :
  parse (String.ofList (text.toList.map Char.toLower)) = parse text
  := by
  rw [parse, String.toList_ofList, trimBoth_map_toLower, List.length_map,
    readsAnyCase_readExpression, parse]

/-- Two texts that differ only in the case of ASCII letters are the same query, which matches the
same texts with any number of edits. -/
theorem parse_eq_of_sameLetters {a b : String} (same : sameLetters a.toList b.toList = true) :
  parse a = parse b
    ∧ ∀ edits text, (parse a).matchesText edits text = (parse b).matchesText edits text
  := by
  rw [sameLetters, beq_iff_eq] at same
  have equal : parse a = parse b := by
    rw [← parse_map_toLower a, same, parse_map_toLower b]
  use equal
  intro edits text
  rw [equal]

/-- Keywords, a term, a phrase and a pattern with a class. -/
theorem parse_eq_of_sameLetters_mixed :
  sameLetters "NOT Foo or \"Two WORDS\" AND v[A-Cx]*É".toList
      "not fOO OR \"tWO words\" and V[a-cX]*É".toList = true
    ∧ parse "NOT Foo or \"Two WORDS\" AND v[A-Cx]*É"
      = parse "not fOO OR \"tWO words\" and V[a-cX]*É"
  := by
  have same : sameLetters "NOT Foo or \"Two WORDS\" AND v[A-Cx]*É".toList
      "not fOO OR \"tWO words\" and V[a-cX]*É".toList = true := by
    decide +kernel
  use same
  apply (parse_eq_of_sameLetters same).1

end Toolshed.Query
