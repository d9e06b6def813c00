import Toolshed.Proofs.Query.Printing

/-!
# Operands side by side

Two primaries with nothing but a blank between them are read as their conjunction, unless the
second one is in parentheses.  No operand is seen to follow where a parenthesis opens, so reading
ends there, and what is in the parentheses is dropped.
-/

namespace Toolshed.Query

/-- The text of a primary: a term, a phrase or a wildcard as it is printed, or any printed query in
parentheses. -/
inductive IsPrimaryText : List Char → Query → Prop where
  | bare {q : Query} (printable : IsPrintable q) (primary : q.level = .primary) :
      IsPrimaryText (print q) q
  | enclosed {q : Query} (printable : IsPrintable q) : IsPrimaryText ('(' :: (print q ++ [')'])) q

namespace IsPrimaryText

variable {text : List Char} {q : Query} (primary : IsPrimaryText text q)

include primary

theorem isReadAt {depth : Nat} (enough : text.length ≤ depth) :
  IsReadAt (readExpression depth) .primary text q
  := by
  cases primary with
  | bare printable level =>
      have reads := printable.isReadAt enough
      rw [level] at reads
      apply reads
  | enclosed printable =>
      rw [List.length_cons, List.length_append, List.length_singleton] at enough
      obtain ⟨depth, rfl⟩ : ∃ d, depth = d + 1 := ⟨depth - 1, by omega⟩
      have inside := printable.isReadAt (show (print _).length ≤ depth by omega)
      apply IsReadAt.parentheses
      apply (inside.loosen .expression (Nat.zero_le _)).isRead_expression

theorem isTight :
  IsTight text
  := by
  cases primary with
  | bare printable _ => apply printable.isTight_print
  | @enclosed q printable =>
      have opening : IsTight ['('] := IsTight.singleton rfl
      apply opening.append (print q) (IsTight.singleton rfl)

/-- A primary that is not in parentheses begins with a word that may stand in a term, or with a
quote. -/
theorem cases_of_head?_ne (open? : text.head? ≠ some '(') :
  IsWord text ∨ ∃ rest, text = '"' :: rest
  := by
  cases primary with
  | bare printable level =>
      cases printable with
      | term word _ => exact .inl word
      | phrase _ _ => exact .inr ⟨_, rfl⟩
      | wildcard word _ _ => exact .inl word
      | and _ _ => cases level
      | or _ _ => cases level
      | not _ => cases level
  | enclosed _ => cases open? rfl

end IsPrimaryText

/-! ### The next word -/

/-- The next word is a keyword only if the term is one with which it begins. -/
theorem sameLetters_nextWord {word rest : List Char} (nonempty : word ≠ [])
    (proper : ∀ c ∈ word, isTermChar c = true) (different : isKeyword word = false)
    (ended : EndsOperand rest) :
  ∀ keyword ∈ keywords, sameLetters (nextWord (word ++ rest)) keyword = false
  := by
  intro keyword known
  have other := isKeyword_eq_false_iff.mp different keyword known
  have visible : ∀ c ∈ word, (!Text.isBlank c) = true := by
    intro c among
    rw [isBlank_of_isTermChar (proper c among)]
    rfl
  rw [nextWord, trimLeft_word nonempty proper, List.takeWhile_append_of_pos visible]
  cases rest with
  | nil => rw [List.takeWhile_nil, List.append_nil, other]
  | cons c rest =>
      rw [List.takeWhile_cons]
      split
      · -- The word goes on with a character that stands in no keyword.
        rw [Bool.eq_false_iff]
        intro same
        have inside :=
          isTermChar_of_sameLetters same (isTermChar_of_mem_keywords keyword known) c (by simp)
        rw [ended c rfl] at inside
        cases inside
      · rw [List.append_nil, other]

/-- No keyword begins with a parenthesis or a quote. -/
theorem sameLetters_nextWord_mark {c : Char} (mark : isTermChar c = false)
    (visible : Text.isBlank c = false) (rest : List Char) :
  ∀ keyword ∈ keywords, sameLetters (nextWord (c :: rest)) keyword = false
  := by
  intro keyword known
  rw [nextWord, Text.trimLeft, Text.dropWhile_of_stops (Text.stops_cons visible),
    List.takeWhile_cons, visible, Bool.eq_false_iff]
  intro same
  have inside :=
    isTermChar_of_sameLetters same (isTermChar_of_mem_keywords keyword known) c (by simp)
  rw [mark] at inside
  cases inside

/-! ### What follows a blank -/

theorem afterKeyword?_blank (keyword cs : List Char) :
  afterKeyword? keyword (' ' :: cs) = afterKeyword? keyword cs
  := by
  rfl

/-- Where the next word is no keyword, an operand follows if it is not in parentheses. -/
theorem nextOperand?_of_ne {c : Char} {rest : List Char} (visible : Text.isBlank c = false)
    (unstarted : afterKeyword? ['A', 'N', 'D'] (c :: rest) = none)
    (others : ∀ keyword ∈ keywords, sameLetters (nextWord (c :: rest)) keyword = false)
    (unclosed : c ≠ ')') :
  nextOperand? (' ' :: c :: rest) = if c = '(' then none else some (' ' :: c :: rest)
  := by
  have next : nextWord (' ' :: c :: rest) = nextWord (c :: rest) := by
    rfl
  have first : Text.trimLeft (' ' :: c :: rest) = c :: rest := by
    apply Text.dropWhile_of_stops (Text.stops_cons visible)
  have noKeyword := isKeyword_eq_false_iff.mpr others
  have noNegation := others ['N', 'O', 'T'] (by decide)
  rw [nextOperand?, afterKeyword?_blank, unstarted, negationFollows, operandFollows, next,
    noNegation, noKeyword, first]
  by_cases opening : c = '('
  · rw [if_pos opening, opening]
    rfl
  · rw [if_neg opening]
    simp [opening, unclosed]

/-- A parenthesis is not seen to open an operand, but a quote is. -/
theorem nextOperand?_mark {c : Char} (mark : isTermChar c = false)
    (visible : Text.isBlank c = false) (unclosed : c ≠ ')') (rest : List Char) :
  nextOperand? (' ' :: c :: rest) = if c = '(' then none else some (' ' :: c :: rest)
  := by
  apply nextOperand?_of_ne visible _ (sameLetters_nextWord_mark mark visible rest) unclosed
  apply afterKeyword?_mark (isTermChar_of_mem_keywords _ (by decide)) (by decide) mark visible

theorem nextAlternative?_parenthesis (rest : List Char) :
  nextAlternative? (' ' :: '(' :: rest) = none
  := by
  rw [nextAlternative?, afterKeyword?_blank]
  apply afterKeyword?_mark (isTermChar_of_mem_keywords _ (by decide)) (by decide)
    (by decide +kernel) (by decide)

/-- A word that may stand in a term is seen to be an operand. -/
theorem IsWord.nextOperand? {text rest : List Char} (word : IsWord text)
    (ended : EndsOperand rest) :
  nextOperand? (' ' :: (text ++ rest)) = some (' ' :: (text ++ rest))
  := by
  have others := sameLetters_nextWord word.nonempty word.isTermChar word.notKeyword ended
  have unstarted : afterKeyword? ['A', 'N', 'D'] (text ++ rest) = none := by
    apply afterKeyword?_word (isTermChar_of_mem_keywords _ (by decide)) word.nonempty
      word.isTermChar _ ended
    apply isKeyword_eq_false_iff.mp word.notKeyword _ (by decide)
  obtain ⟨c, more, rfl⟩ := List.exists_cons_of_ne_nil word.nonempty
  have plain := word.plain c List.mem_cons_self
  simp only [List.mem_cons, List.not_mem_nil, or_false, not_or] at plain
  rw [List.cons_append] at unstarted others ⊢
  rw [nextOperand?_of_ne plain.1 unstarted others plain.2.2.1, if_neg plain.2.1]

/-- Behind a blank, a primary is seen to be an operand if it is not in parentheses. -/
theorem IsPrimaryText.nextOperand? {text rest : List Char} {q : Query}
    (primary : IsPrimaryText text q) (unopened : text.head? ≠ some '(')
    (ended : EndsOperand rest) :
  nextOperand? (' ' :: (text ++ rest)) = some (' ' :: (text ++ rest))
  := by
  rcases primary.cases_of_head?_ne unopened with word | ⟨inside, rfl⟩
  · apply word.nextOperand? ended
  · apply nextOperand?_mark (by decide +kernel) (by decide) (by decide)

/-! ### Side by side -/

section

variable {inner : Reads} {text text' : List Char} {q q' : Query}

/-- Two primaries with `AND` between them are read as their conjunction. -/
theorem IsReadAt.joined (left : IsReadAt inner .primary text q)
    (right : IsReadAt inner .primary text' q') :
  IsReadAt inner .conjunction (text ++ ' ' :: 'A' :: 'N' :: 'D' :: ' ' :: text') (.and q q')
  := by
  apply Joins.more [' ', 'A', 'N', 'D'] left.negation.conjunction right.negation
  · decide
  · intro cs
    apply Text.stops_cons rfl
  · apply nextOperand?_and
  · apply readNegation_blank

/-- Two primaries side by side are read as their conjunction, if the second one is seen. -/
theorem IsReadAt.juxtaposed (left : IsReadAt inner .primary text q)
    (right : IsReadAt inner .primary text' q')
    (seen : ∀ rest, EndsOperand rest →
      nextOperand? (' ' :: (text' ++ rest)) = some (' ' :: (text' ++ rest))) :
  IsReadAt inner .conjunction (text ++ ' ' :: text') (.and q q')
  := by
  intro rest ended
  refine ⟨q, ' ' :: (text' ++ rest), 1, ?_, ?_, ?_⟩
  · rw [List.append_assoc, List.cons_append]
    apply left.negation
    apply Text.stops_cons rfl
  · simp only [List.length_cons, List.length_append]
    omega
  · intro fuel
    rw [readMore, seen rest ended]
    dsimp only
    rw [readNegation_blank, right.negation rest ended]

/-- Behind a primary, one in parentheses is left unread. -/
theorem IsReadAt.alone {depth : Nat} (left : IsReadAt (readExpression depth) .primary text q)
    (inside : List Char) :
  readExpression (depth + 1) (text ++ ' ' :: '(' :: inside) = (q, ' ' :: '(' :: inside)
  := by
  have reads : IsReadAt (readExpression depth) .expression text q :=
    left.loosen .expression (Nat.zero_le _)
  apply Joins.read reads _ (nextAlternative?_parenthesis inside)
  constructor
  · apply Text.stops_cons rfl
  · apply nextOperand?_mark (by decide +kernel) (by decide) (by decide)

end

/-! ### Whole texts -/

/-- A text without blanks at its ends is read as an expression. -/
theorem parse_eq_of_isTight {text : List Char} (tight : IsTight text) :
  parse (String.ofList text) = (readExpression (text.length + 1) text).1
  := by
  rw [parse, String.toList_ofList, tight.trimBoth]

/-- A text that is read as a conjunction is the text of that query. -/
theorem parse_of_isReadAt {text : List Char} {q : Query} (tight : IsTight text)
    (reads : IsReadAt (readExpression text.length) .conjunction text q) :
  parse (String.ofList text) = q
  := by
  have whole := reads.expression.isRead_expression [] .nil
  rw [List.append_nil] at whole
  rw [parse_eq_of_isTight tight, whole]

section

variable {text text' : List Char} {l r : Query} (left : IsPrimaryText text l)
  (right : IsPrimaryText text' r)

include left right

theorem parse_joined :
  parse (String.ofList (text ++ ' ' :: 'A' :: 'N' :: 'D' :: ' ' :: text')) = .and l r
  := by
  apply parse_of_isReadAt
  · apply left.isTight.append [' ', 'A', 'N', 'D', ' '] right.isTight
  · apply (left.isReadAt _).joined (right.isReadAt _)
    · simp
    · simp only [List.length_append, List.length_cons]
      omega

theorem parse_beside (unopened : text'.head? ≠ some '(') :
  parse (String.ofList (text ++ ' ' :: text')) = .and l r
  := by
  apply parse_of_isReadAt
  · apply left.isTight.append [' '] right.isTight
  · apply (left.isReadAt _).juxtaposed (right.isReadAt _)
    · intro rest ended
      apply right.nextOperand? unopened ended
    · simp
    · simp only [List.length_append, List.length_cons]
      omega

theorem parse_alone (opening : text'.head? = some '(') :
  parse (String.ofList (text ++ ' ' :: text')) = l
  := by
  have tight := left.isTight.append [' '] right.isTight
  obtain ⟨inside, rfl⟩ := List.head?_eq_some_iff.mp opening
  have enough : text.length ≤ (text ++ ' ' :: '(' :: inside).length := by
    rw [List.length_append]
    apply Nat.le_add_right
  have reads := (left.isReadAt enough).alone inside
  apply (parse_eq_of_isTight tight).trans
  apply congrArg Prod.fst reads

end

theorem left_ne_and (l r : Query) :
  l ≠ .and l r
  := by
  intro same
  have size := congrArg sizeOf same
  simp only [Query.and.sizeOf_spec] at size
  omega

/-- Two primaries are read alike side by side and with `AND` between them, unless the second one is
in parentheses: it is dropped then, and nothing but the first one is read. -/
theorem parse_juxtaposed_iff {text text' : List Char} {l r : Query}
    (left : IsPrimaryText text l) (right : IsPrimaryText text' r) :
  let beside := parse (String.ofList (text ++ ' ' :: text'))
  let joined := parse (String.ofList (text ++ ' ' :: 'A' :: 'N' :: 'D' :: ' ' :: text'))
  joined = .and l r
    ∧ (beside = joined ↔ text'.head? ≠ some '(')
    ∧ (beside ≠ joined → beside = l)
  := by
  intro beside joined
  have isJoined : joined = .and l r := parse_joined left right
  use isJoined
  rw [isJoined]
  by_cases opening : text'.head? = some '('
  · have isAlone : beside = l := parse_alone left right opening
    rw [isAlone]
    constructor
    · constructor
      · intro same
        cases left_ne_and l r same
      · intro other
        cases other opening
    · intro _
      rfl
  · have isBeside : beside = .and l r := parse_beside left right opening
    constructor
    · constructor
      · intro _
        apply opening
      · intro _
        apply isBeside
    · intro other
      cases other isBeside

/-- A phrase is read behind a query in parentheses, but not the other way round. -/
theorem parse_juxtaposed_phrase :
  IsPrimaryText "(a OR b)".toList (.or (.term ['a']) (.term ['b']))
    ∧ IsPrimaryText "\"c d\"".toList (.phrase ['c', ' ', 'd'])
    ∧ parse "(a OR b) \"c d\"" = parse "(a OR b) AND \"c d\""
    ∧ parse "\"c d\" (a OR b)" ≠ parse "\"c d\" AND (a OR b)"
  := by
  have words : ∀ text ∈ [['a'], ['b']], IsWord text := by
    decide +kernel
  have alternative : IsPrintable (.or (.term ['a']) (.term ['b'])) := by
    apply IsPrintable.or
    · apply IsPrintable.term (words _ (by decide)) (.inl (by decide))
    · apply IsPrintable.term (words _ (by decide)) (.inl (by decide))
  have enclosed := IsPrimaryText.enclosed alternative
  have phrase : IsPrimaryText ('"' :: (['c', ' ', 'd'] ++ ['"'])) (.phrase ['c', ' ', 'd']) := by
    apply IsPrimaryText.bare (.phrase (by decide +kernel) (by decide)) rfl
  refine ⟨enclosed, phrase, ?_, ?_⟩
  · apply (parse_juxtaposed_iff enclosed phrase).2.1.mpr
    decide
  · intro same
    apply (parse_juxtaposed_iff phrase enclosed).2.1.mp same
    rfl

end Toolshed.Query
