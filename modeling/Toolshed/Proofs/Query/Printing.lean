import Toolshed.Proofs.Query.Keywords
import Toolshed.Proofs.Text.Blanks

/-!
# Queries are read as they are printed

A query is printed with parentheses only where the grammar needs them: around an operand that binds
more loosely than its place requires.  A printed query is read back as it was.

The readers of the grammar are nested by level, and those of conjunctions and of expressions are
loops that join operands from the left.  So what is proved of such a level is where a loop stands
after the text of a query, whichever operand the loop has begun with.
-/

namespace Toolshed.Query

/-! ### Printing -/

/-- The levels of the grammar, the one that binds most loosely first. -/
inductive Level where
  | expression
  | conjunction
  | negation
  | primary
deriving DecidableEq, Inhabited

/-- How tightly a level binds. -/
def Level.rank : Level → Nat
  | .expression => 0
  | .conjunction => 1
  | .negation => 2
  | .primary => 3

/-- The level of a query. -/
def level : Query → Level
  | .or _ _ => .expression
  | .and _ _ => .conjunction
  | .not _ => .negation
  | _ => .primary

/-- The text of a query, in parentheses where it is of a lower level than its place requires. -/
def enclose (place : Level) (q : Query) (text : List Char) : List Char :=
  if q.level.rank < place.rank then '(' :: (text ++ [')']) else text

/-- The text of a query; there is none for the query that asks for nothing. -/
def print : Query → List Char
  | .all => []
  | .term text => text
  | .phrase text => '"' :: (text ++ ['"'])
  | .wildcard glob => glob.pattern
  | .and l r =>
    enclose .conjunction l (print l) ++
      ' ' :: 'A' :: 'N' :: 'D' :: ' ' :: enclose .negation r (print r)
  | .or l r =>
    enclose .expression l (print l) ++ ' ' :: 'O' :: 'R' :: ' ' :: enclose .conjunction r (print r)
  | .not q => 'N' :: 'O' :: 'T' :: ' ' :: enclose .primary q (print q)

/-- A text that may stand for itself: it is in lowercase, has no blanks, parentheses and quotes, and
is no keyword. -/
structure IsWord (text : List Char) : Prop where
  nonempty : text ≠ []
  lower : Text.lowerChars text = text
  plain : ∀ c ∈ text, Text.isBlank c = false ∧ c ∉ ['(', ')', '"']
  notKeyword : isKeyword text = false

instance (text : List Char) : Decidable (IsWord text) :=
  have : Decidable (∀ c ∈ text, Text.isBlank c = false ∧ c ∉ ['(', ')', '"']) :=
    List.decidableBAll (p := fun c => Text.isBlank c = false ∧ c ∉ ['(', ')', '"']) text
  decidable_of_iff (text ≠ [] ∧ Text.lowerChars text = text
      ∧ (∀ c ∈ text, Text.isBlank c = false ∧ c ∉ ['(', ')', '"']) ∧ isKeyword text = false)
    ⟨fun ⟨nonempty, lower, plain, notKeyword⟩ => ⟨nonempty, lower, plain, notKeyword⟩,
      fun ⟨nonempty, lower, plain, notKeyword⟩ => ⟨nonempty, lower, plain, notKeyword⟩⟩

/-- A query that has a text: its terms and wildcards are words, the patterns of the wildcards being
those that make one, its phrases are in lowercase and without quotes, and none of its operands asks
for nothing. -/
inductive IsPrintable : Query → Prop where
  | term {text : List Char} (word : IsWord text)
      (literal : '*' ∉ text ∨ Glob.ofPattern? text = none) : IsPrintable (.term text)
  | phrase {text : List Char} (lower : Text.lowerChars text = text) (unquoted : '"' ∉ text) :
      IsPrintable (.phrase text)
  | wildcard {glob : Glob} (word : IsWord glob.pattern) (star : '*' ∈ glob.pattern)
      (compiles : Glob.ofPattern? glob.pattern = some glob) : IsPrintable (.wildcard glob)
  | and {l r : Query} (left : IsPrintable l) (right : IsPrintable r) : IsPrintable (.and l r)
  | or {l r : Query} (left : IsPrintable l) (right : IsPrintable r) : IsPrintable (.or l r)
  | not {q : Query} (inner : IsPrintable q) : IsPrintable (.not q)

/-! ### Words -/

namespace IsWord

variable {text : List Char} (word : IsWord text)

include word

theorem isTermChar :
  ∀ c ∈ text, isTermChar c = true
  := by
  intro c among
  obtain ⟨visible, unmarked⟩ := word.plain c among
  simp only [List.mem_cons, List.not_mem_nil, or_false, not_or] at unmarked
  simp [Query.isTermChar, visible, unmarked]

theorem ofTerm_eq :
  ofTerm text = if text.contains '*' then
    match Glob.ofPattern? text with
    | some glob => .wildcard glob
    | none => .term text
    else .term text
  := by
  rw [ofTerm, word.lower, word.notKeyword, List.isEmpty_eq_false_iff.mpr word.nonempty]
  rfl

/-- A word in front of what may follow it is read as a term. -/
theorem readPrimary_append (inner : Reads) {rest : List Char}
    (stops : Text.Stops Query.isTermChar rest) :
  readPrimary inner (text ++ rest) = (ofTerm text, rest)
  := by
  have taken := Text.takeWhile_append_stops word.isTermChar stops
  have dropped := Text.dropWhile_append_stops word.isTermChar stops
  have first : ∀ c others, text ++ rest = c :: others → c ∉ ['(', '"'] := by
    intro c others same
    obtain ⟨d, more, split⟩ := List.exists_cons_of_ne_nil word.nonempty
    have plain := (word.plain d (split ▸ List.mem_cons_self)).2
    rw [split, List.cons_append] at same
    rw [← (List.cons.inj same).1]
    simp only [List.mem_cons, List.not_mem_nil, or_false, not_or] at plain ⊢
    use plain.1, plain.2.2
  rw [readPrimary, trimLeft_word word.nonempty word.isTermChar]
  split
  · next empty => cases word.nonempty (List.append_eq_nil_iff.mp empty).1
  · next same => cases first _ _ same (by decide)
  · next same => cases first _ _ same (by decide)
  · rw [taken, dropped]

end IsWord

/-! ### Loops that join operands -/

/-- A reader reads a text as a query before every rest of some kind. -/
def IsRead (read : Reads) (ends : List Char → Prop) (text : List Char) (q : Query) : Prop :=
  ∀ rest, ends rest → read (text ++ rest) = (q, rest)

/-- A loop that joins operands has, after a text and before every rest of some kind, joined them to
a query.  Each round of the loop has used up a character at least, so it has as many rounds left as
the rest may need. -/
def Joins (next? : List Char → Option (List Char)) (operand : Reads)
    (join : Query → Query → Query) (ends : List Char → Prop) (text : List Char) (q : Query) :
    Prop :=
  ∀ rest, ends rest → ∃ first after rounds, operand (text ++ rest) = (first, after)
    ∧ rounds + rest.length ≤ after.length
    ∧ ∀ fuel, readMore next? operand join (fuel + rounds) first after
        = readMore next? operand join fuel q rest

section

variable {next? : List Char → Option (List Char)} {operand : Reads}
  {join : Query → Query → Query} {ends : List Char → Prop} {text : List Char} {q : Query}

/-- A single operand is joined before the first round. -/
theorem Joins.single (reads : IsRead operand ends text q) :
  Joins next? operand join ends text q
  := by
  intro rest ended
  refine ⟨q, rest, 0, reads rest ended, ?_, ?_⟩
  · rw [Nat.zero_add]
  · intro fuel
    rfl

/-- One more operand is joined in one more round. -/
theorem Joins.more (separator : List Char) {text' : List Char} {q' : Query}
    (joins : Joins next? operand join ends text q) (reads : IsRead operand ends text' q')
    (nonempty : separator ≠ []) (ended : ∀ cs, ends (separator ++ ' ' :: cs))
    (next : ∀ cs, next? (separator ++ ' ' :: cs) = some (' ' :: cs))
    (blank : ∀ cs, operand (' ' :: cs) = operand cs) :
  Joins next? operand join ends (text ++ (separator ++ ' ' :: text')) (join q q')
  := by
  intro rest ended'
  obtain ⟨first, after, rounds, read, room, same⟩ := joins _ (ended (text' ++ rest))
  refine ⟨first, after, rounds + 1, ?_, ?_, ?_⟩
  · rw [List.append_assoc, List.append_assoc, List.cons_append, read]
  · have := List.length_pos_of_ne_nil nonempty
    simp only [List.length_append, List.length_cons] at room
    omega
  · intro fuel
    rw [show fuel + (rounds + 1) = fuel + 1 + rounds by omega, same, readMore, next]
    dsimp only
    rw [blank, reads rest ended']

/-- Where the loop ends, the operands are read as the query to which they are joined. -/
theorem Joins.read (joins : Joins next? operand join ends text q) {rest : List Char}
    (ended : ends rest) (last : next? rest = none) :
  readJoined next? operand join (text ++ rest) = (q, rest)
  := by
  obtain ⟨first, after, rounds, read, room, same⟩ := joins rest ended
  have fuel : after.length + 1 = after.length - rounds + 1 + rounds := by omega
  rw [readJoined, read]
  dsimp only
  rw [fuel, same, readMore, last]

end

/-! ### Levels -/

/-- What may come after an operand of a conjunction. -/
def EndsOperand (rest : List Char) : Prop :=
  Text.Stops isTermChar rest

/-- What may come after an alternative of an expression. -/
def EndsAlternative (rest : List Char) : Prop :=
  EndsOperand rest ∧ nextOperand? rest = none

/-- The readers of a level read a text as a query, given a reader of expressions. -/
def IsReadAt (inner : Reads) : Level → List Char → Query → Prop
  | .primary, text, q =>
    (∀ rest, EndsOperand rest → afterKeyword? ['N', 'O', 'T'] (text ++ rest) = none)
      ∧ IsRead (readPrimary inner) EndsOperand text q
  | .negation, text, q => IsRead (readNegation inner) EndsOperand text q
  | .conjunction, text, q => Joins nextOperand? (readNegation inner) .and EndsOperand text q
  | .expression, text, q =>
    Joins nextAlternative? (readConjunction inner) .or EndsAlternative text q

namespace IsReadAt

variable {inner : Reads} {text : List Char} {q : Query}

theorem negation (reads : IsReadAt inner .primary text q) :
  IsReadAt inner .negation text q
  := by
  intro rest ended
  rw [readNegation, reads.1 rest ended]
  apply reads.2 rest ended

theorem conjunction (reads : IsReadAt inner .negation text q) :
  IsReadAt inner .conjunction text q
  := by
  apply Joins.single reads

theorem isRead_conjunction (reads : IsReadAt inner .conjunction text q) :
  IsRead (readConjunction inner) EndsAlternative text q
  := by
  rintro rest ⟨ended, last⟩
  apply Joins.read reads ended last

theorem expression (reads : IsReadAt inner .conjunction text q) :
  IsReadAt inner .expression text q
  := by
  apply Joins.single reads.isRead_conjunction

/-- What the readers of a level read is read by those of the levels that bind more loosely. -/
theorem loosen {level : Level} (reads : IsReadAt inner level text q) (place : Level)
    (looser : place.rank ≤ level.rank) :
  IsReadAt inner place text q
  := by
  cases level with
  | primary =>
      cases place with
      | primary => apply reads
      | negation => apply reads.negation
      | conjunction => apply reads.negation.conjunction
      | expression => apply reads.negation.conjunction.expression
  | negation =>
      cases place with
      | negation => apply reads
      | conjunction => apply reads.conjunction
      | expression => apply reads.conjunction.expression
      | primary => contradiction
  | conjunction =>
      cases place with
      | conjunction => apply reads
      | expression => apply reads.expression
      | _ => contradiction
  | expression =>
      cases place with
      | expression => apply reads
      | _ => contradiction

/-- What is read at the loosest level is read as an expression, if nothing comes after it. -/
theorem isRead_expression {depth : Nat}
    (reads : IsReadAt (readExpression depth) .expression text q) :
  IsRead (readExpression (depth + 1)) IsOver text q
  := by
  intro rest ended
  apply Joins.read reads ⟨ended.stops, ended.nextOperand?⟩ ended.nextAlternative?

/-- An expression in parentheses is read as a primary. -/
theorem parentheses {depth : Nat} (reads : IsRead (readExpression depth) IsOver text q) :
  IsReadAt (readExpression depth) .primary ('(' :: (text ++ [')'])) q
  := by
  constructor
  · intro rest _
    apply afterKeyword?_mark (isTermChar_of_mem_keywords _ (by decide)) (by decide)
      (by decide +kernel) (by decide)
  · intro rest _
    rw [List.cons_append, List.append_assoc]
    apply readPrimary_parenthesis
    apply reads _ (.close rest)

end IsReadAt

/-! ### Queries -/

theorem isReadAt_word {text : List Char} (word : IsWord text) (inner : Reads) :
  IsReadAt inner .primary text (ofTerm text)
  := by
  constructor
  · intro rest ended
    have different : sameLetters text ['N', 'O', 'T'] = false := by
      apply isKeyword_eq_false_iff.mp word.notKeyword _ (by decide)
    apply afterKeyword?_word (isTermChar_of_mem_keywords _ (by decide)) word.nonempty
      word.isTermChar different ended
  · intro rest ended
    apply word.readPrimary_append inner ended

theorem isReadAt_phrase {text : List Char} (lower : Text.lowerChars text = text)
    (unquoted : '"' ∉ text) (inner : Reads) :
  IsReadAt inner .primary ('"' :: (text ++ ['"'])) (.phrase text)
  := by
  have inside : ∀ c ∈ text, (c != '"') = true := by
    intro c among
    rw [bne_iff_ne]
    rintro rfl
    apply unquoted among
  constructor
  · intro rest _
    apply afterKeyword?_mark (isTermChar_of_mem_keywords _ (by decide)) (by decide)
      (by decide +kernel) (by decide)
  · intro rest _
    have stops : Text.Stops (· != '"') ('"' :: rest) := Text.stops_cons (by decide)
    rw [List.cons_append, List.append_assoc, List.singleton_append, readPrimary_quote,
      Text.takeWhile_append_stops inside stops, Text.dropWhile_append_stops inside stops, lower]
    rfl

/-- An operand is read at its place, in parentheses or not, if its text is read at its level. -/
theorem isReadAt_enclose {q : Query} {text : List Char} (place : Level)
    (reads : ∀ depth, text.length ≤ depth → IsReadAt (readExpression depth) q.level text q)
    (depth : Nat) (enough : (enclose place q text).length ≤ depth) :
  IsReadAt (readExpression depth) place (enclose place q text) q
  := by
  rw [enclose] at enough ⊢
  split
  · next lower =>
      rw [if_pos lower, List.length_cons, List.length_append, List.length_singleton] at enough
      obtain ⟨depth, rfl⟩ : ∃ d, depth = d + 1 := ⟨depth - 1, by omega⟩
      have inside := (reads depth (by omega)).loosen .expression (Nat.zero_le _)
      apply (IsReadAt.parentheses inside.isRead_expression).loosen place
      cases place <;> decide
  · next upper =>
      rw [if_neg upper] at enough
      apply (reads depth enough).loosen place (Nat.not_lt.mp upper)

/-- A printed query is read at its level. -/
theorem IsPrintable.isReadAt {q : Query} (printable : IsPrintable q) {depth : Nat}
    (enough : (print q).length ≤ depth) :
  IsReadAt (readExpression depth) q.level (print q) q
  := by
  induction printable generalizing depth with
  | @term text word literal =>
      have term : ofTerm text = .term text := by
        rw [word.ofTerm_eq]
        rcases literal with without | missing
        · rw [if_neg]
          simpa using without
        · rw [missing]
          apply ite_self
      have reads := isReadAt_word word (readExpression depth)
      rw [term] at reads
      apply reads
  | @phrase text lower unquoted => apply isReadAt_phrase lower unquoted
  | @wildcard glob word star compiles =>
      have wildcard : ofTerm glob.pattern = .wildcard glob := by
        rw [word.ofTerm_eq, if_pos, compiles]
        simpa using star
      have reads := isReadAt_word word (readExpression depth)
      rw [wildcard] at reads
      apply reads
  | @and l r left right ihl ihr =>
      rw [print, List.length_append] at enough
      simp only [List.length_cons] at enough
      have first := isReadAt_enclose .conjunction (fun _ => ihl) depth (by omega)
      have second := isReadAt_enclose .negation (fun _ => ihr) depth (by omega)
      apply Joins.more [' ', 'A', 'N', 'D'] first second
      · decide
      · intro cs
        apply Text.stops_cons rfl
      · apply nextOperand?_and
      · apply readNegation_blank
  | @or l r left right ihl ihr =>
      rw [print, List.length_append] at enough
      simp only [List.length_cons] at enough
      have first := isReadAt_enclose .expression (fun _ => ihl) depth (by omega)
      have second := isReadAt_enclose .conjunction (fun _ => ihr) depth (by omega)
      apply Joins.more [' ', 'O', 'R'] first second.isRead_conjunction
      · decide
      · intro cs
        use Text.stops_cons rfl
        apply nextOperand?_or
      · apply nextAlternative?_or
      · apply readConjunction_blank
  | @not q inner ih =>
      rw [print] at enough ⊢
      simp only [List.length_cons] at enough
      have reads := isReadAt_enclose .primary (fun _ => ih) depth (by omega)
      intro rest ended
      have inside := reads.2 rest ended
      simp only [List.cons_append]
      rw [readNegation_not, inside]

/-! ### Whole texts -/

/-- A text has no blanks at its ends. -/
structure IsTight (text : List Char) : Prop where
  nonempty : text ≠ []
  front : Text.Stops Text.isBlank text
  back : Text.Stops Text.isBlank text.reverse

namespace IsTight

theorem trimBoth {text : List Char} (tight : IsTight text) :
  Text.trimBoth text = text
  := by
  apply Text.trimBoth_of_stops tight.front tight.back

/-- What stands between tight texts does not matter. -/
theorem append {first last : List Char} (tight : IsTight first) (middle : List Char)
    (tight' : IsTight last) :
  IsTight (first ++ (middle ++ last))
  := by
  obtain ⟨c, front, rfl⟩ := List.exists_cons_of_ne_nil tight.nonempty
  refine ⟨List.cons_ne_nil _ _, ?_, ?_⟩
  · apply tight.front
  · have back := tight'.back
    obtain ⟨d, rest, same⟩ :=
      List.exists_cons_of_ne_nil (List.reverse_ne_nil_iff.mpr tight'.nonempty)
    rw [List.reverse_append, List.reverse_append, same, List.append_assoc]
    rw [same] at back
    apply back

theorem of_plain (text : List Char) (nonempty : text ≠ [])
    (plain : ∀ c ∈ text, Text.isBlank c = false) :
  IsTight text
  := by
  refine ⟨nonempty, ?_, ?_⟩
  · intro c first
    apply plain c (List.mem_of_mem_head? first)
  · intro c first
    apply plain c (List.mem_reverse.mp (List.mem_of_mem_head? first))

theorem singleton {c : Char} (visible : Text.isBlank c = false) :
  IsTight [c]
  := by
  apply of_plain [c] (List.cons_ne_nil c [])
  intro d among
  rw [List.mem_singleton.mp among]
  apply visible

theorem enclose {q : Query} {text : List Char} (tight : IsTight text) (place : Level) :
  IsTight (enclose place q text)
  := by
  rw [Query.enclose]
  split
  · have opening : IsTight ['('] := singleton rfl
    apply opening.append text (singleton rfl)
  · apply tight

end IsTight

theorem IsWord.isTight {text : List Char} (word : IsWord text) :
  IsTight text
  := by
  apply IsTight.of_plain text word.nonempty
  intro c among
  apply (word.plain c among).1

/-- A printed query begins and ends with what is visible. -/
theorem IsPrintable.isTight_print {q : Query} (printable : IsPrintable q) :
  IsTight (print q)
  := by
  induction printable with
  | term word _ => apply word.isTight
  | @phrase text _ _ =>
      have quote : IsTight ['"'] := IsTight.singleton rfl
      apply quote.append text quote
  | wildcard word _ _ => apply word.isTight
  | and _ _ ihl ihr =>
      apply (ihl.enclose .conjunction).append [' ', 'A', 'N', 'D', ' '] (ihr.enclose .negation)
  | or _ _ ihl ihr =>
      apply (ihl.enclose .expression).append [' ', 'O', 'R', ' '] (ihr.enclose .conjunction)
  | not _ ih =>
      have letter : IsTight ['N'] := IsTight.singleton rfl
      apply letter.append ['O', 'T', ' '] (ih.enclose .primary)

/-- A printed query is read back. -/
theorem parse_print {q : Query} (printable : IsPrintable q) :
  parse (String.ofList (print q)) = q
  := by
  have reads := (printable.isReadAt le_rfl).loosen .expression (Nat.zero_le _)
  have whole := reads.isRead_expression [] .nil
  rw [List.append_nil] at whole
  rw [parse, String.toList_ofList, printable.isTight_print.trimBoth, whole]

/-- A query with operands at all levels, some of them below their places. -/
def nestedQuery : Query :=
  .or (.term ['a'])
    (.and (.and (.not (.or (.term ['b']) (.phrase ['c', ' ', 'd'])))
        (.wildcard ⟨['e', '*'], [.exactly 'e', .anyText]⟩))
      (.and (.term ['o', 'r', 'b']) (.not (.not (.term ['[', '*', 'z', '-', 'a', ']'])))))

theorem parse_print_nestedQuery :
  IsPrintable nestedQuery
    ∧ String.ofList (print nestedQuery)
      = "a OR NOT (b OR \"c d\") AND e* AND (orb AND NOT (NOT [*z-a]))"
    ∧ parse (String.ofList (print nestedQuery)) = nestedQuery
  := by
  have words : ∀ text ∈ [['a'], ['b'], ['e', '*'], ['o', 'r', 'b'], ['[', '*', 'z', '-', 'a', ']']],
      IsWord text := by
    decide +kernel
  have glob : Glob.ofPattern? ['e', '*'] = some ⟨['e', '*'], [.exactly 'e', .anyText]⟩ := by
    decide +kernel
  have noGlob : Glob.ofPattern? ['[', '*', 'z', '-', 'a', ']'] = none := by
    decide +kernel
  have printable : IsPrintable nestedQuery := by
    apply IsPrintable.or
    · apply IsPrintable.term (words _ (by decide)) (.inl (by decide))
    · apply IsPrintable.and
      · apply IsPrintable.and
        · apply IsPrintable.not
          apply IsPrintable.or
          · apply IsPrintable.term (words _ (by decide)) (.inl (by decide))
          · apply IsPrintable.phrase (by decide) (by decide +kernel)
        · apply IsPrintable.wildcard (words _ (by decide)) (by decide) glob
      · apply IsPrintable.and
        · apply IsPrintable.term (words _ (by decide)) (.inl (by decide))
        · apply IsPrintable.not
          apply IsPrintable.not
          apply IsPrintable.term (words _ (by decide)) (.inr noGlob)
  use printable
  constructor
  · rfl
  · apply parse_print printable

end Toolshed.Query
