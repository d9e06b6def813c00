import Toolshed.Proofs.Shell.Lexer

/-!
# The words that a shell takes a text for

Where nothing is open and no word has begun, a number sign starts a comment, which runs to the end
of the line.  The characters of a word that stand outside of quotes may still make a pattern of it,
or a home directory of its beginning; those inside may not.  So every mark is told with whether
quotes or a backslash take the meaning of its character away.

Main statement: a value that is quoted if need be is one word, whose text without its quotes is the
value and which the shell takes as it stands (`lex_quoteIfUnsafe`).
-/

namespace Toolshed.Shell

/-! ### Signs -/

/-- A mark, and whether its character has lost its meaning to quotes or to a backslash. -/
structure Sign where
  mark : Mark
  isQuoted : Bool
deriving DecidableEq

/-- The characters that mean something in a word: they make a pattern for the names of files, stand
for a home directory, or are commands of the shell. -/
def isSpecial (c : Char) : Bool :=
  c ∈ ['*', '?', '[', '~', '!', '\x7b', '\x7d']

/-- A shell does something with the sign other than take its character for part of a word. -/
def Sign.isActive (s : Sign) : Bool :=
  match s.mark with
  | .word => false
  | .text c => !s.isQuoted && isSpecial c
  | .operator _ | .expansion _ | .name _ => true

/-- The state of a shell that reads a text with comments. -/
inductive LexState where
  | text (state : ReadState)
  | comment
deriving DecidableEq

/-- The next character stands in quotes, or after a backslash. -/
def ReadState.isQuoting : ReadState → Bool
  | .single | .double _ | .plain _ .backslash => true
  | .plain _ .nothing | .plain _ .dollar | .plain _ .name => false

/-- What a shell finds at a character, and the state after it. -/
def lexChar : LexState → Char → List Sign × LexState
  | .comment, c => if c = '\n' then ([⟨.operator c, false⟩], .text .start) else ([], .comment)
  | .text s, c =>
    if c = '#' ∧ s = .start then ([], .comment)
    else ((readChar s c).1.map (⟨·, s.isQuoting⟩), .text (readChar s c).2)

/-- What a shell finds in a text, and the state after it. -/
def lex : LexState → List Char → List Sign × LexState
  | s, [] => ([], s)
  | s, c :: cs =>
    let (signs, next) := lexChar s c
    let (others, last) := lex next cs
    (signs ++ others, last)

theorem lex_nil (s : LexState) :
  lex s [] = ([], s)
  := by
  rfl

theorem lex_cons (s : LexState) (c : Char) (cs : List Char) :
  lex s (c :: cs) = ((lexChar s c).1 ++ (lex (lexChar s c).2 cs).1, (lex (lexChar s c).2 cs).2)
  := by
  rfl

theorem lex_append (s : LexState) (cs ds : List Char) :
  lex s (cs ++ ds) = ((lex s cs).1 ++ (lex (lex s cs).2 ds).1, (lex (lex s cs).2 ds).2)
  := by
  induction cs generalizing s with
  | nil => rfl
  | cons c cs ih => rw [List.cons_append, lex_cons, lex_cons, ih, List.append_assoc]

/-! ### Quoted values -/

/-- The signs of a value, all quoted or none, and of the beginning of its word. -/
def signsOf (inWord isQuoted : Bool) (value : List Char) : List Sign :=
  (beginWord inWord).map (⟨·, false⟩) ++ value.map (⟨.text ·, isQuoted⟩)

theorem map_mark_signsOf (inWord isQuoted : Bool) (value : List Char) :
  (signsOf inWord isQuoted value).map Sign.mark = beginWord inWord ++ value.map .text
  := by
  rw [signsOf, List.map_append, List.map_map, List.map_map]
  exact congrArg (· ++ _) (List.map_id _)

/-- A value is taken as it stands if it is quoted, or holds no special character. -/
theorem isActive_of_mem_signsOf {inWord isQuoted : Bool} {value : List Char}
    (safe : ∀ c ∈ value, isQuoted = true ∨ isSpecial c = false) :
  ∀ sign ∈ signsOf inWord isQuoted value, sign.isActive = false
  := by
  intro sign among
  rcases List.mem_append.mp among with first | other
  · obtain ⟨mark, begins, rfl⟩ := List.mem_map.mp first
    cases inWord with
    | true => cases begins
    | false =>
        rw [List.mem_singleton.mp begins]
        rfl
  · obtain ⟨c, inside, rfl⟩ := List.mem_map.mp other
    rcases safe c inside with quoted | plain
    · simp [Sign.isActive, quoted]
    · simp [Sign.isActive, plain]

theorem lexChar_of_safe {c : Char} (h : (Text.isBlank c || isMeta c) = false) (inWord : Bool) :
  lexChar (.text (.plain inWord .nothing)) c = (signsOf inWord false [c], .text .inside)
  := by
  have noComment : ¬ (c = '#' ∧ ReadState.plain inWord .nothing = .start) := by
    rintro ⟨rfl, -⟩
    revert h
    decide
  rw [lexChar, if_neg noComment]
  simp only [readChar, readPlain_of_safe h, List.map_append]
  rfl

/-- A value that needs no quotes is read as characters of one word. -/
theorem lex_of_safe {value : List Char} (nonempty : value ≠ []) (safe : needsQuoting value = false)
    (inWord : Bool) :
  lex (.text (.plain inWord .nothing)) value = (signsOf inWord false value, .text .inside)
  := by
  induction value generalizing inWord with
  | nil => cases nonempty rfl
  | cons c cs ih =>
      rw [needsQuoting, List.any_cons, Bool.or_eq_false_iff] at safe
      rw [lex_cons, lexChar_of_safe safe.1]
      by_cases last : cs = []
      · subst last
        rw [lex_nil, List.append_nil]
      · rw [ReadState.inside, ih last safe.2]
        simp [signsOf, beginWord, ReadState.inside]

theorem lex_quoteChar (c : Char) :
  lex (.text .single) (quoteChar c) = ([⟨.text c, true⟩], .text .single)
  := by
  rw [quoteChar]
  split
  · next special =>
      rcases special with rfl | rfl
      · rfl
      · rfl
  · next plain =>
      have inside : readChar .single c = ([.text c], .single) := by
        rw [readChar, if_neg (not_or.mp plain).1]
      rw [lex_cons, lexChar, if_neg (by rintro ⟨_, ⟨⟩⟩), inside]
      rfl

theorem lex_flatMap_quoteChar (value : List Char) :
  lex (.text .single) (value.flatMap quoteChar) = (value.map (⟨.text ·, true⟩), .text .single)
  := by
  induction value with
  | nil => rfl
  | cons c cs ih =>
      rw [List.flatMap_cons, lex_append, lex_quoteChar, ih]
      rfl

/-- A value between quotes is read as characters of one word, and no quote is left open. -/
theorem lex_quote (value : List Char) (inWord : Bool) :
  lex (.text (.plain inWord .nothing)) (quote value)
    = (signsOf inWord true value, .text .inside)
  := by
  have opening : lexChar (.text (.plain inWord .nothing)) '\''
      = ((beginWord inWord).map (⟨·, false⟩), .text .single) := by
    rfl
  have closing : lex (.text .single) ['\''] = ([], .text .inside) := by
    rfl
  rw [quote, List.cons_append, lex_cons, opening, lex_append, lex_flatMap_quoteChar, closing,
    List.append_nil]
  rfl

theorem isMeta_of_isSpecial {c : Char} (special : isSpecial c = true) :
  isMeta c = true
  := by
  simp only [isSpecial, List.mem_cons, List.not_mem_nil, or_false, decide_eq_true_eq] at special
  rcases special with rfl | rfl | rfl | rfl | rfl | rfl | rfl
  all_goals rfl

/-- A value between quotes is longer than the value. -/
theorem length_lt_length_quote (value : List Char) :
  value.length < (quote value).length
  := by
  have each : ∀ c, 1 ≤ (quoteChar c).length := by
    intro c
    rw [quoteChar]
    split
    · exact Nat.le_add_left 1 3
    · exact le_rfl
  have inner : value.length ≤ (value.flatMap quoteChar).length := by
    induction value with
    | nil => exact le_rfl
    | cons c cs ih =>
        have := each c
        rw [List.flatMap_cons, List.length_append, List.length_cons]
        omega
  rw [quote, List.cons_append, List.length_cons, List.length_append]
  omega

theorem needsQuoting_eq_false_iff {value : List Char} :
  needsQuoting value = false ↔ ∀ c ∈ value, Text.isBlank c = false ∧ isMeta c = false
  := by
  simp [needsQuoting]

theorem quoteIfUnsafe_eq_iff {value : List Char} :
  quoteIfUnsafe value = value ↔ needsQuoting value = false
  := by
  rw [quoteIfUnsafe]
  split
  · next exposed =>
      rw [exposed]
      apply iff_of_false
      · intro same
        have longer := length_lt_length_quote value
        rw [same] at longer
        apply lt_irrefl _ longer
      · exact Bool.true_eq_false.mp
  · next safe => exact iff_of_true rfl (Bool.eq_false_iff.mpr safe)

/-- Wherever a shell has nothing open, it takes a value that is quoted if need be for one word, or
for none if the value is empty.  The text of the word without its quotes is the value; it holds no
operator, no expansion and no pattern, and it leaves nothing open.  A value is left as it is exactly
when it holds neither blanks nor characters that mean something to a shell. -/
theorem lex_quoteIfUnsafe (value : List Char) (inWord : Bool) :
  (lex (.text (.plain inWord .nothing)) (quoteIfUnsafe value)).1.map Sign.mark
      = (if value = [] then [] else beginWord inWord ++ value.map .text)
    ∧ (∀ sign ∈ (lex (.text (.plain inWord .nothing)) (quoteIfUnsafe value)).1,
      sign.isActive = false)
    ∧ (lex (.text (.plain inWord .nothing)) (quoteIfUnsafe value)).2
      = .text (.plain (inWord || !value.isEmpty) .nothing)
    ∧ (quoteIfUnsafe value = value ↔ ∀ c ∈ value, Text.isBlank c = false ∧ isMeta c = false)
  := by
  rw [← needsQuoting_eq_false_iff, quoteIfUnsafe_eq_iff]
  by_cases empty : value = []
  · subst empty
    simp [quoteIfUnsafe, needsQuoting, lex]
  · rw [if_neg empty, List.isEmpty_eq_false_iff.mpr empty, Bool.not_false, Bool.or_true,
      quoteIfUnsafe]
    by_cases exposed : needsQuoting value = true
    · rw [if_pos exposed, lex_quote]
      refine ⟨map_mark_signsOf _ _ _, ?_, rfl, Iff.rfl⟩
      apply isActive_of_mem_signsOf
      intro c _
      exact .inl rfl
    · have safe := Bool.eq_false_iff.mpr exposed
      rw [if_neg exposed, lex_of_safe empty safe]
      refine ⟨map_mark_signsOf _ _ _, ?_, rfl, Iff.rfl⟩
      apply isActive_of_mem_signsOf
      intro c among
      right
      rw [Bool.eq_false_iff]
      intro special
      have plain := (needsQuoting_eq_false_iff.mp safe c among).2
      rw [isMeta_of_isSpecial special] at plain
      cases plain

end Toolshed.Shell
