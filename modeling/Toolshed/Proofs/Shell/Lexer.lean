import Toolshed.Shell.Quoting
import Mathlib.Data.List.Basic
import Mathlib.Data.List.Infix

/-!
# How a shell reads text

A shell reads a text character by character.  Outside of quotes, blanks separate words, operators
stand for themselves and a backslash takes the meaning of the next character away; single quotes
take it away from everything between them; between double quotes, expansions keep their meaning.
What the shell finds is a list of marks.

Main statement: in a state in which nothing is open, a quoted value is read as characters of one
word, and leaves nothing open (`read_quoteIfUnsafe`).
-/

namespace Toolshed.Shell

/-! ### Marks and states -/

/-- What a shell finds in a text. -/
inductive Mark where
  /-- A word begins. -/
  | word
  /-- A character of a word, once quotes are removed. -/
  | text (c : Char)
  | operator (c : Char)
  /-- An expansion begins, with the character that tells which one. -/
  | expansion (c : Char)
  /-- One more character of the name of an expansion. -/
  | name (c : Char)
deriving DecidableEq

/-- What the characters before leave open for the next one. -/
inductive Pending where
  | nothing
  | backslash
  | dollar
  /-- The name of an expansion, which the next character may be part of. -/
  | name
deriving DecidableEq

/-- The state of a shell that reads a text. -/
inductive ReadState where
  /-- Outside of quotes, inside a word or not. -/
  | plain (inWord : Bool) (pending : Pending)
  | single
  | double (pending : Pending)
deriving DecidableEq

/-- The state before a text. -/
def ReadState.start : ReadState :=
  .plain false .nothing

/-- The state inside a word that leaves nothing open. -/
def ReadState.inside : ReadState :=
  .plain true .nothing

/-- Outside of quotes, with nothing open. -/
def ReadState.IsOpen (s : ReadState) : Prop :=
  ∃ inWord, s = .plain inWord .nothing

instance (s : ReadState) : Decidable s.IsOpen :=
  match s with
  | .plain inWord .nothing => .isTrue ⟨inWord, rfl⟩
  | .plain _ .backslash | .plain _ .dollar | .plain _ .name | .single | .double _ =>
    .isFalse (by rintro ⟨_, ⟨⟩⟩)

/-! ### Reading -/

/-- The operators, a line feed among them. -/
def isOperator (c : Char) : Bool :=
  c ∈ ['|', '&', ';', '<', '>', '(', ')', '\n']

/-- The character around a command whose output is expanded. -/
def backquote : Char := '\x60'

/-- The characters that may start the name of a variable. -/
def isNameStart (c : Char) : Bool :=
  c.isAlpha || c = '_'

/-- The characters of the name of a variable. -/
def isNameChar (c : Char) : Bool :=
  c.isAlphanum || c = '_'

/-- The characters that make an expansion of a dollar sign before them. -/
def startsExpansion (c : Char) : Bool :=
  isNameChar c || c ∈ ['@', '*', '#', '?', '-', '$', '!', '\x7b', '(']

/-- The characters that a backslash takes the meaning away from between double quotes. -/
def isEscapable (c : Char) : Bool :=
  c ∈ ['$', '"', '\\', backquote]

/-- The mark of a word that begins, unless it has begun before. -/
def beginWord (inWord : Bool) : List Mark :=
  if inWord then [] else [.word]

/-- What follows the character after a dollar sign. -/
def afterDollar (c : Char) : Pending :=
  if isNameStart c then .name else .nothing

/-- A character outside of quotes. -/
def readPlain (inWord : Bool) (c : Char) : List Mark × ReadState :=
  if c = '\\' then ([], .plain inWord .backslash)
  else if c = '\'' then (beginWord inWord, .single)
  else if c = '"' then (beginWord inWord, .double .nothing)
  else if c = ' ' ∨ c = '\t' then ([], .start)
  else if isOperator c then ([.operator c], .start)
  else if c = '$' then (beginWord inWord, .plain true .dollar)
  else if c = backquote then (beginWord inWord ++ [.expansion c], .inside)
  else (beginWord inWord ++ [.text c], .inside)

/-- A character between double quotes. -/
def readDouble (c : Char) : List Mark × ReadState :=
  if c = '"' then ([], .inside)
  else if c = '\\' then ([], .double .backslash)
  else if c = '$' then ([], .double .dollar)
  else if c = backquote then ([.expansion c], .double .nothing)
  else ([.text c], .double .nothing)

/-- Marks before those of a character. -/
def after (marks : List Mark) (read : List Mark × ReadState) : List Mark × ReadState :=
  (marks ++ read.1, read.2)

/-- What a character is read as in a state, and the state after it. -/
def readChar : ReadState → Char → List Mark × ReadState
  | .single, c => if c = '\'' then ([], .inside) else ([.text c], .single)
  | .plain inWord .nothing, c => readPlain inWord c
  | .plain inWord .backslash, c =>
    if c = '\n' then ([], .plain inWord .nothing) else (beginWord inWord ++ [.text c], .inside)
  | .plain inWord .dollar, c =>
    if startsExpansion c then ([.expansion c], .plain true (afterDollar c))
    else after [.text '$'] (readPlain inWord c)
  | .plain inWord .name, c =>
    if isNameChar c then ([.name c], .plain inWord .name) else readPlain inWord c
  | .double .nothing, c => readDouble c
  | .double .backslash, c =>
    if c = '\n' then ([], .double .nothing)
    else if isEscapable c then ([.text c], .double .nothing)
    else ([.text '\\', .text c], .double .nothing)
  | .double .dollar, c =>
    if startsExpansion c then ([.expansion c], .double (afterDollar c))
    else after [.text '$'] (readDouble c)
  | .double .name, c =>
    if isNameChar c then ([.name c], .double .name) else readDouble c

/-- What a text is read as from a state on, and the state after it. -/
def read : ReadState → List Char → List Mark × ReadState
  | s, [] => ([], s)
  | s, c :: cs => after (readChar s c).1 (read (readChar s c).2 cs)

/-- What is left open at the end of a text stands for itself. -/
def ReadState.atEnd : ReadState → List Mark
  | .plain inWord .backslash => beginWord inWord ++ [.text '\\']
  | .double .backslash => [.text '\\']
  | .plain _ .dollar | .double .dollar => [.text '$']
  | _ => []

/-- What a whole text is read as. -/
def readText (cs : List Char) : List Mark :=
  (read .start cs).1 ++ (read .start cs).2.atEnd

theorem read_append (s : ReadState) (cs ds : List Char) :
  read s (cs ++ ds) = after (read s cs).1 (read (read s cs).2 ds)
  := by
  induction cs generalizing s with
  | nil => rfl
  | cons c cs ih => simp only [List.cons_append, read, ih, after, List.append_assoc]

/-! ### Quoted values -/

/-- A character that needs no quotes means nothing to a shell. -/
theorem readPlain_of_safe {c : Char} (h : (Text.isBlank c || isMeta c) = false) (inWord : Bool) :
  readPlain inWord c = (beginWord inWord ++ [.text c], .inside)
  := by
  have other : ∀ d, (Text.isBlank d || isMeta d) = true → c ≠ d := by
    rintro d hd rfl
    rw [hd] at h
    cases h
  have noOperator : ¬ isOperator c = true := by
    intro hc
    simp only [isOperator, List.mem_cons, List.not_mem_nil, or_false, decide_eq_true_eq] at hc
    rcases hc with hc | hc | hc | hc | hc | hc | hc | hc
    all_goals exact other _ (by decide) hc
  have noBlank : ¬ (c = ' ' ∨ c = '\t') := by
    rintro (hc | hc)
    all_goals exact other _ (by decide) hc
  rw [readPlain, if_neg (other _ (by decide)), if_neg (other _ (by decide)),
    if_neg (other _ (by decide)), if_neg noBlank, if_neg noOperator, if_neg (other _ (by decide)),
    if_neg (other _ (by decide))]

theorem read_inside_of_safe {value : List Char} (h : needsQuoting value = false) :
  read .inside value = (value.map .text, .inside)
  := by
  induction value with
  | nil => rfl
  | cons c cs ih =>
      rw [needsQuoting, List.any_cons, Bool.or_eq_false_iff] at h
      rw [read]
      simp only [ReadState.inside, readChar, readPlain_of_safe h.1]
      rw [← ReadState.inside, ih h.2]
      rfl

theorem read_quoteChar (c : Char) :
  read .single (quoteChar c) = ([.text c], .single)
  := by
  rw [quoteChar]
  split
  · rename_i h
    rcases h with rfl | rfl
    · rfl
    · rfl
  · rename_i h
    simp only [read, readChar, if_neg (not_or.mp h).1]
    rfl

theorem read_single_flatMap (value : List Char) :
  read .single (value.flatMap quoteChar) = (value.map .text, .single)
  := by
  induction value with
  | nil => rfl
  | cons c cs ih =>
      rw [List.flatMap_cons, read_append, read_quoteChar, ih]
      rfl

/-- A value that is quoted if need be is read as characters of one word. -/
theorem read_quoteIfUnsafe {value : List Char} (h : value ≠ []) (inWord : Bool) :
  read (.plain inWord .nothing) (quoteIfUnsafe value)
    = (beginWord inWord ++ value.map .text, .inside)
  := by
  rw [quoteIfUnsafe]
  split
  · rw [quote, List.cons_append, read, readChar, readPlain, if_neg (by decide), if_pos rfl,
      read_append, read_single_flatMap]
    simp [after, read, readChar]
  · rename_i safe
    rw [Bool.not_eq_true] at safe
    obtain ⟨c, cs, rfl⟩ := List.exists_cons_of_ne_nil h
    rw [needsQuoting, List.any_cons, Bool.or_eq_false_iff] at safe
    rw [read, readChar, readPlain_of_safe safe.1, read_inside_of_safe safe.2]
    simp only [after, List.append_assoc]
    rfl

/-! ### The structure of a text -/

/-- The operator that a mark is. -/
def Mark.operator? : Mark → Option Char
  | .operator c => some c
  | _ => none

/-- The mark is part of an expansion. -/
def Mark.isOfExpansion : Mark → Bool
  | .expansion _ | .name _ => true
  | _ => false

/-- The mark is an operator or part of an expansion. -/
def Mark.isActive (m : Mark) : Bool :=
  m.operator?.isSome || m.isOfExpansion

/-- What a text means to a shell, whatever its words are. -/
structure Shape where
  operators : List Char
  /-- The expansions with their names. -/
  expansions : List Mark
  words : Nat
deriving DecidableEq

/-- The structure of what a text is read as. -/
def shapeOf (marks : List Mark) : Shape :=
  ⟨marks.filterMap Mark.operator?, marks.filter Mark.isOfExpansion, marks.count .word⟩

/-- The structure of a text. -/
def shape (cs : List Char) : Shape :=
  shapeOf (readText cs)

/-- The number of operators and of marks of expansions. -/
def Shape.size (s : Shape) : Nat :=
  s.operators.length + s.expansions.length

theorem size_shapeOf (marks : List Mark) :
  (shapeOf marks).size = marks.countP Mark.isActive
  := by
  induction marks with
  | nil => rfl
  | cons m marks ih =>
      simp only [Shape.size, shapeOf] at ih
      simp only [Shape.size, shapeOf, List.filterMap_cons, List.filter_cons, List.countP_cons, ← ih]
      cases m with
      | word | text => simp [Mark.operator?, Mark.isOfExpansion, Mark.isActive]
      | operator | expansion | name =>
          simp [Mark.operator?, Mark.isOfExpansion, Mark.isActive]
          omega

/-- The marks other than the characters of words. -/
def outline (marks : List Mark) : List Mark :=
  marks.filter fun m => m.isActive || m = .word

theorem outline_append (marks others : List Mark) :
  outline (marks ++ others) = outline marks ++ outline others
  := List.filter_append _ _

theorem outline_map_text (cs : List Char) :
  outline (cs.map .text) = []
  := by
  simp [outline, Mark.isActive, Mark.operator?, Mark.isOfExpansion]

/-- The characters of words have no part in the structure. -/
theorem shapeOf_outline (marks : List Mark) :
  shapeOf (outline marks) = shapeOf marks
  := by
  simp only [shapeOf, outline, List.filterMap_filter, List.filter_filter, Shape.mk.injEq]
  refine ⟨?_, ?_, ?_⟩
  · apply List.filterMap_congr
    intro m _
    cases m <;> rfl
  · apply List.filter_congr
    intro m _
    cases m <;> rfl
  · apply List.count_filter
    rfl

/-! ### Values that are not read as they should -/

/-- A character that is active in every state of a class, and leads to such states only, is active
every time. -/
theorem le_active_read_replicate {P : ReadState → Prop} {u : Char}
    (active : ∀ s, P s → 1 ≤ (readChar s u).1.countP Mark.isActive ∧ P (readChar s u).2)
    {s : ReadState} (h : P s) (n : Nat) :
  n ≤ (read s (List.replicate n u)).1.countP Mark.isActive
  := by
  induction n generalizing s with
  | zero => apply Nat.zero_le
  | succ n ih =>
      have first := active s h
      have others := ih first.2
      simp only [List.replicate_succ, read, after, List.countP_append]
      omega

/-- If a single quote leads to a class of states in which a character is active, so is every copy
of it in a quoted value. -/
theorem le_active_read_quote {P : ReadState → Prop} {u : Char}
    (active : ∀ s, P s → 1 ≤ (readChar s u).1.countP Mark.isActive ∧ P (readChar s u).2)
    (plainly : quoteChar u = [u]) {s : ReadState} (h : P (readChar s '\'').2) (n : Nat) :
  n ≤ (read s (quote (List.replicate n u))).1.countP Mark.isActive
  := by
  have copies : (List.replicate n u).flatMap quoteChar = List.replicate n u := by
    rw [List.flatMap_replicate, plainly]
    simp
  have inner := le_active_read_replicate active h n
  rw [quote, copies, List.cons_append, read, read_append]
  simp only [after, List.countP_append]
  omega

/-- A value with a character that a shell does not take as it stands is quoted. -/
theorem quoteIfUnsafe_replicate {u : Char} (h : (Text.isBlank u || isMeta u) = true) (n : Nat) :
  quoteIfUnsafe (List.replicate (n + 1) u) = quote (List.replicate (n + 1) u)
  := by
  rw [quoteIfUnsafe, if_pos]
  rw [needsQuoting, List.replicate_succ, List.any_cons, h, Bool.true_or]

/-- In every state that is not open there is a character that is active in a value, although the
value is quoted if need be, as often as one wants. -/
theorem exists_active_of_not_isOpen {s : ReadState} (h : ¬ s.IsOpen) :
  ∃ u, ∀ n, n + 1 ≤
    (read s (quoteIfUnsafe (List.replicate (n + 1) u))).1.countP Mark.isActive
  := by
  -- Quotes that close others, or that are taken away, leave an operator active.
  have operators : ∀ s, s.IsOpen →
      1 ≤ (readChar s ';').1.countP Mark.isActive ∧ (readChar s ';').2.IsOpen := by
    rintro _ ⟨inWord, rfl⟩
    exact ⟨le_rfl, false, rfl⟩
  -- Between double quotes, expansions are active.
  have expansions : ∀ s, s = .double .nothing →
      1 ≤ (readChar s backquote).1.countP Mark.isActive ∧
        (readChar s backquote).2 = .double .nothing := by
    rintro _ rfl
    exact ⟨le_rfl, rfl⟩
  -- After a dollar sign or a name, a letter is part of a name.
  have names : ∀ s, (∃ inWord, s = .plain inWord .dollar ∨ s = .plain inWord .name) →
      1 ≤ (readChar s 'a').1.countP Mark.isActive ∧
        ∃ inWord, (readChar s 'a').2 = .plain inWord .dollar ∨
          (readChar s 'a').2 = .plain inWord .name := by
    rintro _ ⟨inWord, rfl | rfl⟩
    · exact ⟨le_rfl, true, .inr rfl⟩
    · exact ⟨le_rfl, inWord, .inr rfl⟩
  cases s with
  | single =>
      use ';'
      intro n
      rw [quoteIfUnsafe_replicate (by decide)]
      apply le_active_read_quote operators (by decide) ⟨true, rfl⟩
  | double pending =>
      use backquote
      intro n
      rw [quoteIfUnsafe_replicate (by decide)]
      apply le_active_read_quote expansions (by decide)
      cases pending <;> rfl
  | plain inWord pending =>
      cases pending with
      | nothing => exact (h ⟨inWord, rfl⟩).elim
      | backslash =>
          use ';'
          intro n
          rw [quoteIfUnsafe_replicate (by decide)]
          apply le_active_read_quote operators (by decide) ⟨true, rfl⟩
      | dollar | name =>
          use 'a'
          intro n
          rw [quoteIfUnsafe, if_neg (by simp [needsQuoting, List.any_replicate]; decide)]
          apply le_active_read_replicate names
          simp

end Toolshed.Shell
