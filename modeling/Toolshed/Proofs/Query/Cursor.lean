import Toolshed.Proofs.Query.Keywords

/-!
# Reading queries along a cursor

A query can also be read by moving a position along its text, which gives the same query as reading
from the front of the rest (see `Progress`).  Nothing bounds the loops and the nesting here: such a
reading has no result where it goes on for ever, and none where it takes a piece of the text that is
not there.  It keeps a record of what it has done from which position to which.

The reader is written as the least fixed point of its equations, and only these are used of it.
-/

namespace Toolshed.Query

/-- What is done along a text: looking ahead and reading the levels of the grammar, and besides, as
parts of a level, the rounds of a loop that go on and the ways into parentheses. -/
inductive Act where
  | blanks
  | word
  | keyword
  | negationAhead
  | operandAhead
  | expression
  | conjunction
  | negation
  | primary
  | phrase
  | term
  | alternativeRound
  | operandRound
  | opening
deriving DecidableEq, Inhabited

/-- The acts without which a reading might go on for ever. -/
def Act.consumes : Act → Bool
  | .alternativeRound => true
  | .operandRound => true
  | .opening => true
  | _ => false

/-- An act from one position to another. -/
structure Visit where
  act : Act
  start : Nat
  stop : Nat
deriving DecidableEq, Inhabited

/-- A position in a text, with the acts that have led to it, the last one first. -/
structure Cursor where
  position : Nat
  visits : List Visit
deriving DecidableEq, Inhabited

/-- A reading along a text; no result stands for one that does not end, or leaves the text. -/
abbrev Walk := StateT Cursor Option

/-- A text to read. -/
abbrev Characters := List Char

namespace Walk

/-! ### Moving -/

def position : Walk Nat := do
  return (← get).position

def moveTo (place : Nat) : Walk Unit :=
  modify fun cursor => { cursor with position := place }

def advance : Walk Unit := do
  moveTo ((← position) + 1)

/-- The record of an act that ends here. -/
def visited (act : Act) (start : Nat) : Walk Unit :=
  modify fun cursor => { cursor with visits := ⟨act, start, cursor.position⟩ :: cursor.visits }

/-- A walk that is recorded as an act. -/
abbrev called {α : Type} (act : Act) (walk : Walk α) : Walk α := do
  let start ← position
  let answer ← walk
  visited act start
  return answer

end Walk

namespace Characters

open Walk

/-- The character at the position. -/
def next? (chars : Characters) : Walk (Option Char) := do
  return chars[← position]?

/-- A piece of the text, which has to be there. -/
def slice (chars : Characters) (start stop : Nat) : Walk (List Char) :=
  if start ≤ stop ∧ stop ≤ chars.length then return (chars.take stop).drop start else failure

def skipWhile (chars : Characters) (p : Char → Bool) : Walk Unit := do
  if (← chars |>.next?).any p then
    advance
    chars |>.skipWhile p
partial_fixpoint

/-! ### Looking ahead -/

def skipBlanks (chars : Characters) : Walk Unit := called .blanks do
  chars |>.skipWhile Text.isBlank

/-- The next word, which is not consumed. -/
def word (chars : Characters) : Walk (List Char) := called .word do
  chars |>.skipBlanks
  let rest ← chars |>.slice (← position) chars.length
  return rest.takeWhile fun c => !Text.isBlank c

/-- The keyword comes next and is consumed. -/
def keyword (chars : Characters) (letters : List Char) : Walk Bool := called .keyword do
  chars |>.skipBlanks
  let first ← position
  let last := first + letters.length
  if chars.length < last then
    return false
  else
    let candidate ← chars |>.slice first last
    if sameLetters candidate letters && chars[last]?.all Text.isBlank then
      moveTo last
      return true
    else
      return false

def negationAhead (chars : Characters) : Walk Bool := called .negationAhead do
  return sameLetters (← chars |>.word) ['N', 'O', 'T']

def operandAhead (chars : Characters) : Walk Bool := called .operandAhead do
  chars |>.skipBlanks
  match ← chars |>.next? with
  | none => return false
  | some c =>
    if c = '(' ∨ c = ')' then
      return false
    else
      return !isKeyword (← chars |>.word)

/-- One more operand of a conjunction comes next; a keyword that announces it is consumed. -/
def operandNext (chars : Characters) : Walk Bool := do
  if ← chars |>.keyword ['A', 'N', 'D'] then
    return true
  else if ← chars |>.negationAhead then
    return true
  else
    chars |>.operandAhead

/-! ### Reading -/

/-- The characters in front that pass a test, which are consumed. -/
def stretch (chars : Characters) (p : Char → Bool) : Walk (List Char) := do
  let first ← position
  chars |>.skipWhile p
  chars |>.slice first (← position)

def phrase (chars : Characters) : Walk Query := called .phrase do
  advance
  let text ← chars |>.stretch (· != '"')
  if (← position) < chars.length then
    advance
  return .phrase (Text.lowerChars text)

def term (chars : Characters) : Walk Query := called .term do
  return ofTerm (← chars |>.stretch isTermChar)

/-- A parenthesis that closes is consumed. -/
def closing (chars : Characters) : Walk Unit := do
  chars |>.skipBlanks
  if (← chars |>.next?) = some ')' then
    advance

mutual

def expression (chars : Characters) : Walk Query := called .expression do
  let first ← chars |>.conjunction
  chars |>.alternatives first
partial_fixpoint

def alternatives (chars : Characters) (left : Query) : Walk Query := do
  let start ← position
  if ← chars |>.keyword ['O', 'R'] then
    let right ← chars |>.conjunction
    visited .alternativeRound start
    chars |>.alternatives (.or left right)
  else
    return left
partial_fixpoint

def conjunction (chars : Characters) : Walk Query := called .conjunction do
  let first ← chars |>.negation
  chars |>.operands first
partial_fixpoint

def operands (chars : Characters) (left : Query) : Walk Query := do
  let start ← position
  if ← chars |>.operandNext then
    let right ← chars |>.negation
    visited .operandRound start
    chars |>.operands (.and left right)
  else
    return left
partial_fixpoint

def negation (chars : Characters) : Walk Query := called .negation do
  if ← chars |>.keyword ['N', 'O', 'T'] then
    return .not (← chars |>.primary)
  else
    chars |>.primary
partial_fixpoint

def primary (chars : Characters) : Walk Query := called .primary do
  chars |>.skipBlanks
  match ← chars |>.next? with
  | none => return .all
  | some c =>
    if c = '(' then
      chars |>.group
    else if c = '"' then
      chars |>.phrase
    else
      chars |>.term
partial_fixpoint

def group (chars : Characters) : Walk Query := do
  called .opening advance
  let inner ← chars |>.expression
  chars |>.closing
  return inner
partial_fixpoint

end

def query (chars : Characters) : Walk Query :=
  if chars.isEmpty then return .all else chars |>.expression

end Characters

/-! ### Walks that end -/

/-- An act goes forward and stays in the text, and it consumes a character if it has to. -/
structure Visit.IsSound (chars : List Char) (visit : Visit) : Prop where
  forward : visit.start ≤ visit.stop
  inside : visit.stop ≤ chars.length
  consumes : visit.act.consumes = true → visit.start < visit.stop

/-- From a position a walk ends, in the text and not before the position, with an answer and a place
of some kind; what it adds to the record is sound. -/
def Ends {α : Type} (chars : List Char) (walk : Walk α) (start : Nat) (post : α → Nat → Prop) :
    Prop :=
  ∀ visits, ∃ answer stop new, walk ⟨start, visits⟩ = some (answer, ⟨stop, new ++ visits⟩)
    ∧ start ≤ stop ∧ stop ≤ chars.length ∧ (∀ visit ∈ new, visit.IsSound chars) ∧ post answer stop

section

variable {α β : Type} {chars : List Char} {walk : Walk α} {start : Nat} {post : α → Nat → Prop}

theorem Ends.mono (ends : Ends chars walk start post) {post' : α → Nat → Prop}
    (weaker : ∀ answer stop, start ≤ stop → stop ≤ chars.length → post answer stop →
      post' answer stop) :
  Ends chars walk start post'
  := by
  intro visits
  obtain ⟨answer, stop, new, ran, forward, inside, sound, holds⟩ := ends visits
  refine ⟨answer, stop, new, ran, forward, inside, sound, ?_⟩
  apply weaker answer stop forward inside holds

theorem Ends.pure {answer : α} (inside : start ≤ chars.length) (holds : post answer start) :
  Ends chars (pure answer) start post
  := by
  intro visits
  refine ⟨answer, start, [], rfl, le_rfl, inside, ?_, holds⟩
  rintro _ ⟨⟩

/-- Of two walks one after the other, the second begins where the first ends. -/
theorem Ends.bind {next : α → Walk β} {post' : β → Nat → Prop} (first : Ends chars walk start post)
    (second : ∀ answer stop, start ≤ stop → stop ≤ chars.length → post answer stop →
      Ends chars (next answer) stop post') :
  Ends chars (walk >>= next) start post'
  := by
  intro visits
  obtain ⟨answer, middle, new, ran, forward, inside, sound, holds⟩ := first visits
  obtain ⟨answer', stop, new', ran', forward', inside', sound', holds'⟩ :=
    second answer middle forward inside holds (new ++ visits)
  refine ⟨answer', stop, new' ++ new, ?_, forward.trans forward', inside', ?_, holds'⟩
  · change ((walk ⟨start, visits⟩).bind fun (answer, cursor) => next answer cursor) = _
    rw [ran, List.append_assoc]
    exact ran'
  · intro visit among
    rcases List.mem_append.mp among with among | among
    · apply sound' visit among
    · apply sound visit among

theorem Ends.position {next : Nat → Walk β} {post' : β → Nat → Prop}
    (ends : Ends chars (next start) start post') :
  Ends chars (Walk.position >>= next) start post'
  := ends

theorem ends_moveTo {place : Nat} (forward : start ≤ place) (inside : place ≤ chars.length) :
  Ends chars (Walk.moveTo place) start fun _ stop => stop = place
  := by
  intro visits
  refine ⟨(), place, [], rfl, forward, inside, ?_, rfl⟩
  rintro _ ⟨⟩

theorem ends_advance (inside : start < chars.length) :
  Ends chars Walk.advance start fun _ stop => stop = start + 1
  := by
  apply Ends.position
  apply ends_moveTo (Nat.le_succ start) inside

theorem ends_visited {act : Act} {before : Nat}
    (sound : (Visit.mk act before start).IsSound chars) :
  Ends chars (Walk.visited act before) start fun _ stop => stop = start
  := by
  intro visits
  refine ⟨(), start, [⟨act, before, start⟩], rfl, le_rfl, sound.inside, ?_, rfl⟩
  intro visit among
  rw [List.mem_singleton.mp among]
  apply sound

/-- A walk may be recorded as an act, if it consumes a character where the act has to. -/
theorem Ends.called {act : Act} (ends : Ends chars walk start post)
    (consumes : act.consumes = true → ∀ answer stop, post answer stop → start < stop) :
  Ends chars (Walk.called act walk) start post
  := by
  apply Ends.position
  apply ends.bind
  intro answer stop forward inside holds
  have sound : (Visit.mk act start stop).IsSound chars := by
    use forward, inside
    intro needed
    apply consumes needed answer stop holds
  apply (ends_visited sound).bind
  rintro _ _ _ - rfl
  apply Ends.pure inside holds

theorem Ends.next? {next : Option Char → Walk β} {post' : β → Nat → Prop}
    (ends : Ends chars (next (chars.drop start).head?) start post') :
  Ends chars (Characters.next? chars >>= next) start post'
  := by
  rw [List.head?_drop] at ends
  exact ends

theorem ends_slice {first last : Nat} {text : List Char} (forward : first ≤ last)
    (inside : last ≤ chars.length) (cut : chars.drop first = text ++ chars.drop last)
    (inside' : start ≤ chars.length) :
  Ends chars (Characters.slice chars first last) start fun answer stop =>
    answer = text ∧ stop = start
  := by
  have length := congrArg List.length cut
  simp only [List.length_append, List.length_drop] at length
  rw [Characters.slice, if_pos ⟨forward, inside⟩, List.drop_take, cut, List.take_left' (by omega)]
  apply Ends.pure inside' ⟨rfl, rfl⟩

end

end Toolshed.Query
