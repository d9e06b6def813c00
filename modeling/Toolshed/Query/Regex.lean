import Toolshed.Text.Piece

/-!
# Regular expressions

The expressions here are anchored at both ends, and their dots stand for line feeds, too.  Such an
expression is a row of pieces, each of which stands for any text, for any character, for one of the
characters of a bracket class, or for a single character.  A mark, which is a character that means
something in some expressions, stands for itself after a backslash.  Other expressions, such as
those with groups, are not read.

Inside a class `-` between two characters makes a range, which must not be reversed; a second `-`
in the place of the upper end starts a list of characters that are taken out of the class.  Dashes
at the beginning and a dash at the end stand for themselves.
-/

namespace Toolshed.Query

/-- A range of characters. -/
abbrev Span := Char × Char

/-- A character lies in a range. -/
def Span.holds (s : Span) (c : Char) : Bool :=
  s.1.toNat ≤ c.toNat && c.toNat ≤ s.2.toNat

/-- A bracket class: the characters of some ranges without those of others, or all others. -/
structure Bracket where
  negated : Bool
  included : List Span
  excluded : List Span
deriving DecidableEq, Inhabited

/-- A character belongs to a class. -/
def Bracket.holds (b : Bracket) (c : Char) : Bool :=
  (b.included.any (·.holds c) && !b.excluded.any (·.holds c)) != b.negated

/-- A part of an expression. -/
inductive Piece where
  | anyText
  | anyChar
  | oneOf (bracket : Bracket)
  | exactly (c : Char)
deriving DecidableEq, Inhabited

/-- The single character that a piece stands for belongs to it. -/
def Piece.holds : Piece → Char → Bool
  | .anyText, _ => true
  | .anyChar, _ => true
  | .oneOf bracket, c => bracket.holds c
  | .exactly d, c => c == d

namespace Regex

/-! ### Symbols -/

/-- The characters that mean something in some expressions. -/
def isMark (c : Char) : Bool :=
  c ∈ ['\\', '.', '+', '*', '?', '(', ')', '|', '[', ']', '\x7b', '\x7d', '^', '$', '#', '&', '-',
    '~']

/-- A character written so that it stands for itself. -/
def escape (c : Char) : List Char :=
  if isMark c then ['\\', c] else [c]

/-- A character that stands for itself, or a mark. -/
inductive Symbol where
  | literal (c : Char)
  | mark (c : Char)
deriving DecidableEq, Inhabited

/-- The character of a symbol. -/
def Symbol.char : Symbol → Char
  | .literal c => c
  | .mark c => c

/-- The symbols of an expression; a backslash must be followed by a mark. -/
def symbols? : List Char → Option (List Symbol)
  | [] => some []
  | '\\' :: cs =>
    match cs with
    | c :: cs => if isMark c then (symbols? cs).map (.literal c :: ·) else none
    | [] => none
  | c :: cs => (symbols? cs).map ((if isMark c then .mark c else .literal c) :: ·)

/-! ### Classes -/

/-- The symbols of a class after its leading dashes, as ranges.  A range followed by two dashes
ends the list; the rest of the class is then taken out. -/
def readSpans : List Symbol → Option (List Span × List (List Span))
  | [] => some ([], [])
  | .mark '-' :: .mark '-' :: rest => do
    let (spans, others) ← readSpans rest
    pure ([], spans :: others)
  | x :: .mark '-' :: y :: rest =>
    if y = .mark '-' then do
      let (spans, others) ← readSpans (.mark '-' :: y :: rest)
      pure ((x.char, x.char) :: spans, others)
    else if y.char.toNat < x.char.toNat then none
    else do
      let (spans, others) ← readSpans rest
      pure ((x.char, y.char) :: spans, others)
  | x :: rest => do
    let (spans, others) ← readSpans rest
    pure ((x.char, x.char) :: spans, others)

/-- The symbol may stand in a class: no mark but the dash does. -/
def Symbol.isMember : Symbol → Bool
  | .literal _ => true
  | .mark c => c = '-'

/-- The class with given symbols between its brackets. -/
def readBracket (symbols : List Symbol) : Option Bracket := do
  let (negated, members) := match symbols with
    | .mark '^' :: rest => (true, rest)
    | members => (false, members)
  let dashes := (members.takeWhile (· = .mark '-')).map fun x => (x.char, x.char)
  let (spans, others) ← readSpans (members.dropWhile (· = .mark '-'))
  if members.all Symbol.isMember then pure ⟨negated, dashes ++ spans, others.flatten⟩ else none

/-! ### Expressions -/

/-- The pieces of the symbols up to the anchor at the end; none when a class has a reversed
range. -/
def readPieces : List Symbol → Option (List Piece)
  | [.mark '$'] => some []
  | .mark '.' :: .mark '*' :: rest => (readPieces rest).map (.anyText :: ·)
  | .mark '.' :: rest => (readPieces rest).map (.anyChar :: ·)
  | .mark '[' :: rest => do
    let bracket ← readBracket (rest.takeWhile (· ≠ .mark ']'))
    let pieces ← readPieces ((rest.dropWhile (· ≠ .mark ']')).drop 1)
    pure (.oneOf bracket :: pieces)
  | .literal c :: rest => (readPieces rest).map (.exactly c :: ·)
  | _ => none
termination_by symbols => symbols.length
decreasing_by
  · simp only [List.length_cons]
    omega
  · simp
  · have shorter := (List.dropWhile_sublist (· ≠ Symbol.mark ']') (l := rest)).length_le
    simp only [List.length_cons, List.length_drop]
    omega
  · simp

/-- Dots stand for line feeds, too, and the expression begins where the text does. -/
def opening : List Char :=
  "(?s)^".toList

/-- The pieces of an expression. -/
def read? (expression : List Char) : Option (List Piece) := do
  let rest ← Text.afterStart? opening expression
  readPieces (← symbols? rest)

end Regex

/-! ### Matching -/

/-- From "the other pieces match" for every ending of a text, "any text and then the other
pieces match" for every ending. -/
def anyTextRow : List Bool → List Bool
  | [] => []
  | b :: row =>
    let later := anyTextRow row
    (b || later.headD false) :: later

/-- From "the other pieces match" for every ending of a text, "a character that passes the test
and then the other pieces match" for every ending. -/
def oneCharRow (test : Char → Bool) : List Char → List Bool → List Bool
  | c :: cs, _ :: b :: row => (test c && b) :: oneCharRow test cs (b :: row)
  | _, _ => [false]

/-- For every ending of a text, the longest first, whether the pieces match it. -/
def matchRow (cs : List Char) : List Piece → List Bool
  | [] => cs.foldr (fun _ row => false :: row) [true]
  | .anyText :: pieces => anyTextRow (matchRow cs pieces)
  | piece :: pieces => oneCharRow piece.holds cs (matchRow cs pieces)

end Toolshed.Query
