import Toolshed.Text.Piece

/-!
# Positions in a YAML text

Indentation gives a YAML text its structure, so a place in it is kept with its line and column.
A break ends a line; the breaks of old systems count as a line feed, and the separators of lines
and paragraphs stand for themselves.
-/

namespace Toolshed.Yaml

/-- A place in a text, with what follows it. -/
structure Cursor where
  rest : List Char
  index : Nat
  line : Nat
  column : Nat
deriving Inhabited

/-- A blank is a space or a tab. -/
def isBlank (c : Char) : Bool :=
  c = ' ' || c = '\t'

/-- The characters that end a line. -/
def isBreak (c : Char) : Bool :=
  c = '\n' || c = '\r' || c = '\x85' || c = '\u2028' || c = '\u2029'

/-- The blanks and the breaks. -/
def isSpace (c : Char) : Bool :=
  isBlank c || isBreak c

/-- The characters of names: ASCII letters, digits, the hyphen and the underscore. -/
def isNameChar (c : Char) : Bool :=
  c.isAlphanum || c = '-' || c = '_'

/-- The characters that a text may hold. -/
def isPrintable (c : Char) : Bool :=
  let n := c.toNat
  n = 0x9 || n = 0xA || n = 0xD || 0x20 ≤ n && n ≤ 0x7E || n = 0x85 || 0xA0 ≤ n && n ≤ 0xFFFD ||
    0x10000 ≤ n

/-- Nothing, a blank or a break comes next. -/
def atGap : List Char → Bool
  | [] => true
  | c :: _ => isSpace c

namespace Cursor

/-- The start of a text. -/
def start (text : List Char) : Cursor :=
  ⟨text, 0, 0, 0⟩

/-- The place after some characters of the same line. -/
def advance (c : Cursor) (count : Nat) : Cursor :=
  ⟨c.rest.drop count, c.index + count, c.line, c.column + count⟩

/-- The characters in front that pass a test, none of them a break, and the place after them. -/
def run (c : Cursor) (p : Char → Bool) : List Char × Cursor :=
  let text := c.rest.takeWhile p
  (text, c.advance text.length)

/-- The place after the characters in front that pass a test, none of them a break. -/
def pass (c : Cursor) (p : Char → Bool) : Cursor :=
  (c.run p).2

/-- The character that a break in front stands for, and the start of the next line. -/
def lineBreak? (c : Cursor) : Option (Char × Cursor) :=
  match c.rest with
  | '\r' :: '\n' :: rest => some ('\n', ⟨rest, c.index + 2, c.line + 1, 0⟩)
  | b :: rest =>
    if isBreak b then
      let stands := if b = '\u2028' || b = '\u2029' then b else '\n'
      some (stands, ⟨rest, c.index + 1, c.line + 1, 0⟩)
    else none
  | [] => none

/-- The place after an optional break. -/
def passBreak (c : Cursor) : Cursor :=
  match c.lineBreak? with
  | some (_, next) => next
  | none => c

/-- The place after the blanks and the comment that may end a line, none when more follows. -/
def endLine? (c : Cursor) : Option Cursor :=
  let c := c.pass isBlank
  let c := if c.rest.head? = some '#' then c.pass (!isBreak ·) else c
  match c.rest with
  | [] => some c
  | b :: _ => if isBreak b then some c.passBreak else none

/-- Three equal marks stand alone at the start of a line. -/
def atMarks (c : Cursor) (mark : Char) : Bool :=
  c.column = 0 &&
    match Text.afterStart? [mark, mark, mark] c.rest with
    | some rest => atGap rest
    | none => false

/-- The start or the end of a document is marked here. -/
def atDocumentMark (c : Cursor) : Bool :=
  c.atMarks '-' || c.atMarks '.'

end Cursor

/-! ### Folding -/

/-- What lies between two pieces of text that may stand on different lines. -/
structure Gap where
  blanks : List Char
  /-- A break was passed, so the blanks do not count. -/
  isBroken : Bool
  firstBreak : List Char
  otherBreaks : List Char
deriving Inhabited

namespace Gap

/-- Nothing. -/
def empty : Gap :=
  ⟨[], false, [], []⟩

/-- The breaks of folded text: a single line feed becomes a space, and others are kept without
the first. -/
def fold (firstBreak otherBreaks : List Char) : List Char :=
  match firstBreak with
  | ['\n'] => if otherBreaks.isEmpty then [' '] else otherBreaks
  | _ => firstBreak ++ otherBreaks

/-- The text that a gap stands for. -/
def text (g : Gap) : List Char :=
  if g.isBroken then fold g.firstBreak g.otherBreaks else g.blanks

/-- The gap in front; a tab left of the column `indent` on a new line is refused. -/
def read? (indent : Nat) : Nat → Gap → Cursor → Option (Gap × Cursor)
  | 0, _, _ => none
  | fuel + 1, g, c =>
    match c.lineBreak? with
    | some (b, next) =>
      if g.isBroken then read? indent fuel ⟨[], true, g.firstBreak, g.otherBreaks ++ [b]⟩ next
      else read? indent fuel ⟨[], true, [b], []⟩ next
    | none =>
      match c.rest with
      | [] => some (g, c)
      | b :: _ =>
        if !isBlank b then some (g, c)
        else if g.isBroken && c.column < indent && b = '\t' then none
        else if g.isBroken then read? indent fuel g (c.advance 1)
        else read? indent fuel ⟨g.blanks ++ [b], false, [], []⟩ (c.advance 1)

end Gap

end Toolshed.Yaml
