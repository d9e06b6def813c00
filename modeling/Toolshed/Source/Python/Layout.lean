import Toolshed.Text.Word

/-!
# Layout of Python sources

A cursor stands at the end of the last token.  What a line end means depends on what may come
next: where a statement may end, it ends the statement; elsewhere it is a blank.  A line that is
less indented than its block closes the block, unless the reader stands where a closing bracket
may come.
-/

namespace Toolshed.Source.Python

/-- A place in a source: the text after the last token, and the indentations of the open blocks,
the innermost first. -/
structure Cursor where
  rest : List Char
  indents : List Nat
deriving Inhabited

/-- The indentation of the innermost block. -/
def Cursor.indent (c : Cursor) : Nat :=
  c.indents.headD 0

/-- The cursor after some more text. -/
def Cursor.at (c : Cursor) (rest : List Char) : Cursor :=
  { c with rest }

/-- What may come after a complete operand: the end of the statement, or a closing bracket. -/
structure Follow where
  lineEnd : Bool
  bracket : Bool
deriving DecidableEq, Inhabited

/-- The letters that may stand before the quote of a string. -/
def isStringFlag (c : Char) : Bool :=
  ['f', 'F', 'r', 'R', 'b', 'B', 'u', 'U'].contains c

/-- The characters that open and close a string. -/
def isQuote (c : Char) : Bool :=
  c == '\'' || c == '"' || c.toNat == 0x60

/-- A string starts here. -/
def startsString (cs : List Char) : Bool :=
  match cs.dropWhile isStringFlag with
  | [] => false
  | c :: _ => isQuote c

/-- The text after a backslash that joins two lines. -/
def afterJoin? : List Char → Option (List Char)
  | '\\' :: '\n' :: rest => some rest
  | '\\' :: '\r' :: '\n' :: rest => some rest
  | ['\\', '\r'] => some []
  | ['\\'] => some []
  | _ => none

/-- Blanks besides the space, the tab and the line ends. -/
def isOtherBlank (c : Char) : Bool :=
  [0xB, 0xFEFF, 0x2060, 0x200B].contains c.toNat

/-- The column that a blank character leads to. -/
def columnAfter (column : Nat) (c : Char) : Nat :=
  if c = ' ' then column + 1 else if c = '\t' then column + 8 else 0

/-- What has been passed since the last token or comment. -/
structure Passed where
  comment : Bool
  newline : Bool
  column : Nat
  joined : Bool

/-- The text from the next token on, wherever in the source it is, and whether lines were joined
by a backslash before it.  There is no next token when the block ends first. -/
def skipBlanks (indent : Nat) (bracket : Bool) (cs : List Char) : Option (List Char × Bool) :=
  go ⟨false, false, 0, false⟩ false cs
where
  /-- The block ends before the token that comes next. -/
  closes (p : Passed) (cs : List Char) : Bool :=
    p.newline && p.column < indent && !bracket &&
      !(match cs with
        | [] => false
        | c :: _ => isQuote c)
  /-- The rest of the text, given what was passed and whether lines were joined before that. -/
  go (p : Passed) (joined : Bool) : List Char → Option (List Char × Bool)
    | [] => if closes ⟨p.comment, true, 0, p.joined⟩ [] then none else some ([], joined || p.joined)
    | '\\' :: '\n' :: rest =>
      if p.comment then go ⟨false, true, 0, false⟩ joined rest
      else go { p with joined := true } joined rest
    | '\\' :: '\r' :: '\n' :: rest =>
      if p.comment then go ⟨false, true, 0, false⟩ joined rest
      else go { p with joined := true } joined rest
    | c :: rest =>
      if c = '\n' then go ⟨false, true, 0, p.joined⟩ joined rest
      else if p.comment then go p joined rest
      else if c = ' ' || c = '\t' || c = '\r' || c = '\x0c' then
        go { p with column := columnAfter p.column c } joined rest
      else if isOtherBlank c then go p joined rest
      else if closes p (c :: rest) && c ≠ '\\' then none
      else if c = '#' then go ⟨true, false, 0, false⟩ (joined || p.joined) rest
      else some (c :: rest, joined || p.joined && !startsString (c :: rest))

/-- The text at the end of the line, if nothing but blanks and a comment is left before it. -/
def lineEnd? (cs : List Char) : Option (List Char) :=
  go false cs
where
  /-- The same inside a comment, or outside. -/
  go (comment : Bool) : List Char → Option (List Char)
    | [] => some []
    | '\n' :: rest => some ('\n' :: rest)
    | '\\' :: '\n' :: rest => if comment then some ('\n' :: rest) else go false rest
    | '\\' :: '\r' :: '\n' :: rest => if comment then some ('\n' :: rest) else go false rest
    | c :: rest =>
      if comment then go true rest
      else if c = ' ' || c = '\t' || c = '\r' || c = '\x0c' then go false rest
      else if c = '#' then go true rest
      else if c = '\\' && (afterJoin? (c :: rest)).isSome then some []
      else none

/-- The column of the next token, if it is not on the line of the last one; the end of the text is
at column zero. -/
def nextColumn? (cs : List Char) : Option Nat :=
  go false false 0 cs
where
  /-- The same inside a comment or outside, on a later line or not, and at a column. -/
  go (comment newline : Bool) (column : Nat) : List Char → Option Nat
    | [] => some 0
    | '\\' :: '\n' :: rest =>
      if comment then go false true 0 rest else go false newline column rest
    | '\\' :: '\r' :: '\n' :: rest =>
      if comment then go false true 0 rest else go false newline column rest
    | c :: rest =>
      if c = '\n' then go false true 0 rest
      else if comment then go true newline column rest
      else if c = ' ' || c = '\t' || c = '\r' || c = '\x0c' then
        go false newline (columnAfter column c) rest
      else if c = '#' then go true newline column rest
      else if newline then some column else none

/-- The block ends before the next token. -/
def Cursor.blockEnds (c : Cursor) : Bool :=
  match nextColumn? c.rest with
  | some column => column < c.indent
  | none => false

/-- The text of the next token after an operand, empty where the statement ends, and whether
lines were joined before it. -/
def Cursor.look (c : Cursor) (follow : Follow) : Option (List Char × Bool) :=
  if follow.lineEnd && (lineEnd? c.rest).isSome then some ([], false)
  else skipBlanks c.indent follow.bracket c.rest

/-- The text of the next token where an operand is due. -/
def Cursor.operand (c : Cursor) : Option (List Char × Bool) :=
  skipBlanks c.indent false c.rest

/-- The identifier at the front of a text. -/
def word? : List Char → Option (List Char × List Char)
  | [] => none
  | c :: cs =>
    if Text.isIdentifierStart c then
      some (c :: cs.takeWhile Text.isIdentifierChar, cs.dropWhile Text.isIdentifierChar)
    else none

/-- The text after a given word, if it comes next. -/
def afterWord? (word : String) (cs : List Char) : Option (List Char) :=
  match word? cs with
  | some (w, rest) => if w = word.toList then some rest else none
  | none => none

/-- One of the words comes next. -/
def wordIn (words : List String) (cs : List Char) : Bool :=
  match word? cs with
  | some (w, _) => words.any fun word => word.toList == w
  | none => false

end Toolshed.Source.Python
