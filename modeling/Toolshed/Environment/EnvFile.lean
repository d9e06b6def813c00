import Toolshed.Environment.Expansion
import Toolshed.Text.LetterTable

/-!
# Environment files

An environment file sets one variable a line.  A value may be quoted, may go on over several lines
inside quotes, and may refer to variables of the surrounding environment and to those set before
it.  A file with a malformed line sets nothing.
-/

namespace Toolshed.Environment.EnvFile

/-! ### Lines -/

/-- What the end of a line is inside of. -/
inductive LineState where
  | complete
  | blank
  | escape
  | single (escaped : Bool)
  | double (escaped : Bool)
deriving DecidableEq, Inhabited

namespace LineState

/-- The state after a character outside of quotes. -/
def opened (c : Char) : LineState :=
  if c = '\\' then .escape
  else if c = '"' then .double false
  else if c = '\'' then .single false
  else .complete

/-- The state after one more character; there is none after the start of a comment. -/
def next? (state : LineState) (c : Char) : Option LineState :=
  match state with
  | .complete =>
    if Text.isBlank c && c ≠ '\n' && c ≠ '\r' then some .blank else some (opened c)
  | .blank => if c = '#' then none else some (opened c)
  | .escape => some .complete
  | .single true => some (.single false)
  | .single false =>
    if c = '\\' then some (.single true)
    else if c = '\'' then some .complete
    else some (.single false)
  | .double true => some (.double false)
  | .double false =>
    if c = '\\' then some (.double true)
    else if c = '"' then some .complete
    else some (.double false)

/-- The state after a text, and the text as far as no comment starts. -/
def scan (state : LineState) : List Char → List Char × Option LineState
  | [] => ([], some state)
  | c :: cs =>
    match state.next? c with
    | none => ([], none)
    | some state =>
      let (before, last) := scan state cs
      (c :: before, last)

end LineState

/-- A line without the line feed that ends it. -/
def dropLineEnd (line : List Char) : List Char :=
  match line.reverse with
  | '\n' :: '\r' :: rest => rest.reverse
  | '\n' :: rest => rest.reverse
  | _ => line

/-- The first character that is not blank starts a comment. -/
def isComment (line : List Char) : Bool :=
  (Text.trimLeft line).head? = some '#'

/-- The lines of a file, those joined that end inside of quotes or after a blank.  The start of a
line that is not complete is given with its state.  The last line must be complete. -/
def joinLines? (start : List Char) (state : LineState) :
    List (List Char) → Option (List (List Char))
  | [] => if state = .complete then some [] else none
  | line :: lines =>
    let text := start ++ line
    if isComment text then joinLines? [] .complete lines
    else match state.scan line with
      | (before, none) => (joinLines? [] .complete lines).map ((start ++ before) :: ·)
      | (_, some .complete) => (joinLines? [] .complete lines).map (dropLineEnd text :: ·)
      | (_, some state) => joinLines? text state lines

/-! ### Values -/

/-- What a character of a value is inside of. -/
inductive ValueState where
  | text (quoted : Bool)
  | escape (quoted : Bool)
  | literal
  | reference (quoted : Bool) (name : List Char)
  | braced (quoted : Bool) (name : List Char)
  | ended
deriving DecidableEq, Inhabited

/-- The character that an escape writes. -/
def escaped? (c : Char) : Option Char :=
  if c = 'n' then some '\n'
  else if c ∈ ['\\', '\'', '"', '$', ' '] then some c
  else none

/-- The rest of a value, given what it starts inside of and the values of variables.  After a
blank outside of quotes there may only be a comment. -/
def readValue? (valueOf : List Char → List Char) : ValueState → List Char → Option (List Char)
  | .text quoted, [] => if quoted then none else some []
  | .escape quoted, [] => if quoted then none else some []
  | .literal, [] => none
  | .reference quoted name, [] => if quoted then none else some (valueOf name)
  | .braced _ _, [] => none
  | .ended, [] => some []
  | .text quoted, c :: cs =>
    if c = '$' then readValue? valueOf (.reference quoted []) cs
    else if c = '\\' then readValue? valueOf (.escape quoted) cs
    else if c = '"' then readValue? valueOf (.text !quoted) cs
    else if quoted then (readValue? valueOf (.text quoted) cs).map (c :: ·)
    else if c = '\'' then readValue? valueOf .literal cs
    else if c = ' ' ∨ c = '\t' then readValue? valueOf .ended cs
    else (readValue? valueOf (.text quoted) cs).map (c :: ·)
  | .escape quoted, c :: cs =>
    (escaped? c).bind fun d => (readValue? valueOf (.text quoted) cs).map (d :: ·)
  | .literal, c :: cs =>
    if c = '\'' then readValue? valueOf (.text false) cs
    else (readValue? valueOf .literal cs).map (c :: ·)
  | .reference quoted name, c :: cs =>
    if Text.isLetterOrNumber c then readValue? valueOf (.reference quoted (name ++ [c])) cs
    else if c = '\x7b' ∧ name.isEmpty then readValue? valueOf (.braced quoted []) cs
    else if c = '$' then (readValue? valueOf (.reference quoted []) cs).map (valueOf name ++ ·)
    else (readValue? valueOf (.text quoted) cs).map fun rest => valueOf name ++ c :: rest
  | .braced quoted name, c :: cs =>
    if c = '\x7d' then (readValue? valueOf (.text quoted) cs).map (valueOf name ++ ·)
    else readValue? valueOf (.braced quoted (name ++ [c])) cs
  | .ended, c :: cs =>
    if c = ' ' ∨ c = '\t' then readValue? valueOf .ended cs
    else if c = '#' then some []
    else none

/-! ### Entries -/

/-- The characters that may start a name. -/
def isNameStart (c : Char) : Bool :=
  c.isAlpha || c = '_'

/-- The characters of a name. -/
def isNameChar (c : Char) : Bool :=
  c.isAlphanum || c = '_' || c = '.'

/-- The name in front, and the text after it and the blanks behind it. -/
def name? (cs : List Char) : Option (List Char × List Char) :=
  match cs with
  | c :: _ =>
    if isNameStart c then
      some (cs.takeWhile isNameChar, Text.trimLeft (cs.dropWhile isNameChar))
    else none
  | [] => none

/-- The text after the equals sign in front. -/
def afterEquals? : List Char → Option (List Char)
  | '=' :: rest => some rest
  | _ => none

/-- The name that a line sets, and the text of its value.  The word `export` may stand before the
name, unless it is the name itself. -/
def assignment? (line : List Char) : Option (List Char × List Char) := do
  let (name, rest) ← name? line
  match afterEquals? rest with
  | some value => pure (name, Text.trimLeft value)
  | none =>
    if name = "export".toList then
      let (name, rest) ← name? rest
      let value ← afterEquals? rest
      pure (name, Text.trimLeft value)
    else none

/-- What a line does. -/
inductive Line where
  | nothing
  | entry (name value : String)
deriving DecidableEq, Inhabited

/-- A line read with the values of variables. -/
def readLine? (valueOf : List Char → List Char) (line : List Char) : Option Line :=
  let text := Text.trimLeft (Text.trimRight line)
  if text.isEmpty || text.head? = some '#' then some .nothing
  else do
    let (name, value) ← assignment? text
    if value.head? = some '#' then pure (.entry (String.ofList name) "")
    else
      let value ← readValue? valueOf (.text false) value
      pure (.entry (String.ofList name) (String.ofList value))

/-- The value of a variable: that of the surrounding environment, or the one set before. -/
def valueIn (outer found : Environment) (name : List Char) : List Char :=
  let key := String.ofList name
  (((Assoc.get? key outer).or (Assoc.get? key found)).getD "").toList

/-- The variables that lines set after some others. -/
def readLines? (outer found : Environment) : List (List Char) → Option Environment
  | [] => some found
  | line :: lines =>
    match readLine? (valueIn outer found) line with
    | none => none
    | some .nothing => readLines? outer found lines
    | some (.entry name value) => readLines? outer (Assoc.insert name value found) lines

/-- The variables that a file sets in a surrounding environment, in order. -/
def parse? (outer : Environment) (text : List Char) : Option Environment :=
  (joinLines? [] .complete (Text.wholeLines text)).bind (readLines? outer [])

end Toolshed.Environment.EnvFile
