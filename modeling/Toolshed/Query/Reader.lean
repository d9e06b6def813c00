import Toolshed.Query.Basic

/-!
# Reading queries

    expression  = conjunction { "OR" conjunction }
    conjunction = negation { ["AND"] negation }
    negation    = "NOT" primary | primary
    primary     = "(" expression ")" | phrase in double quotes | term

A keyword is written in any letter case and followed by a blank or by the end of the text.
Every text reads as a query: an operand that is missing matches everything, and an open
parenthesis or quote runs to the end of the text.
-/

namespace Toolshed.Query

/-- A reader takes a query from the front of a text and leaves the rest. -/
abbrev Reads := List Char → Query × List Char

/-- Texts are equal up to the case of ASCII letters. -/
def sameLetters (a b : List Char) : Bool :=
  a.map Char.toLower == b.map Char.toLower

/-- The keywords. -/
def keywords : List (List Char) :=
  [['A', 'N', 'D'], ['O', 'R'], ['N', 'O', 'T']]

/-- A word is one of the keywords. -/
def isKeyword (word : List Char) : Bool :=
  -- A word or a term is put in upper case before it is compared with the keywords.  That is the
  -- same test, as no character beyond ASCII has an upper case that consists of their letters.
  keywords.any (sameLetters word)

/-- The characters up to the next blank. -/
def nextWord (cs : List Char) : List Char :=
  (Text.trimLeft cs).takeWhile fun c => !Text.isBlank c

/-- The rest of a text after a keyword, if the keyword comes next. -/
def afterKeyword? (keyword cs : List Char) : Option (List Char) :=
  let cs := Text.trimLeft cs
  let word := cs.take keyword.length
  let rest := cs.drop keyword.length
  let bounded := match rest with
    | [] => true
    | c :: _ => Text.isBlank c
  if sameLetters word keyword && bounded then some rest else none

/-- An operand comes next that is neither a keyword nor in parentheses. -/
def operandFollows (cs : List Char) : Bool :=
  match Text.trimLeft cs with
  | [] => false
  | '(' :: _ => false
  | ')' :: _ => false
  | _ => !isKeyword (nextWord cs)

/-- A negation comes next. -/
def negationFollows (cs : List Char) : Bool :=
  sameLetters (nextWord cs) ['N', 'O', 'T']

/-- The characters of a term. -/
def isTermChar (c : Char) : Bool :=
  !Text.isBlank c && c != '(' && c != ')' && c != '"'

/-- The query of a term: everything for a keyword or no text, a wildcard for a pattern with a
star, and a term otherwise. -/
def ofTerm (text : List Char) : Query :=
  if text.isEmpty || isKeyword text then .all
  else
    let lowered := Text.lowerChars text
    if lowered.contains '*' then
      match Glob.ofPattern? lowered with
      | some glob => .wildcard glob
      | none => .term lowered
    else .term lowered

/-- A primary, given a reader of expressions. -/
def readPrimary (inner : Reads) (cs : List Char) : Query × List Char :=
  match Text.trimLeft cs with
  | [] => (.all, [])
  | '(' :: rest =>
    let (q, rest) := inner rest
    match Text.trimLeft rest with
    | ')' :: rest => (q, rest)
    | rest => (q, rest)
  | '"' :: rest =>
    (.phrase (Text.lowerChars (rest.takeWhile (· != '"'))),
      (rest.dropWhile (· != '"')).drop 1)
  | rest => (ofTerm (rest.takeWhile isTermChar), rest.dropWhile isTermChar)

/-- A primary or its negation. -/
def readNegation (inner : Reads) (cs : List Char) : Query × List Char :=
  match afterKeyword? ['N', 'O', 'T'] cs with
  | some rest =>
    let (q, rest) := readPrimary inner rest
    (.not q, rest)
  | none => readPrimary inner cs

/-- The text from which the next operand of a conjunction is read, if there is one. -/
def nextOperand? (cs : List Char) : Option (List Char) :=
  match afterKeyword? ['A', 'N', 'D'] cs with
  | some rest => some rest
  | none => if negationFollows cs || operandFollows cs then some cs else none

/-- As long as another operand comes next, it is joined to the query that was read before; the fuel
bounds the number of operands. -/
def readMore (next? : List Char → Option (List Char)) (operand : Reads)
    (join : Query → Query → Query) : Nat → Query → Reads
  | 0, left, cs => (left, cs)
  | fuel + 1, left, cs =>
    match next? cs with
    | some rest =>
      let (right, rest) := operand rest
      readMore next? operand join fuel (join left right) rest
    | none => (left, cs)

/-- Operands joined from the left, one at least. -/
def readJoined (next? : List Char → Option (List Char)) (operand : Reads)
    (join : Query → Query → Query) (cs : List Char) : Query × List Char :=
  let (left, rest) := operand cs
  readMore next? operand join (rest.length + 1) left rest

/-- A conjunction. -/
def readConjunction (inner : Reads) : Reads :=
  readJoined nextOperand? (readNegation inner) .and

/-- The text from which the next alternative of an expression is read, if there is one. -/
def nextAlternative? (cs : List Char) : Option (List Char) :=
  afterKeyword? ['O', 'R'] cs

/-- An expression with parentheses nested less than a given depth. -/
def readExpression : Nat → Reads
  | 0, cs => (.all, cs)
  | depth + 1, cs => readJoined nextAlternative? (readConjunction (readExpression depth)) .or cs

/-- The query that a text writes. -/
def parse (text : String) : Query :=
  let cs := Text.trimBoth text.toList
  (readExpression (cs.length + 1) cs).1

end Toolshed.Query
