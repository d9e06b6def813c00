import Toolshed.Source.Literal
import Toolshed.Text.Piece

/-!
# Lexemes of JavaScript sources

Blanks, comments, words, numbers, strings and regular expressions.  A line end stands for a
semicolon where a statement may end, unless the next line goes on with the statement.
-/

namespace Toolshed.Source.JavaScript

/-! ### Blanks and comments -/

/-- The space separators beyond ASCII, and the other characters that count as blanks. -/
def blankTable : Text.ClassTable := [
  (0x9, 0xD), (0x20, 0x20), (0xA0, 0xA0), (0x1680, 0x1680), (0x2000, 0x200B), (0x2028, 0x2029),
  (0x202F, 0x202F), (0x205F, 0x2060), (0x3000, 0x3000), (0xFEFF, 0xFEFF)]

/-- The blanks. -/
def isBlank (c : Char) : Bool :=
  blankTable.holds c

/-- The blanks of ASCII. -/
def isAsciiBlank (c : Char) : Bool :=
  c == ' ' || (9 ≤ c.toNat && c.toNat ≤ 13)

/-- The characters that end a comment of one line. -/
def isLineEnd (c : Char) : Bool :=
  c == '\n' || c == '\r' || c.toNat == 0x2028 || c.toNat == 0x2029

/-- The text after the end of a comment between slashes and stars. -/
def afterComment? : List Char → Option (List Char)
  | [] => none
  | '*' :: '/' :: rest => some rest
  | _ :: rest => afterComment? rest

/-- What the characters before a lexeme belong to. -/
inductive Between where
  | blanks
  | line
  | block

/-- The text from the next lexeme on.  A comment without an end is no comment. -/
def skip (cs : List Char) : List Char :=
  go .blanks cs
where
  /-- The same inside the given kind of text. -/
  go : Between → List Char → List Char
    | _, [] => []
    | .blanks, '/' :: '/' :: rest => go .line rest
    | .blanks, '/' :: '*' :: rest =>
      if (afterComment? rest).isSome then go .block rest else '/' :: '*' :: rest
    | .blanks, c :: rest => if isBlank c then go .blanks rest else c :: rest
    | .line, c :: rest => if isLineEnd c then go .blanks rest else go .line rest
    | .block, '*' :: '/' :: rest => go .blanks rest
    | .block, _ :: rest => go .block rest

/-- The text after comments of the older form that start a line. -/
def skipMarkup (cs : List Char) : List Char :=
  match skip cs with
  | '<' :: '!' :: '-' :: '-' :: rest => skip (rest.dropWhile fun c => !isLineEnd c)
  | '-' :: '-' :: '>' :: rest => skip (rest.dropWhile fun c => !isLineEnd c)
  | rest => rest

/-! ### Semicolons -/

/-- What may come where a semicolon is looked for: a binary operator, and the body of a function
that has been declared. -/
structure Ending where
  operator : Bool
  body : Bool
deriving DecidableEq, Inhabited

/-- The end of a statement that goes on with an expression. -/
def Ending.expression : Ending := ⟨true, false⟩

/-- The end of a statement that goes on with a type or with nothing. -/
def Ending.plain : Ending := ⟨false, false⟩

/-- The next line begins a new statement. -/
def beginsStatement (e : Ending) (cs : List Char) : Bool :=
  let letterNext (cs : List Char) : Bool := (cs.head?.map Char.isAlpha).getD false
  match skip cs with
  | '+' :: rest => rest.head? = some '+'
  | '-' :: rest => rest.head? = some '-'
  | '!' :: rest => rest.head? ≠ some '='
  | '\x7b' :: _ => !e.body
  | '(' :: _ => !e.operator
  | '[' :: _ => !e.operator
  | 'i' :: 'n' :: rest =>
    if !letterNext rest then false
    else match Text.afterStart? "stanceof".toList rest with
      | some rest => letterNext rest
      | none => true
  | c :: _ =>
    !([',', '.', ';', '*', '%', '>', '<', '=', '?', '^', '|', '&', '/', ':'].contains c ||
      c.toNat == 0x60)
  | [] => true

/-- A statement ends here without a semicolon: at the end of the text, before a closing brace, or
at a line end before a new statement. -/
def endsHere (e : Ending) (cs : List Char) : Bool :=
  go .blanks cs
where
  /-- The same inside the given kind of text. -/
  go : Between → List Char → Bool
    | _, [] => true
    | .blanks, '/' :: '/' :: rest => go .line rest
    | .blanks, '/' :: '*' :: rest => (afterComment? rest).isSome && go .block rest
    | .blanks, '\x7d' :: rest =>
      match rest.dropWhile isAsciiBlank with
      | ':' :: _ => e.operator
      | _ => true
    | .blanks, c :: rest =>
      if c = '\n' then beginsStatement e rest
      else if isAsciiBlank c then go .blanks rest
      else false
    | .line, c :: rest => if c = '\n' then beginsStatement e rest else go .line rest
    | .block, '*' :: '/' :: rest => go .blanks rest
    | .block, _ :: rest => go .block rest

/-- The text of the next lexeme after a complete phrase, empty where the statement ends. -/
def look (ending : Option Ending) (cs : List Char) : List Char :=
  match ending with
  | some e => if endsHere e cs then [] else skip cs
  | none => skip cs

/-- The text after the end of a statement: a semicolon, or a place where none is needed. -/
def semicolon? (e : Ending) (cs : List Char) : Option (List Char) :=
  if endsHere e cs then some cs
  else match skip cs with
    | ';' :: rest => some rest
    | _ => none

/-! ### Words and marks -/

/-- The characters that no word holds. -/
def isPunctuation (c : Char) : Bool :=
  isBlank c || c.toNat < 32 || c.toNat == 0x60 ||
    ":;\"'@#.,|^&<=>+-*/\\%?!~()[]\x7b\x7d".toList.contains c

/-- A character of a word written as an escape, after its backslash. -/
def wordEscape? : List Char → Option (List Char × List Char)
  | 'u' :: '\x7b' :: rest =>
    let digits := rest.takeWhile fun c => (digitValue? 16 c).isSome
    match rest.drop digits.length with
    | '\x7d' :: rest =>
      if digits.isEmpty then none else some ('u' :: '\x7b' :: digits ++ ['\x7d'], rest)
    | _ => none
  | 'u' :: rest =>
    let digits := rest.take 4
    if digits.length = 4 && digits.all fun c => (digitValue? 16 c).isSome then
      some ('u' :: digits, rest.drop 4)
    else none
  | _ => none

/-- The characters of a word from one on; the fuel bounds their number. -/
def takeWord : Nat → List Char → List Char × List Char
  | 0, cs => ([], cs)
  | _, [] => ([], [])
  | fuel + 1, c :: rest =>
    if c = '\\' then
      match wordEscape? rest with
      | some (escape, rest) =>
        let (w, rest) := takeWord fuel rest
        ('\\' :: escape ++ w, rest)
      | none => ([], c :: rest)
    else if isPunctuation c then ([], c :: rest)
    else
      let (w, rest) := takeWord fuel rest
      (c :: w, rest)

/-- The word at the front of a text. -/
def word? (cs : List Char) : Option (List Char × List Char) :=
  match cs with
  | [] => none
  | c :: _ =>
    if c.isDigit then none
    else match takeWord (cs.length + 1) cs with
      | ([], _) => none
      | result => some result

/-- The text after a given word, if it comes next. -/
def afterWord? (word : String) (cs : List Char) : Option (List Char) :=
  match word? cs with
  | some (w, rest) => if w = word.toList then some rest else none
  | none => none

/-- One of the words comes next. -/
def wordIn (words : List String) (cs : List Char) : Bool :=
  match word? cs with
  | some (w, _) => words.any fun word => word.toList == w
  | none => false

/-- The text after a mark, blanks before it being passed. -/
def mark? (mark : String) (cs : List Char) : Option (List Char) :=
  Text.afterStart? mark.toList (skip cs)

/-- The text after an equals sign that begins no longer mark. -/
def equals? (cs : List Char) : Option (List Char) :=
  match skip cs with
  | '=' :: '=' :: _ => none
  | '=' :: '>' :: _ => none
  | '=' :: rest => some rest
  | _ => none

/-- The private name at the front of a text. -/
def privateName? : List Char → Option (List Char)
  | '#' :: rest => (word? rest).map Prod.snd
  | _ => none

/-! ### Numbers -/

/-- Digits of a base with single underscores between them. -/
def takeDigits (base : Nat) (cs : List Char) : List Char × List Char :=
  go false cs
where
  /-- The same after a digit, or not. -/
  go (afterDigit : Bool) : List Char → List Char × List Char
    | '_' :: c :: rest =>
      if afterDigit && (digitValue? base c).isSome then
        let (digits, rest) := go true rest
        ('_' :: c :: digits, rest)
      else ([], '_' :: c :: rest)
    | c :: rest =>
      if (digitValue? base c).isSome then
        let (digits, rest) := go true rest
        (c :: digits, rest)
      else ([], c :: rest)
    | [] => ([], [])

/-- An exponent, if there is one. -/
def takeExponent : List Char → List Char × List Char
  | e :: rest =>
    if e = 'e' ∨ e = 'E' then
      let (sign, start) := match rest with
        | '+' :: more => (['+'], more)
        | '-' :: more => (['-'], more)
        | more => ([], more)
      match takeDigits 10 start with
      | ([], _) => ([], e :: rest)
      | (digits, rest) => (e :: sign ++ digits, rest)
    else ([], e :: rest)
  | [] => ([], [])

/-- The letter that makes an integer a long one, if it comes next. -/
def takeLong : List Char → List Char × List Char
  | 'n' :: rest => (['n'], rest)
  | rest => ([], rest)

/-- Digits that may stand before a point: a zero, or a digit other than zero with at most one zero
before it. -/
def isWhole (digits : List Char) : Bool :=
  match digits with
  | ['0'] => true
  | '0' :: c :: _ => '1' ≤ c && c ≤ '9'
  | c :: _ => '1' ≤ c && c ≤ '9'
  | [] => false

/-- The text of a number. -/
def number? (cs : List Char) : Option (List Char × List Char) :=
  let based (base : Nat) (mark : Char) (start : List Char) : Option (List Char × List Char) :=
    match takeDigits base start with
    | ([], _) => some (['0'], mark :: start)
    | (digits, rest) =>
      let (long, rest) := takeLong rest
      some ('0' :: mark :: digits ++ long, rest)
  match cs with
  | '0' :: 'x' :: rest => based 16 'x' rest
  | '0' :: 'X' :: rest => based 16 'X' rest
  | '0' :: 'o' :: rest => based 8 'o' rest
  | '0' :: 'O' :: rest => based 8 'O' rest
  | '0' :: 'b' :: rest => based 2 'b' rest
  | '0' :: 'B' :: rest => based 2 'B' rest
  | '.' :: rest =>
    match takeDigits 10 rest with
    | ([], _) => none
    | (digits, rest) =>
      let (exponent, rest) := takeExponent rest
      some ('.' :: digits ++ exponent, rest)
  | _ =>
    match takeDigits 10 cs with
    | ([], _) => none
    | (digits, rest) =>
      if isWhole digits then
        match rest with
        | '.' :: more =>
          let (fraction, more) := takeDigits 10 more
          let (exponent, more) := takeExponent more
          some (digits ++ '.' :: fraction ++ exponent, more)
        | _ =>
          match takeExponent rest with
          | ([], _) =>
            let (long, rest) := takeLong rest
            some (digits ++ long, rest)
          | (exponent, rest) => some (digits ++ exponent, rest)
      else
        let (long, rest) := takeLong rest
        some (digits ++ long, rest)

/-! ### Strings -/

/-- The number of characters of an escape after its backslash, none for a malformed escape. -/
def escapeLength? (cs : List Char) : Option Nat :=
  let hex (n : Nat) : Option Nat :=
    let digits := cs.tail.take n
    if digits.length = n && digits.all fun c => (digitValue? 16 c).isSome then some (n + 1)
    else none
  match cs with
  | [] => none
  | 'x' :: _ => hex 2
  | 'u' :: '\x7b' :: rest =>
    let digits := rest.takeWhile fun c => (digitValue? 16 c).isSome
    if digits.isEmpty || (rest.drop digits.length).head? ≠ some '\x7d' then none
    else some (digits.length + 3)
  | 'u' :: _ => hex 4
  | c :: rest =>
    let octal (c : Char) : Bool := '0' ≤ c && c ≤ '7'
    if octal c then some (1 + ((rest.take 2).takeWhile octal).length)
    else if (c = '\r' ∨ c = '?') ∧ (rest.head?.map fun d =>
        d == '\n' || d.toNat == 0x2028 || d.toNat == 0x2029) = some true then some 2
    else some 1

/-- The body of a string after its opening quote; after a line end only blanks may come before
the closing quote.  The fuel bounds the number of steps. -/
def stringBody? (quote : Char) : Nat → List Char → Option (List Char × List Char)
  | 0, _ => none
  | _, [] => none
  | fuel + 1, c :: rest =>
    if c = quote then some ([], rest)
    else if c = '\\' then do
      let n ← escapeLength? rest
      let (body, after) ← stringBody? quote fuel (rest.drop n)
      pure ('\\' :: rest.take n ++ body, after)
    else if c = '\n' ∨ c = '\r' then
      let after := skip (c :: rest)
      match after with
      | d :: more =>
        if d = quote then some ((c :: rest).take (rest.length + 1 - after.length), more) else none
      | [] => none
    else do
      let (body, after) ← stringBody? quote fuel rest
      pure (c :: body, after)

/-- The body of a string, and the text after it. -/
def string? (cs : List Char) : Option (List Char × List Char) :=
  match cs with
  | '"' :: rest => stringBody? '"' (rest.length + 1) rest
  | '\'' :: rest => stringBody? '\'' (rest.length + 1) rest
  | _ => none

/-! ### Regular expressions -/

/-- The text after the pattern of a regular expression and its closing slash.  The flag tells
whether the place is inside a class of characters. -/
def afterPattern? : Bool → List Char → Option (List Char)
  | _, [] => none
  | inClass, '\\' :: c :: rest => if c = '\n' then none else afterPattern? inClass rest
  | inClass, c :: rest =>
    if c = '\n' ∨ c = '\\' then none
    else if inClass then afterPattern? (c ≠ ']') rest
    else if c = '/' then some rest
    else afterPattern? (c = '[') rest

/-- The text after a regular expression. -/
def regex? (cs : List Char) : Option (List Char) :=
  match cs with
  | '/' :: c :: rest =>
    if c = '/' ∨ c = '*' then none
    else (afterPattern? false (c :: rest)).map fun rest =>
      rest.dropWhile fun c => 'a' ≤ c && c ≤ 'z'
  | _ => none

end Toolshed.Source.JavaScript
