import Toolshed.Source.Python.Layout
import Toolshed.Source.Python.Tree

/-!
# Numbers and strings in Python sources

Numbers take as many characters as they can.  In a string between single quotes a line may end
only right after the opening quote, an escape or a replacement field.
-/

namespace Toolshed.Source.Python

/-! ### Numbers -/

/-- Digits with single underscores after some of them. -/
def takeDigitGroups (cs : List Char) : List Char × List Char :=
  go false cs
where
  /-- The same after a digit, or not. -/
  go (afterDigit : Bool) : List Char → List Char × List Char
    | c :: rest =>
      if c.isDigit then
        let (digits, rest) := go true rest
        (c :: digits, rest)
      else if c = '_' ∧ afterDigit then
        let (digits, rest) := go false rest
        (c :: digits, rest)
      else ([], c :: rest)
    | [] => ([], [])

/-- Digits of a base with single underscores before some of them. -/
def takeBaseDigits (base : Nat) : List Char → List Char × List Char
  | '_' :: c :: rest =>
    if (digitValue? base c).isSome then
      let (digits, rest) := takeBaseDigits base rest
      ('_' :: c :: digits, rest)
    else ([], '_' :: c :: rest)
  | c :: rest =>
    if (digitValue? base c).isSome then
      let (digits, rest) := takeBaseDigits base rest
      (c :: digits, rest)
    else ([], c :: rest)
  | [] => ([], [])

/-- One of the letters, if it comes next. -/
def takeLetter (letters : List Char) : List Char → List Char × List Char
  | c :: rest => if letters.contains c then ([c], rest) else ([], c :: rest)
  | [] => ([], [])

/-- An exponent, if there is one. -/
def takeExponent : List Char → List Char × List Char
  | e :: rest =>
    if e = 'e' ∨ e = 'E' then
      let (sign, digitsFrom) := takeLetter ['+', '-'] rest
      match takeDigitGroups digitsFrom with
      | ([], _) => ([], e :: rest)
      | (digits, rest) => (e :: sign ++ digits, rest)
    else ([], e :: rest)
  | [] => ([], [])

/-- The part of a number after its whole part and point. -/
def takeFraction (cs : List Char) : List Char × List Char :=
  let (digits, rest) := takeDigitGroups cs
  let (exponent, rest) := takeExponent rest
  let (mark, rest) := takeLetter ['j', 'J'] rest
  (digits ++ exponent ++ mark, rest)

/-- A number. -/
def number? (cs : List Char) : Option (Expr × List Char) :=
  let based (base : Nat) (mark : Char) (digitsFrom : List Char) : Option (Expr × List Char) :=
    match takeBaseDigits base digitsFrom with
    | ([], _) => some (.integer ['0'], mark :: digitsFrom)
    | (digits, rest) =>
      let (long, rest) := takeLetter ['l', 'L'] rest
      some (.integer ('0' :: mark :: digits ++ long), rest)
  match cs with
  | '0' :: 'x' :: rest => based 16 'x' rest
  | '0' :: 'X' :: rest => based 16 'X' rest
  | '0' :: 'o' :: rest => based 8 'o' rest
  | '0' :: 'O' :: rest => based 8 'O' rest
  | '0' :: 'b' :: rest => based 2 'b' rest
  | '0' :: 'B' :: rest => based 2 'B' rest
  | '.' :: c :: rest =>
    if c.isDigit then
      let (digits, rest) := takeFraction (c :: rest)
      some (.float ('.' :: digits), rest)
    else none
  | _ =>
    match takeDigitGroups cs with
    | ([], _) => none
    | (digits, '.' :: rest) =>
      let (fraction, rest) := takeFraction rest
      some (.float (digits ++ '.' :: fraction), rest)
    | (digits, rest) =>
      match takeExponent rest with
      | ([], _) =>
        let (mark, rest) := takeLetter ['l', 'L', 'j', 'J'] rest
        some (.integer (digits ++ mark), rest)
      | (exponent, rest) =>
        let (mark, rest) := takeLetter ['j', 'J'] rest
        some (.float (digits ++ exponent ++ mark), rest)

/-! ### Strings -/

/-- How a string is delimited and what its backslashes and braces mean. -/
structure Delimiter where
  opening : List Char
  quote : Char
  triple : Bool
  raw : Bool
  bytes : Bool
  format : Bool
deriving Inhabited

/-- The opening of a string. -/
def opening? (cs : List Char) : Option (Delimiter × List Char) :=
  let flags := cs.takeWhile isStringFlag
  let has (lower upper : Char) : Bool := flags.contains lower || flags.contains upper
  let delimiter (quote : Char) (triple : Bool) : Delimiter :=
    ⟨flags ++ List.replicate (if triple then 3 else 1) quote, quote, triple,
      has 'r' 'R', has 'b' 'B', has 'f' 'F'⟩
  match cs.dropWhile isStringFlag with
  | [] => none
  | q :: rest =>
    if !isQuote q then none
    else match rest with
      | a :: b :: more =>
        if a = q ∧ b = q ∧ q.toNat ≠ 0x60 then some (delimiter q true, more)
        else some (delimiter q false, rest)
      | _ => some (delimiter q false, rest)

/-- The number of characters of the escape after a backslash, none when the backslash stands
alone. -/
def escapeLength (cs : List Char) : Nat :=
  let hex (n : Nat) : Nat :=
    let digits := cs.tail.take n
    if digits.length = n && digits.all fun c => (digitValue? 16 c).isSome then n + 1 else 0
  match cs with
  | [] => 0
  | '\r' :: '\n' :: _ => 2
  | 'N' :: '\x7b' :: rest =>
    let name := rest.takeWhile (· != '\x7d')
    if name.isEmpty || name.length = rest.length then 0 else name.length + 3
  | c :: rest =>
    if ['\n', '\'', '"', 'a', 'b', 'f', 'r', 'n', 't', 'v', '\\'].contains c then 1
    else if c = 'x' then hex 2
    else if c = 'u' then hex 4
    else if c = 'U' then hex 8
    else if c.isDigit then 1 + ((rest.take 2).takeWhile Char.isDigit).length
    else 0

/-- What is left of a string while it is read: the body so far, backwards; the part of it passed
since the last place where it may be cut, backwards; whether that part has more than backslashes
in it; and whether there were replacement fields. -/
structure Progress where
  body : List Char
  pending : List Char
  solid : Bool
  fields : Bool

/-- The string may be cut here. -/
def Progress.cut (p : Progress) : Progress :=
  { p with body := p.pending ++ p.body, pending := [], solid := false }

/-- More text that belongs to the body, given backwards, after which the string may be cut. -/
def Progress.take (p : Progress) (text : List Char) : Progress :=
  { p.cut with body := text ++ p.cut.body }

/-- The body of a string and the text after its closing quote.  `field` reads a replacement field
after its opening brace; the fuel bounds the number of steps. -/
def readStringBody (d : Delimiter) (field : List Char → Option (List Char)) :
    Nat → Progress → List Char → Option (StringToken × List Char)
  | 0, _, _ => none
  | _, _, [] => none
  | fuel + 1, p, c :: rest =>
    let next := readStringBody d field fuel
    let close (p : Progress) (rest : List Char) : Option (StringToken × List Char) :=
      some (⟨d.opening, p.body.reverse, p.fields⟩, rest)
    if d.format && (c == '\x7b' || c == '\x7d') then
      if !p.pending.isEmpty then next p.cut (c :: rest)
      else if rest.head? = some c then next (p.take [c, c]) rest.tail
      else if c = '\x7b' then do
        let rest ← field rest
        next { p with fields := true } rest
      else none
    else if c = '\\' then
      if d.raw then
        let (stepped, rest) := match rest with
          | a :: more => if a = d.quote ∨ a = '\\' then ([a], more) else ([], a :: more)
          | [] => ([], [])
        let (lineEnd, rest) := match rest with
          | '\r' :: '\n' :: more => (['\n', '\r'], more)
          | '\r' :: more => (['\r'], more)
          | '\n' :: more => (['\n'], more)
          | more => ([], more)
        next { p with pending := lineEnd ++ stepped ++ '\\' :: p.pending } rest
      else match d.bytes, rest with
        | true, a :: b :: more =>
          if a = 'N' ∨ a = 'u' ∨ a = 'U' then
            next { p with pending := b :: a :: '\\' :: p.pending, solid := true } more
          else
            let n := escapeLength rest
            next (p.take ((rest.take n).reverse ++ ['\\'])) (rest.drop n)
        | _, _ =>
          let n := escapeLength rest
          next (p.take ((rest.take n).reverse ++ ['\\'])) (rest.drop n)
    else if c = d.quote then
      if d.triple then
        match rest with
        | a :: b :: more =>
          if a = c ∧ b = c then
            if p.solid then next p.cut (c :: rest) else close p more
          else if a = c then next (p.take [c, c]) (b :: more)
          else next (p.take [c]) rest
        | [a] => if a = c then none else next (p.take [c]) rest
        | [] => none
      else if p.solid then next p.cut (c :: rest)
      else close p rest
    else if c = '\n' ∧ p.solid ∧ !d.triple then none
    else next { p with pending := c :: p.pending, solid := true } rest

/-- A string. -/
def string? (field : List Char → Option (List Char)) (cs : List Char) :
    Option (StringToken × List Char) := do
  let (d, rest) ← opening? cs
  readStringBody d field (2 * rest.length + 2) ⟨[], [], false, false⟩ rest

end Toolshed.Source.Python
