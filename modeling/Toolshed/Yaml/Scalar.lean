import Toolshed.Yaml.Cursor

/-!
# The texts of scalars

A scalar is written plain, between single or double quotes, or as a block of lines.  Quoted and
plain text may run over several lines, whose breaks are folded; a block keeps them or folds them,
and its header says what becomes of the breaks at its end.
-/

namespace Toolshed.Yaml

/-! ### Quoted text -/

/-- The character of a short escape. -/
def shortEscape? (c : Char) : Option Char :=
  match c with
  | '0' => some '\x00'
  | 'a' => some '\x07'
  | 'b' => some '\x08'
  | 't' => some '\t'
  | '\t' => some '\t'
  | 'n' => some '\n'
  | 'v' => some '\x0b'
  | 'f' => some '\x0c'
  | 'r' => some '\r'
  | 'e' => some '\x1b'
  | ' ' => some ' '
  | '"' => some '"'
  | '/' => some '/'
  | '\\' => some '\\'
  | 'N' => some '\x85'
  | '_' => some '\u00a0'
  | 'L' => some '\u2028'
  | 'P' => some '\u2029'
  | _ => none

/-- The number of digits of an escape by code. -/
def codeLength? (c : Char) : Option Nat :=
  match c with
  | 'x' => some 2
  | 'u' => some 4
  | 'U' => some 8
  | _ => none

/-- The value of a hexadecimal digit. -/
def hexValue? (c : Char) : Option Nat :=
  if c.isDigit then some (c.toNat - 48)
  else if 'a' ≤ c ∧ c ≤ 'f' then some (c.toNat - 87)
  else if 'A' ≤ c ∧ c ≤ 'F' then some (c.toNat - 55)
  else none

/-- The character of an escape, and the number of characters that write it after the backslash. -/
def escape? : List Char → Option (Char × Nat)
  | [] => none
  | e :: rest =>
    match shortEscape? e with
    | some c => some (c, 1)
    | none => do
      let length ← codeLength? e
      let digits := rest.take length
      let code ← digits.foldlM (fun n d => (hexValue? d).map (16 * n + ·)) 0
      if h : digits.length = length ∧ code.isValidChar then
        pure (Char.ofNatAux code h.2, 1 + length)
      else none

/-- The style of quotes. -/
inductive Quotes where
  | single
  | double
deriving DecidableEq, Inhabited

/-- The quotation mark of a style. -/
def Quotes.mark : Quotes → Char
  | .single => '\''
  | .double => '"'

/-- The text in front up to a gap or the closing mark, whether an escaped break ends it, and the
place after it. -/
def readSegment? (quotes : Quotes) : Nat → Cursor → Option (List Char × Bool × Cursor)
  | 0, _ => none
  | fuel + 1, c =>
    match c.rest with
    | [] => some ([], false, c)
    | d :: rest =>
      if isSpace d then some ([], false, c)
      else if quotes = .single && d = '\'' && rest.head? = some '\'' then
        (readSegment? quotes fuel (c.advance 2)).map fun (text, rest) => ('\'' :: text, rest)
      else if d = quotes.mark then some ([], false, c)
      else if quotes = .double && d = '\\' then
        match (c.advance 1).lineBreak? with
        | some (_, next) => some ([], true, next)
        | none => do
          let (e, length) ← escape? rest
          let (text, rest) ← readSegment? quotes fuel (c.advance (1 + length))
          pure (e :: text, rest)
      else (readSegment? quotes fuel (c.advance 1)).map fun (text, rest) => (d :: text, rest)

/-- The text before the closing mark, and the place after the mark. -/
def readQuoted? (quotes : Quotes) : Nat → Cursor → Option (List Char × Cursor)
  | 0, _ => none
  | fuel + 1, c =>
    if c.atDocumentMark || c.rest.isEmpty then none
    else do
      let (text, isBroken, c) ← readSegment? quotes (c.rest.length + 1) c
      if c.rest.head? = some quotes.mark then pure (text, c.advance 1)
      else
        let (gap, c) ← Gap.read? 0 (c.rest.length + 1) ⟨[], isBroken, [], []⟩ c
        let (others, c) ← readQuoted? quotes fuel c
        pure (text ++ gap.text ++ others, c)

/-! ### Plain text -/

/-- The brackets, braces and commas of flow collections. -/
def isFlowMark (c : Char) : Bool :=
  c ∈ [',', '[', ']', '\x7b', '\x7d']

/-- A colon that ends plain text comes next. -/
def atColon : List Char → Bool
  | ':' :: rest => atGap rest
  | _ => false

/-- The text in front up to a gap or a mark that ends plain text, and the place after it; in a
flow collection a colon right before a flow mark or a question mark is refused. -/
def readWord? (inFlow : Bool) : Nat → Cursor → Option (List Char × Cursor)
  | 0, _ => none
  | fuel + 1, c =>
    match c.rest with
    | [] => some ([], c)
    | d :: rest =>
      if isSpace d then some ([], c)
      else if inFlow && d = ':' &&
          rest.head?.any (fun e => isFlowMark e || e = '?') then none
      else if atColon c.rest || inFlow && isFlowMark d then some ([], c)
      else (readWord? inFlow fuel (c.advance 1)).map fun (text, c) => (d :: text, c)

/-- Plain text that continues after a gap, whether it ends after a break, and the place after it.
Outside flow collections its further lines are indented to the column `indent` at least. -/
def readPlain? (inFlow : Bool) (indent : Nat) : Nat → Gap → Cursor →
    Option (List Char × Bool × Cursor)
  | 0, _, _ => none
  | fuel + 1, gap, c =>
    if c.atDocumentMark || c.rest.head? = some '#' then some ([], gap.isBroken, c)
    else do
      let (word, next) ← readWord? inFlow (c.rest.length + 1) c
      let before := if word.isEmpty then [] else gap.text ++ word
      let gap := if word.isEmpty then gap else .empty
      match next.rest with
      | [] => pure (before, gap.isBroken, next)
      | d :: _ =>
        if !isSpace d then pure (before, gap.isBroken, next)
        else
          let (gap, next) ← Gap.read? indent (next.rest.length + 1) gap next
          if !inFlow && next.column < indent then pure (before, gap.isBroken, next)
          else
            let (others, isBroken, next) ← readPlain? inFlow indent fuel gap next
            pure (before ++ others, isBroken, next)

/-! ### Blocks -/

/-- What becomes of the breaks at the end of a block. -/
inductive Chomping where
  | strip
  | clip
  | keep
deriving DecidableEq, Inhabited

/-- The chomping mark in front. -/
def chomping? : List Char → Option Chomping
  | '+' :: _ => some .keep
  | '-' :: _ => some .strip
  | _ => none

/-- The indentation digit in front; zero is none. -/
def increment? : List Char → Option Nat
  | d :: _ => if d.isDigit then some (d.toNat - 48) else none
  | [] => none

/-- The chomping and the indentation in the header of a block, in either order. -/
def readHeader? (c : Cursor) : Option (Chomping × Option Nat × Cursor) :=
  let found : Chomping × Option Nat × Cursor := match chomping? c.rest with
    | some mode =>
      match increment? (c.advance 1).rest with
      | some n => (mode, some n, c.advance 2)
      | none => (mode, none, c.advance 1)
    | none =>
      match increment? c.rest with
      | some n =>
        match chomping? (c.advance 1).rest with
        | some mode => (mode, some n, c.advance 2)
        | none => (.clip, some n, c.advance 1)
      | none => (.clip, none, c)
  if found.2.1 = some 0 then none else some found

/-- The breaks of empty lines in front, the largest column seen, and the place after them; with an
`indent` only the spaces left of it are passed.  A tab in place of such a space is refused. -/
def readEmptyLines? (indent : Option Nat) : Nat → Nat → Cursor → Option (List Char × Nat × Cursor)
  | 0, _, _ => none
  | fuel + 1, widest, c =>
    let spaces := c.rest.takeWhile (· = ' ')
    let c := c.advance (match indent with
      | some n => min spaces.length (n - c.column)
      | none => spaces.length)
    let widest := max widest c.column
    let isLeft := match indent with
      | some n => decide (c.column < n)
      | none => true
    if isLeft && c.rest.head? = some '\t' then none
    else
      match c.lineBreak? with
      | some (b, next) =>
        (readEmptyLines? indent fuel widest next).map fun (breaks, found) => (b :: breaks, found)
      | none => some ([], widest, c)

/-- The lines of a block indented to a column.  The state is the break that ended the last line,
the breaks of the empty lines after it, and whether it started with a blank. -/
def readBlockLines? (isLiteral : Bool) (indent : Nat) : Nat → List Char → List Char → Bool →
    Cursor → Option (List Char × List Char × List Char × Cursor)
  | 0, _, _, _, _ => none
  | fuel + 1, lastBreak, breaks, wasBlank, c =>
    match c.rest with
    | [] => some ([], lastBreak, breaks, c)
    | d :: _ =>
      if c.column ≠ indent then some ([], lastBreak, breaks, c)
      else do
        let joined :=
          if !isLiteral && lastBreak = ['\n'] && !wasBlank && !isBlank d then
            Gap.fold lastBreak breaks
          else lastBreak ++ breaks
        let (line, c) := c.run (!isBreak ·)
        let (ended, c) := match c.lineBreak? with
          | some (b, next) => ([b], next)
          | none => ([], c)
        let (breaks, _, c) ← readEmptyLines? (some indent) (c.rest.length + 1) 0 c
        let (text, found) ← readBlockLines? isLiteral indent fuel ended breaks (isBlank d) c
        pure (joined ++ line ++ text, found)

/-- The text of a block whose mark is passed, and the place after it; `parent` is the indentation
of the collection around it. -/
def readBlock? (isLiteral : Bool) (parent : Int) (c : Cursor) : Option (List Char × Cursor) := do
  let (mode, increment, c) ← readHeader? c
  let c ← c.endLine?
  let given := increment.map fun n => if parent ≥ 0 then parent.toNat + n else n
  let (breaks, widest, c) ← readEmptyLines? given (c.rest.length + 1) 0 c
  let indent := given.getD (max (max widest (parent + 1).toNat) 1)
  let (text, lastBreak, breaks, c) ←
    readBlockLines? isLiteral indent (c.rest.length + 1) [] breaks false c
  let ending := match mode with
    | .strip => []
    | .clip => lastBreak
    | .keep => lastBreak ++ breaks
  pure (text ++ ending, c)

end Toolshed.Yaml
