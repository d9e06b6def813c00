import Toolshed.Yaml.Scalar

/-!
# Tokens of a YAML text

The tokens of a text are its marks, names and scalars, and those that its indentation implies:
the start of a block collection, and its end.  Whether a text is the key of a mapping shows only
at the colon after it, so the tokens of a key are inserted where the key began.
-/

namespace Toolshed.Yaml

/-- A token. -/
inductive Token where
  | version (major minor : Nat)
  | handle (handle stands : List Char)
  | documentStart
  | documentEnd
  | blockSequence
  | blockMapping
  | blockEnd
  | blockEntry
  | openSequence
  | closeSequence
  | openMapping
  | closeMapping
  | flowEntry
  | key
  | value
  | alias (name : List Char)
  | anchor (name : List Char)
  | tag (handle suffix : List Char)
  | scalar (text : List Char) (isPlain : Bool)
deriving DecidableEq, Inhabited

/-! ### Names, tags and directives -/

/-- The name of an anchor or an alias, its mark being passed. -/
def readName? (c : Cursor) : Option (List Char × Cursor) :=
  let (name, next) := c.run isNameChar
  let ends := match next.rest with
    | [] => true
    | d :: _ => isSpace d || d ∈ ['?', ':', ',', ']', '\x7d', '%', '@'] || d.toNat = 0x60
  if name.isEmpty || !ends then none else some (name, next)

/-- The characters of a tag; a verbatim tag may hold commas and brackets too. -/
def isTagChar (isVerbatim : Bool) (c : Char) : Bool :=
  isNameChar c || c ∈ [';', '/', '?', ':', '@', '&', '=', '+', '$', '.', '%', '!', '~', '*', '\'',
    '(', ')'] || isVerbatim && c ∈ [',', '[', ']']

/-- The octet of an escape in a tag. -/
def octet? : List Char → Option Nat
  | '%' :: a :: b :: _ => do
    let a ← hexValue? a
    let b ← hexValue? b
    pure (16 * a + b)
  | _ => none

/-- The number of octets of a character by its first one. -/
def octetCount? (first : Nat) : Option Nat :=
  if first < 0x80 then some 1
  else if 0xC0 ≤ first ∧ first < 0xE0 then some 2
  else if 0xE0 ≤ first ∧ first < 0xF0 then some 3
  else if 0xF0 ≤ first ∧ first < 0xF8 then some 4
  else none

/-- The given number of escaped octets that continue a character. -/
def readOctets? : Nat → Cursor → Option (List Char × Cursor)
  | 0, c => some ([], c)
  | count + 1, c => do
    let n ← octet? c.rest
    if 0x80 ≤ n ∧ n < 0xC0 then
      let (others, c) ← readOctets? count (c.advance 3)
      pure (Char.ofNat n :: others, c)
    else none

/-- The characters of a tag in front, escapes taken as octets. -/
def readTagText? (isVerbatim : Bool) : Nat → Cursor → Option (List Char × Cursor)
  | 0, _ => none
  | fuel + 1, c =>
    match c.rest with
    | [] => some ([], c)
    | d :: _ =>
      if !isTagChar isVerbatim d then some ([], c)
      else if d = '%' then do
        let first ← octet? c.rest
        let count ← octetCount? first
        let (others, c) ← readOctets? (count - 1) (c.advance 3)
        let (text, c) ← readTagText? isVerbatim fuel c
        pure (Char.ofNat first :: others ++ text, c)
      else (readTagText? isVerbatim fuel (c.advance 1)).map fun (text, c) => (d :: text, c)

/-- An exclamation mark, a name, and a second exclamation mark if there is one. -/
def readHandle? (c : Cursor) : Option (List Char × Cursor) :=
  if c.rest.head? ≠ some '!' then none
  else
    let (name, next) := (c.advance 1).run isNameChar
    if next.rest.head? = some '!' then some ('!' :: name ++ ['!'], next.advance 1)
    else some ('!' :: name, next)

/-- The handle and the suffix of a tag. -/
def readTag? (inFlow : Bool) (c : Cursor) : Option (Token × Cursor) := do
  let (token, c) ← match c.rest with
    | '!' :: '<' :: _ => do
      let (text, c) ← readTagText? true (c.rest.length + 1) (c.advance 2)
      if text.isEmpty || c.rest.head? ≠ some '>' then none
      else pure (Token.tag [] text, c.advance 1)
    | _ => do
      let (handle, c) ← readHandle? c
      let (text, c) ← readTagText? false (c.rest.length + 1) c
      if handle.length > 1 && handle.getLast? = some '!' then
        if text.isEmpty then none else pure (Token.tag handle text, c)
      else
        let suffix := handle.tail ++ text
        pure (if suffix.isEmpty then Token.tag [] ['!'] else Token.tag ['!'] suffix, c)
  if atGap c.rest || inFlow && c.rest.head? = some ',' then pure (token, c) else none

/-- A number of at most nine digits. -/
def readVersionNumber? (c : Cursor) : Option (Nat × Cursor) :=
  let (digits, next) := c.run Char.isDigit
  if digits.isEmpty || digits.length > 9 then none
  else some (digits.foldl (fun n d => 10 * n + (d.toNat - 48)) 0, next)

/-- A directive whose mark is passed, with the rest of its line. -/
def readDirective? (c : Cursor) : Option (Token × Cursor) := do
  let (name, c) := c.run isNameChar
  if !atGap c.rest then none
  let c := c.pass isBlank
  let (token, c) ←
    if name = "YAML".toList then do
      let (major, c) ← readVersionNumber? c
      if c.rest.head? ≠ some '.' then none
      let (minor, c) ← readVersionNumber? (c.advance 1)
      pure (Token.version major minor, c)
    else if name = "TAG".toList then do
      let (handle, c) ← readHandle? c
      let isWhole := handle = ['!'] || handle.length > 1 && handle.getLast? = some '!'
      if !isWhole || !c.rest.head?.any isBlank then none
      let (text, c) ← readTagText? true (c.rest.length + 1) (c.pass isBlank)
      if text.isEmpty || !atGap c.rest then none
      pure (Token.handle handle text, c)
    else none
  let c ← c.endLine?
  pure (token, c)

/-! ### Layout -/

/-- A place where a key of a mapping may have begun. -/
structure PossibleKey where
  /-- Nothing but a key can stand here. -/
  isRequired : Bool
  /-- The number of tokens before it. -/
  tokenCount : Nat
  index : Nat
  line : Nat
  column : Nat
deriving Inhabited

/-- The state of reading tokens: the tokens so far, the columns of the open block collections, and
the possible key of each open flow collection and of the text around them. -/
structure Layout where
  cursor : Cursor
  tokens : Array Token
  indent : Int
  outerIndents : List Int
  keyAllowed : Bool
  possibleKey : Option PossibleKey
  outerKeys : List (Option PossibleKey)
deriving Inhabited

namespace Layout

/-- The start of a text. -/
def start (text : List Char) : Layout :=
  ⟨.start text, #[], -1, [], true, none, []⟩

/-- The place is inside a flow collection. -/
def inFlow (s : Layout) : Bool :=
  !s.outerKeys.isEmpty

/-- One more token, ending at a given place. -/
def push (s : Layout) (token : Token) (next : Cursor) : Layout :=
  ⟨next, s.tokens.push token, s.indent, s.outerIndents, s.keyAllowed, s.possibleKey, s.outerKeys⟩

/-- A key may or may not begin at the next token. -/
def allowKey (s : Layout) (allowed : Bool) : Layout :=
  ⟨s.cursor, s.tokens, s.indent, s.outerIndents, allowed, s.possibleKey, s.outerKeys⟩

/-- The state without a possible key; a required one must not be given up. -/
def forgetKey? (s : Layout) : Option Layout :=
  if s.possibleKey.any (·.isRequired) then none
  else some ⟨s.cursor, s.tokens, s.indent, s.outerIndents, s.keyAllowed, none, s.outerKeys⟩

/-- The state where a key may begin at the next token, if keys are allowed. -/
def markKey? (s : Layout) : Option Layout :=
  if s.keyAllowed then do
    let s ← s.forgetKey?
    let c := s.cursor
    let isRequired := !s.inFlow && s.indent = c.column
    let key : PossibleKey := ⟨isRequired, s.tokens.size, c.index, c.line, c.column⟩
    pure ⟨c, s.tokens, s.indent, s.outerIndents, s.keyAllowed, some key, s.outerKeys⟩
  else some s

/-- A key ends on the line on which it began, after at most 1024 characters. -/
def isStale (c : Cursor) (key : PossibleKey) : Bool :=
  key.line < c.line || key.index + 1024 < c.index

/-- The state without the possible keys that can be keys no more. -/
def dropStale? (s : Layout) : Option Layout :=
  let keys := s.possibleKey :: s.outerKeys
  let stale := fun (key : Option PossibleKey) => key.any (isStale s.cursor)
  if keys.any fun key => stale key && key.any (·.isRequired) then none
  else
    let keep := fun (key : Option PossibleKey) => if stale key then none else key
    some ⟨s.cursor, s.tokens, s.indent, s.outerIndents, s.keyAllowed, keep s.possibleKey,
      s.outerKeys.map keep⟩

/-- A block collection is opened at a column right of the present one; its token goes to a given
place among the tokens. -/
def openBlock (s : Layout) (column : Nat) (place : Nat) (token : Token) : Layout :=
  if s.inFlow || s.indent ≥ column then s
  else ⟨s.cursor, s.tokens.insertIdxIfInBounds place token, column, s.indent :: s.outerIndents,
    s.keyAllowed, s.possibleKey, s.outerKeys⟩

/-- The tokens with an end for each block collection right of a column, and what stays open. -/
def closeBlocks (column : Int) : Array Token → Int → List Int → Array Token × Int × List Int
  | tokens, indent, outer :: others =>
    if indent > column then closeBlocks column (tokens.push .blockEnd) outer others
    else (tokens, indent, outer :: others)
  | tokens, indent, [] => (tokens, indent, [])

/-- The block collections right of a column are closed, but none inside a flow collection. -/
def closeTo (s : Layout) (column : Int) : Layout :=
  if s.inFlow then s
  else
    let (tokens, indent, outer) := closeBlocks column s.tokens s.indent s.outerIndents
    ⟨s.cursor, tokens, indent, outer, s.keyAllowed, s.possibleKey, s.outerKeys⟩

/-- The place of the next token: after blanks, comments and breaks.  A tab may not stand where a
key of a block mapping may begin. -/
def skip (s : Layout) : Nat → Layout
  | 0 => s
  | fuel + 1 =>
    let c := if s.cursor.index = 0 && s.cursor.rest.head? = some '\ufeff' then s.cursor.advance 1
      else s.cursor
    let c := c.pass fun d => d = ' ' || (s.inFlow || !s.keyAllowed) && d = '\t'
    let c := if c.rest.head? = some '#' then c.pass (!isBreak ·) else c
    match c.lineBreak? with
    | some (_, next) =>
      skip ⟨next, s.tokens, s.indent, s.outerIndents, s.keyAllowed || !s.inFlow, s.possibleKey,
        s.outerKeys⟩ fuel
    | none =>
      ⟨c, s.tokens, s.indent, s.outerIndents, s.keyAllowed, s.possibleKey, s.outerKeys⟩

/-- A directive or a mark of a document; all block collections end before it. -/
def readMark? (s : Layout) (token : Token) (next : Cursor) : Option Layout := do
  let s ← (s.closeTo (-1)).forgetKey?
  pure ((s.push token next).allowKey false)

/-- The start of a flow collection. -/
def openFlow? (s : Layout) (token : Token) : Option Layout := do
  let s ← s.markKey?
  let s := s.push token (s.cursor.advance 1)
  pure ⟨s.cursor, s.tokens, s.indent, s.outerIndents, true, none, s.possibleKey :: s.outerKeys⟩

/-- The end of a flow collection. -/
def closeFlow? (s : Layout) (token : Token) : Option Layout := do
  let s ← s.forgetKey?
  let s := s.push token (s.cursor.advance 1)
  let (key, outer) := match s.outerKeys with
    | key :: outer => (key, outer)
    | [] => (s.possibleKey, [])
  pure ⟨s.cursor, s.tokens, s.indent, s.outerIndents, false, key, outer⟩

/-- A comma between the items of a flow collection. -/
def readComma? (s : Layout) : Option Layout := do
  let s ← s.forgetKey?
  pure ((s.push .flowEntry (s.cursor.advance 1)).allowKey true)

/-- The mark of an item of a block sequence. -/
def readEntry? (s : Layout) : Option Layout := do
  if !s.inFlow && !s.keyAllowed then none
  let s ← (s.openBlock s.cursor.column s.tokens.size .blockSequence).forgetKey?
  pure ((s.push .blockEntry (s.cursor.advance 1)).allowKey true)

/-- The mark of a key. -/
def readKey? (s : Layout) : Option Layout := do
  if !s.inFlow && !s.keyAllowed then none
  let s ← (s.openBlock s.cursor.column s.tokens.size .blockMapping).forgetKey?
  pure ((s.push .key (s.cursor.advance 1)).allowKey !s.inFlow)

/-- The mark of a value, which makes a key of what may be one. -/
def readValue? (s : Layout) : Option Layout :=
  match s.possibleKey with
  | some key =>
    let s : Layout := ⟨s.cursor, s.tokens.insertIdxIfInBounds key.tokenCount .key, s.indent,
      s.outerIndents, false, none, s.outerKeys⟩
    let s := s.openBlock key.column key.tokenCount .blockMapping
    some (s.push .value (s.cursor.advance 1))
  | none =>
    if !s.inFlow && !s.keyAllowed then none
    else
      let s := s.openBlock s.cursor.column s.tokens.size .blockMapping
      some ((s.push .value (s.cursor.advance 1)).allowKey !s.inFlow)

/-- A token that may be a key or stand before one. -/
def readContent? (s : Layout) (read : Cursor → Option (Token × Cursor)) : Option Layout := do
  let s ← s.markKey?
  let (token, next) ← read s.cursor
  pure ((s.push token next).allowKey false)

/-- Plain text; after a break a key may follow it. -/
def readPlainScalar? (s : Layout) : Option Layout := do
  let s ← s.markKey?
  let fuel := s.cursor.rest.length + 2
  let (text, isBroken, next) ← readPlain? s.inFlow (s.indent + 1).toNat fuel .empty s.cursor
  pure ((s.push (.scalar text true) next).allowKey isBroken)

/-- Text written as a block. -/
def readBlockScalar? (s : Layout) (isLiteral : Bool) : Option Layout := do
  let s ← s.forgetKey?
  let (text, next) ← readBlock? isLiteral s.indent (s.cursor.advance 1)
  pure ((s.push (.scalar text false) next).allowKey true)

/-- The characters that cannot start plain text. -/
def isIndicator (c : Char) : Bool :=
  c ∈ ['-', '?', ':', ',', '[', ']', '\x7b', '\x7d', '#', '&', '*', '!', '|', '>', '\'', '"', '%',
    '@'] || c.toNat = 0x60

/-- The next token in front of a text that does not end here. -/
def readToken? (s : Layout) (d : Char) (rest : List Char) : Option Layout :=
  let c := s.cursor
  if c.column = 0 && d = '%' then do
    let (token, next) ← readDirective? (c.advance 1)
    s.readMark? token next
  else if c.atMarks '-' then s.readMark? .documentStart (c.advance 3)
  else if c.atMarks '.' then s.readMark? .documentEnd (c.advance 3)
  else if d = '[' then s.openFlow? .openSequence
  else if d = '\x7b' then s.openFlow? .openMapping
  else if d = ']' then s.closeFlow? .closeSequence
  else if d = '\x7d' then s.closeFlow? .closeMapping
  else if d = ',' then s.readComma?
  else if d = '-' && atGap rest then s.readEntry?
  else if d = '?' && (s.inFlow || atGap rest) then s.readKey?
  else if d = ':' && (s.inFlow || atGap rest) then s.readValue?
  else if d = '*' then s.readContent? fun c =>
    (readName? (c.advance 1)).map fun (name, next) => (.alias name, next)
  else if d = '&' then s.readContent? fun c =>
    (readName? (c.advance 1)).map fun (name, next) => (.anchor name, next)
  else if d = '!' then s.readContent? (readTag? s.inFlow)
  else if d = '|' && !s.inFlow then s.readBlockScalar? true
  else if d = '>' && !s.inFlow then s.readBlockScalar? false
  else if d = '\'' then s.readContent? fun c =>
    (readQuoted? .single (c.rest.length + 1) (c.advance 1)).map fun (text, next) =>
      (.scalar text false, next)
  else if d = '"' then s.readContent? fun c =>
    (readQuoted? .double (c.rest.length + 1) (c.advance 1)).map fun (text, next) =>
      (.scalar text false, next)
  else if !(isSpace d || isIndicator d) || d = '-' && !rest.head?.any isBlank ||
      !s.inFlow && (d = '?' || d = ':') && !atGap rest then s.readPlainScalar?
  else none

/-- All tokens; the fuel bounds their number. -/
def readAll? : Nat → Layout → Option (Array Token)
  | 0, _ => none
  | fuel + 1, s => do
    let s ← (s.skip (s.cursor.rest.length + 1)).dropStale?
    let s := s.closeTo s.cursor.column
    match s.cursor.rest with
    | [] =>
      let s ← (s.closeTo (-1)).forgetKey?
      pure s.tokens
    | d :: rest =>
      let s ← s.readToken? d rest
      readAll? fuel s

end Layout

/-- The tokens of a text. -/
def tokens? (text : List Char) : Option (List Token) :=
  if text.all isPrintable then
    ((Layout.start text).readAll? (text.length + 2)).map Array.toList
  else none

end Toolshed.Yaml
