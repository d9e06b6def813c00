import Toolshed.Source.Python.Token

/-!
# Reading Python expressions

The grammar of expressions, types, parameters and targets.  A word is a keyword only where the
keyword may stand; elsewhere it is an identifier.  Readers that meet themselves again do so
through a `Rule`, which stands for the same grammar with less fuel.
-/

namespace Toolshed.Source.Python

/-- What is read through a rule. -/
inductive Goal where
  /-- An expression; a conditional one only where it is allowed. -/
  | expression (follow : Follow) (conditional : Bool)
  /-- An operand: an expression of the level of signs. -/
  | operand (follow : Follow)
  /-- A type. -/
  | type (follow : Follow)
  /-- A replacement field of a formatted string after its opening brace. -/
  | field
  /-- A pattern of a case. -/
  | casePattern
  /-- The body of a compound statement after its colon. -/
  | suite

/-- A reader of an expression. -/
abbrev Reads := Cursor → Option (Expr × Cursor)

/-- A reader for every goal. -/
abbrev Rule := Goal → Reads

/-- An operand between brackets. -/
def inBrackets : Follow := ⟨false, true⟩

/-- An operand that something else must follow. -/
def inside : Follow := ⟨false, false⟩

/-- An operand that may end a statement. -/
def atEnd : Follow := ⟨true, false⟩

/-- The cursor after some punctuation, if it comes next. -/
def Cursor.punct? (c : Cursor) (follow : Follow) (mark : List Char) : Option Cursor := do
  let (cs, _) ← c.look follow
  let rest ← Text.afterStart? mark cs
  pure (c.at rest)

/-- The cursor after an identifier, which may be any word. -/
def Cursor.identifier? (c : Cursor) : Option (List Char × Cursor) := do
  let (cs, _) ← c.operand
  let (w, rest) ← word? cs
  pure (w, c.at rest)

/-- The marks of augmented assignments. -/
def augmentedMarks : List String :=
  ["+=", "-=", "*=", "/=", "@=", "//=", "%=", "**=", ">>=", "<<=", "&=", "^=", "|="]

/-- The text after the mark of an augmented assignment. -/
def afterAugmented? (cs : List Char) : Option (List Char) :=
  augmentedMarks.findSome? fun mark => Text.afterStart? mark.toList cs

/-- The operators between operands, the longer ones before their beginnings. -/
def operatorMarks : List String :=
  ["**", "//", "<<", ">>", "<=", ">=", "==", "!=", "<>", "<", ">", "+", "-", "*", "/", "@", "%",
    "|", "&", "^"]

/-- The text after an operator between operands. -/
def afterOperator? (cs : List Char) : Option (List Char) :=
  if (afterAugmented? cs).isSome then none
  else operatorMarks.findSome? fun mark => Text.afterStart? mark.toList cs

/-- The words that go on with an expression after an operand. -/
def operatorWords : List String :=
  ["if", "else", "and", "or", "in", "not", "is", "as", "for", "async"]

/-- An operand starts here. -/
def operandStarts (cs : List Char) : Bool :=
  match cs with
  | [] => false
  | c :: rest =>
    ['(', '[', '\x7b', '+', '-', '~'].contains c || startsString cs || c.isDigit ||
      (c == '*' && rest.head? != some '*') ||
      (c == '.' && (rest.take 2 == ['.', '.'] || (rest.head?.getD ' ').isDigit)) ||
      (word? cs).isSome

/-! ### Lists of items -/

/-- Items between commas up to a closing bracket, and whether the last comma is followed by the
bracket.  The first item may be followed by the clauses of a comprehension, which then ends the
list; the last component tells so. -/
def readItems (item : Reads) (clauses : Cursor → Option Cursor) (closing : Char) (first : Bool) :
    Nat → Cursor → Option (List Expr × Bool × Bool × Cursor)
  | 0, _ => none
  | fuel + 1, c => do
    let (cs, joinedBefore) ← c.look inBrackets
    let before := if joinedBefore then [Expr.join] else []
    if cs.head? = some closing then
      pure (before, !first, false, c.at cs.tail)
    else
      let (e, c) ← item (c.at cs)
      let (cs, joinedAfter) ← c.look inBrackets
      let items := before ++ e :: if joinedAfter then [Expr.join] else []
      match cs with
      | ',' :: rest =>
        let (others, trailing, comprehension, c) ←
          readItems item clauses closing false fuel (c.at rest)
        pure (items ++ others, trailing, comprehension, c)
      | d :: rest =>
        if d = closing then pure (items, false, false, c.at rest)
        else if first && wordIn ["for", "async"] cs then
          let c ← clauses (c.at cs)
          let c ← c.punct? inBrackets [closing]
          pure (items, false, true, c)
        else none
      | [] => none

/-! ### Operands -/

/-- A string, and the strings right after it. -/
def readStrings (r : Rule) (follow : Follow) : Nat → Cursor → Option (List Expr × Cursor)
  | 0, _ => none
  | fuel + 1, c => do
    let field (cs : List Char) : Option (List Char) :=
      (r .field (c.at cs)).map fun (_, c) => c.rest
    let (token, rest) ← string? field c.rest
    let c := c.at rest
    let (cs, joined) ← c.look follow
    if startsString cs then
      let (others, c) ← readStrings r follow fuel (c.at cs)
      pure (.string token :: (if joined then [.join] else []) ++ others, c)
    else pure ([.string token], c)

/-- The targets of a `for` up to its `in`, and the cursor after it. -/
def readTargets (target : Reads) : Nat → Cursor → Option Cursor
  | 0, _ => none
  | fuel + 1, c => do
    let (e, c) ← target c
    if !e.isTarget then none
    else
      let (cs, _) ← c.look inside
      match afterWord? "in" cs with
      | some rest => pure (c.at rest)
      | none =>
        let rest ← Text.afterStart? [','] cs
        let (cs, _) ← (c.at rest).look inside
        match afterWord? "in" cs with
        | some rest => pure (c.at rest)
        | none => readTargets target fuel (c.at cs)

/-- Expressions between commas where a comprehension may go on. -/
def readSources (r : Rule) : Nat → Cursor → Option Cursor
  | 0, _ => none
  | fuel + 1, c => do
    let (_, c) ← r (.expression inBrackets false) c
    let (cs, _) ← c.look inBrackets
    match cs with
    | ',' :: rest =>
      let (cs, _) ← (c.at rest).look inBrackets
      if operandStarts cs && !wordIn ["for", "async", "if"] cs then
        readSources r fuel (c.at cs)
      else pure (c.at cs)
    | _ => pure c

/-- The clauses of a comprehension, the first of which is a `for`. -/
def readClauses (r : Rule) (target : Reads) : Nat → Cursor → Option Cursor
  | 0, _ => none
  | fuel + 1, c => do
    let (cs, _) ← c.look inBrackets
    let cs := (afterWord? "async" cs).elim cs fun rest =>
      match skipBlanks c.indent false rest with
      | some (cs, _) => if wordIn ["for"] cs then cs else []
      | none => []
    match afterWord? "for" cs with
    | some rest =>
      let c ← readTargets target (rest.length + 1) (c.at rest)
      let c ← readSources r (c.rest.length + 1) c
      more fuel c
    | none =>
      let rest ← afterWord? "if" cs
      let (_, c) ← r (.expression inBrackets false) (c.at rest)
      more fuel c
where
  /-- Further clauses, if any follow. -/
  more (fuel : Nat) (c : Cursor) : Option Cursor := do
    let (cs, _) ← c.look inBrackets
    if wordIn ["for", "async", "if"] cs then readClauses r target fuel (c.at cs) else pure c

/-- A `yield` with what it yields. -/
def readYield (r : Rule) (follow : Follow) (fuel : Nat) (c : Cursor) : Option Cursor := do
  let (cs, _) ← c.look follow
  match afterWord? "from" cs with
  | some rest =>
    let (_, c) ← r (.expression follow true) (c.at rest)
    pure c
  | none =>
    if operandStarts cs then values fuel (c.at cs) else pure c
where
  /-- The yielded expressions. -/
  values : Nat → Cursor → Option Cursor
    | 0, _ => none
    | fuel + 1, c => do
      let (_, c) ← r (.expression follow true) c
      let (cs, _) ← c.look follow
      match cs with
      | ',' :: rest =>
        let (cs, _) ← (c.at rest).look follow
        if operandStarts cs then values fuel (c.at cs) else pure (c.at rest)
      | _ => pure c

/-- An element of a bracketed collection. -/
def readElement (r : Rule) (c : Cursor) : Option (Expr × Cursor) :=
  match c.rest with
  | '*' :: '*' :: _ => none
  | '*' :: rest => do
    let (e, c) ← r (.expression inBrackets true) (c.at rest)
    pure (.star e, c)
  | cs =>
    match afterWord? "yield" cs with
    | some rest => do
      let c ← readYield r inBrackets (rest.length + 1) (c.at rest)
      pure (.other, c)
    | none => r (.expression inBrackets true) c

/-- An element of a set or a dictionary. -/
def readEntry (r : Rule) (c : Cursor) : Option (Expr × Cursor) :=
  match c.rest with
  | '*' :: '*' :: rest => do
    let (_, c) ← r (.expression inBrackets true) (c.at rest)
    pure (.spread, c)
  | _ => do
    let (key, c) ← readElement r c
    match c.punct? inBrackets [':'] with
    | some c =>
      let (value, c) ← r (.expression inBrackets true) c
      pure (.pair key value, c)
    | none => pure (key, c)

/-- An argument of a call. -/
def readArgument (r : Rule) (c : Cursor) : Option (Expr × Cursor) :=
  match c.rest with
  | '*' :: '*' :: rest => r (.expression inBrackets true) (c.at rest)
  | '*' :: rest => r (.expression inBrackets true) (c.at rest)
  | cs =>
    let named : Option Cursor := do
      let (w, rest) ← word? cs
      if ["not", "lambda", "True", "False", "None"].any fun k => k.toList == w then none
      else
        let (cs, _) ← (c.at rest).look inBrackets
        match cs with
        | '=' :: '=' :: _ => none
        | '=' :: rest => pure (c.at rest)
        | _ => none
    match named with
    | some c => r (.expression inBrackets true) c
    | none => r (.expression inBrackets true) c

/-- A subscript or a slice. -/
def readSubscript (r : Rule) (c : Cursor) : Option (Expr × Cursor) := do
  let bound (c : Cursor) : Option Cursor := do
    let (cs, _) ← c.look inBrackets
    if [':', ',', ']'].contains (cs.headD ',') then pure (c.at cs)
    else
      let (_, c) ← r (.expression inBrackets true) (c.at cs)
      pure c
  let c ← bound c
  match c.punct? inBrackets [':'] with
  | some c =>
    let c ← bound c
    match c.punct? inBrackets [':'] with
    | some c => (bound c).map (.other, ·)
    | none => pure (.other, c)
  | none => pure (.other, c)

/-- No clauses of a comprehension may follow. -/
def noClauses (_ : Cursor) : Option Cursor := none

/-- The trailers of an operand: attributes, subscripts and calls. -/
def readTrailers (r : Rule) (target : Reads) (follow : Follow) :
    Nat → Expr → Bool → Cursor → Option (Expr × Bool × Cursor)
  | 0, _, _, _ => none
  | fuel + 1, e, starrable, c => do
    let (cs, _) ← c.look follow
    let size := cs.length + 1
    match cs with
    | '.' :: rest =>
      let (_, c) ← (c.at rest).identifier?
      readTrailers r target follow fuel .place true c
    | '[' :: rest =>
      let (items, _, _, c) ← readItems (readSubscript r) noClauses ']' true size (c.at rest)
      if items.all fun | .join => true | _ => false then none
      else readTrailers r target follow fuel .place true c
    | '(' :: rest =>
      let rest := match skipBlanks c.indent true rest with
        | some (',' :: more, _) =>
          match skipBlanks c.indent true more with
          | some (')' :: _, _) => more
          | _ => rest
        | _ => rest
      let (_, _, _, c) ← readItems (readArgument r) (readClauses r target size) ')' true size
        (c.at rest)
      readTrailers r target follow fuel .other starrable c
    | _ => pure (e, starrable, c)

/-- The items of brackets as an expression: in parentheses, a single item without a comma after it
is the expression itself. -/
def ofParentheses (items : List Expr) (trailing comprehension : Bool) : Expr :=
  let solid := items.filter fun | .join => false | _ => true
  if comprehension then .other
  else if solid.length = 1 && !trailing then .paren items
  else .tuple items

/-- The items of braces as an expression: pairs and spreads make a dictionary and nothing else
may stand beside them. -/
def ofBraces? (items : List Expr) (comprehension : Bool) : Option Expr :=
  let isEntry (e : Expr) : Bool := match e with
    | .pair _ _ => true
    | .spread => true
    | _ => false
  let solid := items.filter fun | .join => false | _ => true
  if comprehension then some .other
  else if solid.all isEntry then some (.dict items)
  else if solid.any isEntry then none
  else some .other

/-- An atom: a name, a literal or a bracketed expression; also, whether it may be starred. -/
def readAtom (r : Rule) (target : Reads) (follow : Follow) (c : Cursor) :
    Option (Expr × Bool × Cursor) := do
  let (cs, _) ← c.operand
  let c := c.at cs
  let size := cs.length + 1
  if startsString cs then
    let (parts, c) ← readStrings r follow size c
    match parts with
    | [part] => pure (part, false, c)
    | _ => pure (.strings parts, false, c)
  else match number? cs with
    | some (e, rest) => pure (e, false, c.at rest)
    | none =>
      match cs with
      | '.' :: '.' :: '.' :: rest => pure (.other, false, c.at rest)
      | '(' :: rest =>
        let (items, trailing, comprehension, c) ←
          readItems (readElement r) (readClauses r target size) ')' true size (c.at rest)
        let empty := items.all fun | .join => true | _ => false
        pure (if empty then .tuple items else ofParentheses items trailing comprehension, false, c)
      | '[' :: rest =>
        let (items, _, comprehension, c) ←
          readItems (readElement r) (readClauses r target size) ']' true size (c.at rest)
        pure (if comprehension then .other else .list items, false, c)
      | '\x7b' :: rest =>
        let rest := match skipBlanks c.indent true rest with
          | some (',' :: more, _) =>
            match skipBlanks c.indent true more with
            | some ('\x7d' :: _, _) => more
            | _ => rest
          | _ => rest
        let (items, _, comprehension, c) ←
          readItems (readEntry r) (readClauses r target size) '\x7d' true size (c.at rest)
        let e ← ofBraces? items comprehension
        pure (e, false, c)
      | _ =>
        let (w, rest) ← word? cs
        let c := c.at rest
        if w = "True".toList then pure (.bool true, false, c)
        else if w = "False".toList then pure (.bool false, false, c)
        else if w = "None".toList then pure (.none, false, c)
        else pure (.name w, true, c)

/-- An atom with its trailers. -/
def readChain (r : Rule) (target : Reads) (follow : Follow) (c : Cursor) :
    Option (Expr × Bool × Cursor) := do
  let (e, starrable, c) ← readAtom r target follow c
  readTrailers r target follow (c.rest.length + 1) e starrable c

/-- A starred chain after its star. -/
def readStarred (r : Rule) (target : Reads) (follow : Follow) (c : Cursor) :
    Option (Expr × Cursor) := do
  let (e, starrable, c) ← readChain r target follow c
  if starrable then pure (if e.isPlace then .star e else .other, c) else none

/-- A target of a `for`, or of a part of one. -/
def readTarget (r : Rule) : Reads := fun c => do
  let (cs, _) ← c.operand
  let ahead : Reads := fun c => r (.operand inside) c
  match cs with
  | '*' :: rest => readStarred r ahead inside (c.at rest)
  | _ =>
    let (e, _, c) ← readChain r ahead inside (c.at cs)
    pure (e, c)

/-- An operand with its signs. -/
def readOperand (r : Rule) (follow : Follow) (c : Cursor) : Option (Expr × Cursor) := do
  let (cs, _) ← c.operand
  let c := c.at cs
  match cs with
  | '*' :: '*' :: _ => none
  | '*' :: rest => readStarred r (readTarget r) follow (c.at rest)
  | '+' :: rest => signed '+' (c.at rest)
  | '-' :: rest => signed '-' (c.at rest)
  | '~' :: rest => signed '~' (c.at rest)
  | _ =>
    match afterWord? "await" cs with
    | some rest =>
      let (ahead, _) ← (c.at rest).look follow
      if operandStarts ahead && !wordIn operatorWords ahead then
        let (_, c) ← r (.operand follow) (c.at ahead)
        pure (.other, c)
      else chain c
    | none => chain c
where
  /-- A signed operand. -/
  signed (mark : Char) (c : Cursor) : Option (Expr × Cursor) := do
    let (e, c) ← r (.operand follow) c
    pure (.sign mark e, c)
  /-- An operand without a sign. -/
  chain (c : Cursor) : Option (Expr × Cursor) := do
    let (e, _, c) ← readChain r (readTarget r) follow c
    pure (e, c)

/-! ### Expressions -/

/-- The text after an operator word whose right side is an operand: `in`, `not in`, `is` and
`is not`. -/
def afterComparison? (c : Cursor) (cs : List Char) : Option (List Char) :=
  let skip (rest : List Char) : List Char :=
    ((skipBlanks c.indent false rest).map Prod.fst).getD []
  match afterWord? "in" cs with
  | some rest => some rest
  | none =>
    match afterWord? "not" cs with
    | some rest => afterWord? "in" (skip rest)
    | none =>
      match afterWord? "is" cs with
      | some rest =>
        match afterWord? "not" (skip rest) with
        | some rest => some rest
        | none => some rest
      | none => none

/-- The operators after an operand, with their right sides. -/
def readOperators (r : Rule) (follow : Follow) (conditional : Bool) :
    Nat → Expr → Cursor → Option (Expr × Cursor)
  | 0, _, _ => none
  | fuel + 1, left, c => do
    let (cs, _) ← c.look follow
    let goOn (rest : List Char) : Option (Expr × Cursor) := do
      let (_, c) ← readOperand r follow (c.at rest)
      readOperators r follow conditional fuel .other c
    let final (rest : List Char) : Option (Expr × Cursor) := do
      let (_, c) ← r (.expression follow conditional) (c.at rest)
      pure (.other, c)
    match (afterOperator? cs).or (afterComparison? c cs) with
    | some rest => goOn rest
    | none =>
      match ((afterWord? "and" cs).or (afterWord? "or" cs)).or (afterWord? "as" cs) with
      | some rest => final rest
      | none =>
        match if conditional then afterWord? "if" cs else none with
        | some rest =>
          let (_, c) ← r (.expression inside true) (c.at rest)
          let (cs, _) ← c.look inside
          let rest ← afterWord? "else" cs
          let (_, c) ← r (.expression follow true) (c.at rest)
          pure (.other, c)
        | none => pure (left, c)

/-- A parameter with what follows its name: a type, if types are allowed, and a default. -/
def readDefault (r : Rule) (follow : Follow) (typed : Bool) (c : Cursor) : Option Cursor := do
  let (cs, _) ← c.look follow
  let c ← match typed, cs with
    | true, ':' :: rest => (r (.type follow) (c.at rest)).map Prod.snd
    | _, _ => pure c
  match c.punct? follow ['='] with
  | some c => (r (.expression follow true) c).map Prod.snd
  | none => pure c

/-- A parameter. -/
def readParameter (r : Rule) (follow : Follow) (typed : Bool) (closing : Char) (c : Cursor) :
    Option Cursor := do
  let (cs, _) ← c.operand
  let c := c.at cs
  let typeOnly (c : Cursor) : Option Cursor := do
    let (cs, _) ← c.look follow
    match typed, cs with
    | true, ':' :: rest => (r (.type follow) (c.at rest)).map Prod.snd
    | _, _ => pure c
  match cs with
  | '*' :: '*' :: rest =>
    let (_, c) ← readStarred r (readTarget r) follow (c.at rest)
    typeOnly c
  | '*' :: rest =>
    let (ahead, _) ← (c.at rest).look follow
    if ahead.head? = some ',' || ahead.head? = some closing then pure (c.at ahead)
    else
      let (_, c) ← readStarred r (readTarget r) follow (c.at rest)
      typeOnly c
  | '/' :: rest => pure (c.at rest)
  | '(' :: _ =>
    let (e, _, c) ← readAtom r (readTarget r) follow c
    if e.isTarget then readDefault r follow false c else none
  | _ =>
    let (_, c) ← c.identifier?
    readDefault r follow typed c

/-- Parameters up to their closing character. -/
def readParameters (r : Rule) (follow : Follow) (typed : Bool) (closing : Char) :
    Nat → Cursor → Option Cursor
  | 0, _ => none
  | fuel + 1, c => do
    let (cs, _) ← c.look follow
    match cs with
    | d :: rest =>
      if d = closing then pure (c.at rest)
      else
        let c ← readParameter r follow typed closing (c.at cs)
        let (cs, _) ← c.look follow
        match cs with
        | ',' :: rest => readParameters r follow typed closing fuel (c.at rest)
        | d :: rest => if d = closing then pure (c.at rest) else none
        | [] => none
    | [] => none

/-- An expression. -/
def readExpression (r : Rule) (follow : Follow) (conditional : Bool) (c : Cursor) :
    Option (Expr × Cursor) := do
  let (cs, _) ← c.operand
  let c := c.at cs
  match afterWord? "not" cs with
  | some rest =>
    let (_, c) ← r (.expression follow conditional) (c.at rest)
    pure (.other, c)
  | none =>
    match afterWord? "lambda" cs with
    | some rest =>
      let c ← readParameters r inside false ':' (rest.length + 1) (c.at rest)
      let (_, c) ← r (.expression follow conditional) c
      pure (.other, c)
    | none =>
      let (e, c) ← readOperand r follow c
      let (ahead, _) ← c.look follow
      match e, ahead with
      | .name _, ':' :: '=' :: rest =>
        let (_, c) ← r (.expression follow conditional) (c.at rest)
        pure (.other, c)
      | _, _ => readOperators r follow conditional (c.rest.length + 1) e c

/-! ### Types -/

/-- What may follow a type: another type after a bar, a name after a point, or, in brackets, a
bound after a colon. -/
def readTypeTail (r : Rule) (follow : Follow) (bounds : Bool) : Nat → Cursor → Option Cursor
  | 0, _ => none
  | fuel + 1, c => do
    let (cs, _) ← c.look follow
    match cs with
    | '|' :: rest =>
      let (_, c) ← r (.type follow) (c.at rest)
      readTypeTail r follow bounds fuel c
    | '.' :: rest =>
      let (_, c) ← (c.at rest).identifier?
      readTypeTail r follow bounds fuel c
    | ':' :: rest =>
      if bounds then
        let (_, c) ← r (.type follow) (c.at rest)
        readTypeTail r follow bounds fuel c
      else pure c
    | _ => pure c

/-- A type in the brackets of another type. -/
def readTypeArgument (r : Rule) (c : Cursor) : Option (Expr × Cursor) := do
  let (_, c) ← r (.type inBrackets) c
  let c ← readTypeTail r inBrackets true (c.rest.length + 1) c
  pure (.other, c)

/-- Types between brackets after the opening one, at least one. -/
def readTypeArguments (r : Rule) (c : Cursor) : Option Cursor := do
  let (items, _, _, c) ← readItems (readTypeArgument r) noClauses ']' true (c.rest.length + 1) c
  if items.isEmpty then none else pure c

/-- A type: an expression, a name with types in brackets, or a starred name. -/
def readType (r : Rule) (follow : Follow) (c : Cursor) : Option (Expr × Cursor) := do
  let (cs, _) ← c.operand
  let c := c.at cs
  let tail (c : Cursor) : Option (Expr × Cursor) := do
    let c ← readTypeTail r follow false (c.rest.length + 1) c
    pure (.other, c)
  let plain : Option (Expr × Cursor) := do
    let (_, c) ← r (.expression follow true) c
    tail c
  match cs with
  | '*' :: '*' :: rest =>
    let (_, c) ← (c.at rest).identifier?
    tail c
  | _ =>
    match word? cs with
    | some (w, rest) =>
      if ["not", "lambda", "await", "True", "False", "None"].any fun k => k.toList == w then plain
      else if startsString cs then plain
      else
        let (ahead, _) ← (c.at rest).look follow
        match ahead with
        | '[' :: rest =>
          let c ← readTypeArguments r (c.at rest)
          tail c
        | _ => plain
    | none => plain

/-! ### Replacement fields -/

/-- The format of a replacement field after its colon, up to the closing brace. -/
def readFormat (r : Rule) : Nat → Cursor → Option Cursor
  | 0, _ => none
  | fuel + 1, c =>
    match c.rest with
    | [] => none
    | '\x7d' :: rest => some (c.at rest)
    | '\x7b' :: rest => do
      let (_, c) ← r .field (c.at rest)
      readFormat r fuel c
    | _ :: rest => readFormat r fuel (c.at rest)

/-- Expressions between commas in a replacement field. -/
def readFieldValues (r : Rule) : Nat → Cursor → Option Cursor
  | 0, _ => none
  | fuel + 1, c => do
    let (_, c) ← r (.expression inBrackets true) c
    match c.punct? inBrackets [','] with
    | some c =>
      let (cs, _) ← c.look inBrackets
      if operandStarts cs then readFieldValues r fuel (c.at cs) else pure c
    | none => pure c

/-- A replacement field after its opening brace. -/
def readField (r : Rule) (c : Cursor) : Option (Expr × Cursor) := do
  let (cs, _) ← c.look inBrackets
  let c := c.at cs
  let c ← match afterWord? "yield" cs with
    | some rest => readYield r inBrackets (rest.length + 1) (c.at rest)
    | none => readFieldValues r (cs.length + 1) c
  let c := (c.punct? inBrackets ['=']).getD c
  let (cs, _) ← c.look inBrackets
  let c := match cs with
    | '!' :: letter :: rest => if 'a' ≤ letter ∧ letter ≤ 'z' then c.at rest else c
    | _ => c
  match c.punct? inBrackets [':'] with
  | some c => (readFormat r (c.rest.length + 1) c).map (.other, ·)
  | none => (c.punct? inBrackets ['\x7d']).map (.other, ·)

end Toolshed.Source.Python
