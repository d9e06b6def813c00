import Toolshed.Source.Python.Grammar

/-!
# Reading Python statements

Simple statements stand on a line, with semicolons between them; a compound statement has a body
after its colon, on the same line or as a block of more indented lines.
-/

namespace Toolshed.Source.Python

/-- A statement.  Of an assignment only a single name with a single value is kept. -/
inductive Statement where
  | expressions (items : List Expr)
  | assignment (target : List Char) (value : Expr)
  | other
deriving Inhabited

/-- The cursor at the end of the line, if the statement ends here. -/
def Cursor.lineEnd? (c : Cursor) : Option Cursor :=
  (Python.lineEnd? c.rest).map c.at

/-- A simple statement may end here. -/
def Cursor.ends (c : Cursor) : Bool :=
  match c.look atEnd with
  | some ([], _) => true
  | some (';' :: _, _) => true
  | _ => false

/-- The cursor at the first token of a statement. -/
def Cursor.statementStart (c : Cursor) : Cursor :=
  match skipBlanks c.indent true c.rest with
  | some (cs, _) => c.at cs
  | none => c

/-! ### Patterns of cases -/

/-- Patterns between commas up to a closing bracket. -/
def readPatterns (item : Reads) (closing : Char) (c : Cursor) : Option Cursor := do
  let (_, _, _, c) ← readItems item noClauses closing true (c.rest.length + 1) c
  pure c

/-- A name with points. -/
def readDotted : Nat → Cursor → Option Cursor
  | 0, _ => none
  | fuel + 1, c => do
    let (_, c) ← c.identifier?
    match c.look atEnd with
    | some ('.' :: rest, _) => readDotted fuel (c.at rest)
    | _ => pure c

/-- A pattern without `as` and without alternatives. -/
def readClosedPattern (r : Rule) (c : Cursor) : Option Cursor := do
  let (cs, _) ← c.look inBrackets
  let c := c.at cs
  let pattern : Reads := r .casePattern
  let entry : Reads := fun c => do
    match c.rest with
    | '*' :: _ => pattern c
    | _ =>
      let (_, c) ← pattern c
      let c ← c.punct? inBrackets [':']
      pattern c
  if startsString cs then
    (readStrings r inBrackets (cs.length + 1) c).map Prod.snd
  else
    let unsigned := match cs with
      | '-' :: rest => ((c.at rest).look inside).elim [] Prod.fst
      | _ => cs
    match number? unsigned with
    | some (_, rest) =>
      let c := c.at rest
      let (cs, _) ← c.look inBrackets
      match cs with
      | '+' :: rest => imaginary (c.at rest)
      | '-' :: rest => imaginary (c.at rest)
      | _ => pure c
    | none =>
      match cs with
      | '*' :: '*' :: rest => ((c.at rest).identifier?).map Prod.snd
      | '*' :: rest => ((c.at rest).identifier?).map Prod.snd
      | '[' :: rest => readPatterns pattern ']' (c.at rest)
      | '(' :: rest => readPatterns pattern ')' (c.at rest)
      | '\x7b' :: rest => readPatterns entry '\x7d' (c.at rest)
      | _ =>
        let c ← readDotted (cs.length + 1) c
        match c.punct? inBrackets ['('] with
        | some c => readPatterns pattern ')' c
        | none => pure c
where
  /-- The second number of a complex one. -/
  imaginary (c : Cursor) : Option Cursor := do
    let (cs, _) ← c.look inside
    let (_, rest) ← number? cs
    pure (c.at rest)

/-- Patterns between bars. -/
def readAlternatives (r : Rule) : Nat → Cursor → Option Cursor
  | 0, _ => none
  | fuel + 1, c => do
    let c ← readClosedPattern r c
    match c.punct? inBrackets ['|'] with
    | some c => readAlternatives r fuel c
    | none => pure c

/-- A pattern of a case. -/
def readCasePattern (r : Rule) (c : Cursor) : Option (Expr × Cursor) := do
  let (cs, _) ← c.look inBrackets
  let c := c.at cs
  let named : Option Cursor := do
    let (_, c) ← c.identifier?
    c.punct? inBrackets ['=']
  let c ← readAlternatives r (cs.length + 1) (named.getD c)
  let (cs, _) ← c.look inBrackets
  match afterWord? "as" cs with
  | some rest =>
    let (_, c) ← (c.at rest).identifier?
    pure (.other, c)
  | none => pure (.other, c)

/-! ### Simple statements -/

/-- Expressions between commas, and whether a comma follows the last one. -/
def readList (r : Rule) (follow : Follow) : Nat → Cursor → Option (List Expr × Bool × Cursor)
  | 0, _ => none
  | fuel + 1, c => do
    let (e, c) ← r (.expression follow true) c
    let (cs, _) ← c.look follow
    match cs with
    | ',' :: rest =>
      let c := c.at rest
      let (cs, _) ← c.look follow
      if operandStarts cs then
        let (others, trailing, c) ← readList r follow fuel (c.at cs)
        pure (e :: others, trailing, c)
      else pure ([e], true, c)
    | _ => pure ([e], false, c)

/-- The right side of an assignment, which may be an assignment itself. -/
def readRight (r : Rule) : Nat → Cursor → Option (Expr × Cursor)
  | 0, _ => none
  | fuel + 1, c => do
    let (cs, _) ← c.operand
    let c := c.at cs
    match afterWord? "yield" cs with
    | some rest =>
      let c ← readYield r atEnd (rest.length + 1) (c.at rest)
      if c.ends then pure (.other, c) else none
    | none =>
      let (items, trailing, c) ← readList r atEnd (cs.length + 1) c
      let (cs, _) ← c.look atEnd
      let again (rest : List Char) : Option (Expr × Cursor) :=
        if Expr.areTargets items then
          (readRight r fuel (c.at rest)).map fun (_, c) => (.other, c)
        else none
      match cs, afterAugmented? cs with
      | _, some rest => again rest
      | '=' :: rest, none => again rest
      | ':' :: rest, none =>
        if Expr.areTargets items then
          let (_, c) ← r (.type atEnd) (c.at rest)
          match c.punct? atEnd ['='] with
          | some c => (readRight r fuel c).map fun (_, c) => (.other, c)
          | none => pure (.other, c)
        else none
      | _, none =>
        match items, trailing with
        | [e], false => pure (e, c)
        | _, _ => pure (.other, c)

/-- An expression statement or an assignment. -/
def readExpressionStatement (r : Rule) (c : Cursor) : Option (Statement × Cursor) := do
  let (cs, _) ← c.operand
  let c := c.at cs
  match afterWord? "yield" cs with
  | some rest =>
    let c ← readYield r atEnd (rest.length + 1) (c.at rest)
    pure (.other, c)
  | none =>
    let (items, trailing, c) ← readList r atEnd (cs.length + 1) c
    let (cs, _) ← c.look atEnd
    let size := cs.length + 1
    match cs, afterAugmented? cs with
    | _, some rest =>
      if Expr.areTargets items then
        (readRight r size (c.at rest)).map fun (_, c) => (.other, c)
      else none
    | '=' :: rest, none =>
      if Expr.areTargets items then
        let (value, c) ← readRight r size (c.at rest)
        match items, trailing with
        | [.name w], false => pure (.assignment w value, c)
        | _, _ => pure (.other, c)
      else none
    | ':' :: rest, none =>
      if Expr.areTargets items then
        let (_, c) ← r (.type atEnd) (c.at rest)
        match c.punct? atEnd ['='] with
        | some c => (readRight r size c).map fun (_, c) => (.other, c)
        | none => pure (.other, c)
      else none
    | _, none => pure (.expressions items, c)

/-- Identifiers between commas. -/
def readNames : Nat → Cursor → Option Cursor
  | 0, _ => none
  | fuel + 1, c => do
    let (_, c) ← c.identifier?
    match c.punct? atEnd [','] with
    | some c => readNames fuel c
    | none => pure c

/-- Imported names between commas, each with an optional alias; a comma may follow the last. -/
def readImports (follow : Follow) : Nat → Cursor → Option Cursor
  | 0, _ => none
  | fuel + 1, c => do
    let c ← readDotted (c.rest.length + 1) c
    let (cs, _) ← c.look follow
    let c ← match afterWord? "as" cs with
      | some rest => ((c.at rest).identifier?).map Prod.snd
      | none => pure (c.at (if cs.isEmpty then c.rest else cs))
    match c.punct? follow [','] with
    | some c =>
      let (cs, _) ← c.look follow
      if (word? cs).isSome then readImports follow fuel (c.at cs) else pure c
    | none => pure c

/-- What follows the word `from` of an import. -/
def readFrom (c : Cursor) : Option Cursor := do
  let (cs, _) ← c.operand
  let rest := cs.dropWhile fun c => c = '.' || c = ' '
  let relative := cs.head? = some '.'
  let c ← if relative && wordIn ["import"] (((c.at rest).operand).elim [] Prod.fst) then
      pure (c.at rest)
    else readDotted (cs.length + 1) (c.at (if relative then rest else cs))
  let (cs, _) ← c.look inside
  let rest ← afterWord? "import" cs
  let (cs, _) ← (c.at rest).look inside
  match cs with
  | '*' :: rest => pure (c.at rest)
  | '(' :: rest =>
    let c ← readImports inBrackets (rest.length + 1) (c.at rest)
    c.punct? inBrackets [')']
  | _ => readImports atEnd (cs.length + 1) (c.at cs)

/-- The expressions after a keyword, if there are any. -/
def readOptionalList (r : Rule) (c : Cursor) : Option Cursor := do
  let (cs, _) ← c.look atEnd
  if operandStarts cs && !wordIn ["from"] cs then
    (readList r atEnd (cs.length + 1) (c.at cs)).map fun (_, _, c) => c
  else pure c

/-- The statement that a keyword begins, none for a word that begins none. -/
def readKeywordStatement (r : Rule) (w : List Char) (c : Cursor) : Option (Option Cursor) :=
  let size := c.rest.length + 1
  match String.ofList w with
  | "import" => some (readImports atEnd size c)
  | "from" => some (readFrom c)
  | "assert" => some do
    let (_, trailing, c) ← readList r atEnd size c
    if trailing then none else pure c
  | "return" => some (readOptionalList r c)
  | "del" => some ((readList r atEnd size c).map fun (_, _, c) => c)
  | "raise" => some do
    let c ← readOptionalList r c
    let (cs, _) ← c.look atEnd
    match afterWord? "from" cs with
    | some rest => (r (.expression atEnd true) (c.at rest)).map Prod.snd
    | none => pure c
  | "pass" => some (some c)
  | "break" => some (some c)
  | "continue" => some (some c)
  | "global" => some (readNames size c)
  | "nonlocal" => some (readNames size c)
  | _ => none

/-- The statements of older forms and the type aliases, after the word that begins them. -/
def readSoftStatement (r : Rule) (w : List Char) (c : Cursor) : Option Cursor :=
  let size := c.rest.length + 1
  match String.ofList w with
  | "print" => do
    match c.punct? atEnd ['>', '>'] with
    | some c => (readList r atEnd size c).map fun (_, _, c) => c
    | none => (readList r atEnd size c).map fun (_, _, c) => c
  | "exec" => do
    let (cs, _) ← c.operand
    let c ← if startsString cs then do
        let (token, c) ← readStrings r atEnd size (c.at cs)
        if token.length = 1 then pure c else none
      else ((c.at cs).identifier?).map Prod.snd
    let (cs, _) ← c.look atEnd
    match afterWord? "in" cs with
    | some rest => (readList r atEnd size (c.at rest)).map fun (_, _, c) => c
    | none => pure c
  | "type" => do
    let (_, c) ← r (.type inside) c
    let c ← c.punct? inside ['=']
    (r (.type atEnd) c).map Prod.snd
  | _ => none

/-- A simple statement. -/
def readSimple (r : Rule) (c : Cursor) : Option (Statement × Cursor) := do
  let (cs, _) ← c.operand
  let c := c.at cs
  let plain : Option (Statement × Cursor) :=
    (readExpressionStatement r c).filter fun (_, c) => c.ends
  if startsString cs then plain
  else match word? cs with
  | some (w, rest) =>
    match readKeywordStatement r w (c.at rest) with
    | some result => result.map (.other, ·)
    | none =>
      match plain with
      | some result => pure result
      | none => (readSoftStatement r w (c.at rest)).map (.other, ·)
  | none => plain

/-- A line of simple statements. -/
def readLine (r : Rule) : Nat → Cursor → Option (List Statement × Cursor)
  | 0, _ => none
  | fuel + 1, c => do
    let (s, c) ← readSimple r c
    match c.punct? atEnd [';'] with
    | some c =>
      match c.lineEnd? with
      | some c => pure ([s], c)
      | none =>
        let (others, c) ← readLine r fuel c
        pure (s :: others, c)
    | none => (c.lineEnd?).map ([s], ·)

/-! ### Compound statements -/

/-- The body after a colon. -/
def readSuite (r : Rule) (c : Cursor) : Option Cursor := do
  let c ← c.punct? inside [':']
  (r .suite c).map Prod.snd

/-- A clause after its word, if the word comes next. -/
def readClause? (word : String) (body : Cursor → Option Cursor) (c : Cursor) :
    Option (Option Cursor) := do
  if c.blockEnds then none
  else
    let c := c.statementStart
    let rest ← afterWord? word c.rest
    pure (body (c.at rest))

/-- A clause that may be missing. -/
def readOptionalClause (word : String) (body : Cursor → Option Cursor) (c : Cursor) :
    Option Cursor :=
  (readClause? word body c).getD (some c)

/-- Clauses that may be repeated, and how many there are. -/
def readRepeatedClauses (word : String) (body : Cursor → Option Cursor) :
    Nat → Cursor → Option (Nat × Cursor)
  | 0, _ => none
  | fuel + 1, c =>
    match readClause? word body c with
    | some result => do
      let c ← result
      let (n, c) ← readRepeatedClauses word body fuel c
      pure (n + 1, c)
    | none => some (0, c)

/-- A condition and a body. -/
def readCondition (r : Rule) (c : Cursor) : Option Cursor := do
  let (_, c) ← r (.expression inside true) c
  readSuite r c

/-- A handler of exceptions after its word. -/
def readHandler (r : Rule) (c : Cursor) : Option Cursor := do
  let (cs, _) ← c.look inside
  match cs with
  | ':' :: _ => readSuite r (c.at cs)
  | _ =>
    let cs := match cs with
      | '*' :: rest => rest
      | cs => cs
    let (_, c) ← r (.expression inside true) (c.at cs)
    match c.punct? inside [','] with
    | some c => readCondition r c
    | none => readSuite r c

/-- The cases of a `match` in their block. -/
def readCases (r : Rule) : Nat → Cursor → Option Cursor
  | 0, _ => none
  | fuel + 1, c =>
    if c.blockEnds then some { c with indents := c.indents.tail }
    else do
      let c := c.statementStart
      let rest ← afterWord? "case" c.rest
      let c ← patterns (rest.length + 1) (c.at rest)
      let (cs, _) ← c.look inside
      let c ← match afterWord? "if" cs with
        | some rest => (r (.expression inside true) (c.at rest)).map Prod.snd
        | none => pure c
      let c ← readSuite r c
      readCases r fuel c
where
  /-- Patterns between commas. -/
  patterns : Nat → Cursor → Option Cursor
    | 0, _ => none
    | fuel + 1, c => do
      let (_, c) ← r .casePattern c
      match c.punct? inside [','] with
      | some c =>
        let (cs, _) ← c.look inside
        if cs.head? = some ':' || wordIn ["if"] cs then pure c else patterns fuel (c.at cs)
      | none => pure c

/-- A `match` after its word. -/
def readMatch (r : Rule) (c : Cursor) : Option Cursor := do
  let (_, _, c) ← readList r inside (c.rest.length + 1) c
  let c ← c.punct? inside [':']
  let column ← nextColumn? c.rest
  if c.indent < column then
    readCases r (c.rest.length + 1) { c with indents := column :: c.indents }
  else c.lineEnd?

/-- A definition of a function after its word. -/
def readFunction (r : Rule) (c : Cursor) : Option Cursor := do
  let (_, c) ← c.identifier?
  let c ← match c.punct? inside ['['] with
    | some c => readTypeArguments r c
    | none => pure c
  let c ← c.punct? inside ['(']
  let c ← readParameters r inBrackets true ')' (c.rest.length + 1) c
  let c ← match c.punct? inside ['-', '>'] with
    | some c => (r (.type inside) c).map Prod.snd
    | none => pure c
  readSuite r c

/-- A definition of a class after its word. -/
def readClass (r : Rule) (c : Cursor) : Option Cursor := do
  let (_, c) ← c.identifier?
  let c ← match c.punct? inside ['['] with
    | some c => readTypeArguments r c
    | none => pure c
  let size := c.rest.length + 1
  let c ← match c.punct? inside ['('] with
    | some c =>
      (readItems (readArgument r) (readClauses r (readTarget r) size) ')' true size c).map
        fun (_, _, _, c) => c
    | none => pure c
  readSuite r c

/-- The compound statement that a word begins, none for a word that begins none. -/
def readCompound (r : Rule) (w : List Char) (c : Cursor) : Option (Option Cursor) :=
  let size := c.rest.length + 1
  let otherwise : Cursor → Option Cursor := readOptionalClause "else" (readSuite r)
  match String.ofList w with
  | "if" => some do
    let c ← readCondition r c
    let (_, c) ← readRepeatedClauses "elif" (readCondition r) size c
    otherwise c
  | "for" => some do
    let c ← readTargets (readTarget r) size c
    let (_, _, c) ← readList r inside size c
    let c ← readSuite r c
    otherwise c
  | "while" => some do
    let c ← readCondition r c
    otherwise c
  | "try" => some do
    let c ← readSuite r c
    let (handlers, c) ← readRepeatedClauses "except" (readHandler r) size c
    let c ← if handlers = 0 then pure c else otherwise c
    match readClause? "finally" (readSuite r) c with
    | some result => result
    | none => if handlers = 0 then none else pure c
  | "with" => some do
    let (_, _, c) ← readList r inside size c
    readSuite r c
  | "def" => some (readFunction r c)
  | "class" => some (readClass r c)
  | _ => none

/-- A compound statement at a cursor, none where none begins. -/
def readCompoundAt (r : Rule) (c : Cursor) : Option (Option Cursor) := do
  let (w, rest) ← word? c.rest
  if w = "async".toList then
    let (cs, _) ← (c.at rest).look atEnd
    let (w, rest) ← word? cs
    if ["def", "for", "with"].any fun k => k.toList == w then readCompound r w (c.at rest)
    else none
  else readCompound r w (c.at rest)

/-- The decorators from one on, and the definition that they decorate. -/
def readDecorated (r : Rule) : Nat → Cursor → Option Cursor
  | 0, _ => none
  | fuel + 1, c => do
    let c := c.statementStart
    match c.rest with
    | '@' :: rest =>
      let (_, c) ← r (.expression atEnd true) (c.at rest)
      let c ← c.lineEnd?
      readDecorated r fuel c
    | cs => if wordIn ["def", "class", "async"] cs then (readCompoundAt r c).join else none

/-- A line of simple statements or a compound statement. -/
def readStatement (r : Rule) (c : Cursor) : Option (List Statement × Cursor) :=
  let c := c.statementStart
  let size := c.rest.length + 1
  match c.rest with
  | '@' :: _ => (readDecorated r size c).map ([.other], ·)
  | cs =>
    if startsString cs then readLine r size c
    else match readCompoundAt r c with
    | some result => result.map ([.other], ·)
    | none =>
      match readLine r size c, afterWord? "match" cs with
      | some result, _ => some result
      | none, some rest => (readMatch r (c.at rest)).map ([.other], ·)
      | none, none => none

/-- The statements of a block up to its end. -/
def readBlock (r : Rule) : Nat → Cursor → Option Cursor
  | 0, _ => none
  | fuel + 1, c =>
    if c.blockEnds then some { c with indents := c.indents.tail }
    else do
      let (_, c) ← readStatement r c
      readBlock r fuel c

/-- The body after a colon: a block of lines, no lines, or a line of simple statements. -/
def readBody (r : Rule) (c : Cursor) : Option (Expr × Cursor) :=
  match nextColumn? c.rest with
  | some column =>
    if c.indent < column then
      (readBlock r (c.rest.length + 1) { c with indents := column :: c.indents }).map (.other, ·)
    else (c.lineEnd?).map (.other, ·)
  | none => (readLine r (c.rest.length + 1) c).map fun (_, c) => (.other, c)

/-- The grammar with a given amount of fuel. -/
def rule : Nat → Rule
  | 0, _, _ => none
  | fuel + 1, goal, c =>
    let r : Rule := rule fuel
    match goal with
    | .expression follow conditional => readExpression r follow conditional c
    | .operand follow => readOperand r follow c
    | .type follow => readType r follow c
    | .field => readField r c
    | .casePattern => readCasePattern r c
    | .suite => readBody r c

/-- The statements up to the end of the text. -/
def readStatements (r : Rule) : Nat → Cursor → Option (List Statement)
  | 0, _ => none
  | fuel + 1, c =>
    match skipBlanks 0 true c.rest with
    | some ([], _) => some []
    | _ => do
      let (statements, c) ← readStatement r c
      let others ← readStatements r fuel c
      pure (statements ++ others)

end Toolshed.Source.Python
