import Toolshed.Source.JavaScript.TypeExpression

/-!
# Reading JavaScript statements

Statements, declarations, imports and exports.
-/

namespace Toolshed.Source.JavaScript

/-- A statement.  Of declarations the names with their initial values are kept. -/
inductive Statement where
  | bindings (entries : List (Expr × Expr))
  | expression (e : Expr)
  | other
deriving Inhabited

/-- A statement without bindings. -/
def silent (rest : Option (List Char)) : Option (Statement × List Char) :=
  rest.map (.other, ·)

/-! ### Variables -/

/-- A declared name with its type and initial value. -/
def readDeclarator (r : Rule) (cs : List Char) :
    Option (Option (Expr × Expr) × List Char) := do
  let (target, cs) ← readBinding r (skip cs)
  match look (some .plain) cs with
  | '!' :: rest =>
    let cs ← passAnnotation r (some .plain) rest
    pure (none, cs)
  | _ =>
    let cs ← passOptionalAnnotation r (some .plain) cs
    match if endsHere .plain cs then none else equals? cs with
    | some rest =>
      let (value, cs) ← r (.expression atEnd) (skip rest)
      pure (some (target, value), cs)
    | none => pure (none, cs)

/-- Declared names between commas. -/
def readDeclarators (r : Rule) : Nat → List Char → Option (List (Expr × Expr) × List Char)
  | 0, _ => none
  | fuel + 1, cs => do
    let (entry, cs) ← readDeclarator r cs
    match look (some .expression) cs with
    | ',' :: rest =>
      let (others, cs) ← readDeclarators r fuel rest
      pure (entry.toList ++ others, cs)
    | _ => pure (entry.toList, cs)

/-- A declaration of variables after its word. -/
def readVariables (r : Rule) (cs : List Char) : Option (Statement × List Char) := do
  let (entries, cs) ← readDeclarators r (cs.length + 1) cs
  let cs ← semicolon? .expression cs
  pure (.bindings entries, cs)

/-! ### Declarations -/

/-- A declaration of a function after its word, with a body or without. -/
def passFunctionDeclaration (r : Rule) (cs : List Char) : Option (List Char) := do
  let cs := match skip cs with
    | '*' :: rest => rest
    | _ => cs
  let (_, cs) ← word? (skip cs)
  let cs ← passSignature r (some ⟨false, true⟩) cs
  match skip cs with
  | '\x7b' :: _ => passBlock r cs
  | _ => semicolon? ⟨false, true⟩ cs

/-- Words between points. -/
def passDotted : Nat → Passes
  | 0, _ => none
  | fuel + 1, cs => do
    let (_, cs) ← word? (skip cs)
    match skip cs with
    | '.' :: rest => passDotted fuel rest
    | _ => pure cs

/-- A module after its word: its name and its body, which may be missing. -/
def passModule (r : Rule) (cs : List Char) : Option (List Char) := do
  let cs ← match string? (skip cs) with
    | some (_, rest) => some rest
    | none => passDotted (cs.length + 1) cs
  match skip cs with
  | '\x7b' :: _ => passBlock r cs
  | _ => pure cs

/-- A member of an enumeration. -/
def passEnumMember (r : Rule) (cs : List Char) : Option (List Char) := do
  let (_, cs) ← readKey r cs
  match equals? cs with
  | some rest => r.pass (.expression inBrackets) (skip rest)
  | none => pure cs

/-- An enumeration after its word. -/
def passEnum (r : Rule) (cs : List Char) : Option (List Char) := do
  let (_, cs) ← word? (skip cs)
  let cs ← mark? "\x7b" cs
  match skip cs with
  | '\x7d' :: rest => pure rest
  | _ => passList (passEnumMember r) '\x7d' (cs.length + 1) cs

/-- An interface after its word. -/
def passInterface (r : Rule) (cs : List Char) : Option (List Char) := do
  let (_, cs) ← word? (skip cs)
  let cs ← passTypeParameters r cs
  let cs ← match afterWord? "extends" (skip cs) with
    | some rest => passSequence (r.pass (.type none)) (rest.length + 1) rest
    | none => pure cs
  passObjectType r cs

/-- A type alias after its word. -/
def passAlias (r : Rule) (cs : List Char) : Option (List Char) := do
  let (_, cs) ← word? (skip cs)
  let cs ← passTypeParameters r cs
  let rest ← equals? cs
  let cs ← r.pass (.type (some .plain)) (skip rest)
  semicolon? .plain cs

/-- An import with an equals sign after its word: an alias or a required module. -/
def passImportAlias (cs : List Char) : Option (List Char) := do
  let (_, cs) ← word? (skip cs)
  let rest ← equals? cs
  let required : Option (List Char) := do
    let rest ← afterWord? "require" (skip rest)
    let rest ← mark? "(" rest
    let (_, rest) ← string? (skip rest)
    mark? ")" rest
  let cs ← required.or (passDotted (rest.length + 1) rest)
  semicolon? .plain cs

/-- A declaration that a word begins, none where none begins.  Words that may be names begin a
declaration only if the line goes on. -/
def readDeclaration (r : Rule) (cs : List Char) : Option (Option (Statement × List Char)) := do
  let (w, rest) ← word? cs
  let next := look (some .expression) rest
  let soft (result : Option (List Char)) : Option (Option (Statement × List Char)) :=
    result.map fun rest => some (.other, rest)
  match String.ofList w with
  | "var" => some (readVariables r rest)
  | "let" =>
    if (word? next).isSome && !wordIn ["in", "of", "instanceof"] next || next.head? = some '[' ||
        next.head? = some '\x7b' then
      some (readVariables r rest)
    else none
  | "const" =>
    match afterWord? "enum" (skip rest) with
    | some rest => some (silent (passEnum r rest))
    | none => some (readVariables r rest)
  | "function" => soft (passFunctionDeclaration r rest)
  | "async" => do
    let rest ← afterWord? "function" next
    soft (passFunctionDeclaration r rest)
  | "class" => soft (passClass r true rest)
  | "abstract" => do
    let rest ← afterWord? "class" (skip rest)
    some (silent (passClass r true rest))
  | "interface" => some (silent (passInterface r rest))
  | "enum" => some (silent (passEnum r rest))
  | "type" => if next.isEmpty then none else soft (passAlias r rest)
  | "namespace" => if next.isEmpty then none else soft (passModule r rest)
  | "module" => if next.isEmpty then none else soft (passModule r rest)
  | "declare" =>
    if next.isEmpty then none
    else
      let global : Option (List Char) := do
        let rest ← afterWord? "global" next
        passBlock r rest
      match global with
      | some rest => some (some (.other, rest))
      | none => if (word? next).isSome then soft (r.pass .statement next) else none
  | _ => none

/-! ### Imports and exports -/

/-- The text after `from` and the name of a module. -/
def passSource (cs : List Char) : Option (List Char) := do
  let rest ← afterWord? "from" (skip cs)
  let (_, rest) ← string? (skip rest)
  pure rest

/-- A word or a string. -/
def passName (cs : List Char) : Option (List Char) :=
  match string? cs with
  | some (_, rest) => some rest
  | none => (word? cs).map Prod.snd

/-- A name in braces, with an optional mark that it is a type and an optional other name. -/
def passSpecifier (cs : List Char) : Option (List Char) := do
  let plain (cs : List Char) : Option (List Char) := do
    let cs ← passName cs
    match afterWord? "as" (skip cs) with
    | some rest => passName (skip rest)
    | none => pure cs
  let bounded (cs : List Char) : Option (List Char) := do
    let rest ← plain cs
    match skip rest with
    | ',' :: _ => pure rest
    | '\x7d' :: _ => pure rest
    | _ => none
  let marked : Option (List Char) := do
    let (w, rest) ← word? cs
    if w = "type".toList || w = "typeof".toList then bounded (skip rest) else none
  (bounded cs).or marked

/-- Names in braces. -/
def passSpecifiers (cs : List Char) : Option (List Char) := do
  let cs ← mark? "\x7b" cs
  match skip cs with
  | '\x7d' :: rest => pure rest
  | ',' :: rest => mark? "\x7d" rest
  | _ => passList passSpecifier '\x7d' (cs.length + 1) cs

/-- All names of a module under one name. -/
def passNamespaceImport (cs : List Char) : Option (List Char) := do
  let cs ← mark? "*" cs
  let rest ← afterWord? "as" (skip cs)
  (word? (skip rest)).map Prod.snd

/-- What an import takes from its module. -/
def passImportClause (cs : List Char) : Option (List Char) :=
  match skip cs with
  | '*' :: _ => passNamespaceImport cs
  | '\x7b' :: _ => passSpecifiers cs
  | cs => do
    let (_, cs) ← word? cs
    match skip cs with
    | ',' :: rest =>
      match skip rest with
      | '*' :: _ => passNamespaceImport rest
      | _ => passSpecifiers rest
    | _ => pure cs

/-- An import after its word. -/
def passImport (r : Rule) (cs : List Char) : Option (List Char) := do
  let clause (cs : List Char) : Option (List Char) := do
    let cs ← passImportClause cs
    passSource cs
  let marked : Option (List Char) := do
    let (w, rest) ← word? (skip cs)
    if w = "type".toList || w = "typeof".toList then clause rest else none
  let bare : Option (List Char) := (string? (skip cs)).map Prod.snd
  match ((clause cs).or marked).or bare with
  | some rest =>
    let rest := (do
      let after ← (afterWord? "with" (look (some .plain) rest)).or
        (afterWord? "assert" (look (some .plain) rest))
      let after ← mark? "\x7b" after
      let (_, after) ← readSparse (readMember r) '\x7d' (after.length + 1) after
      pure after).getD rest
    semicolon? .plain rest
  | none =>
    let marked : Option (List Char) := do
      let rest ← afterWord? "type" (skip cs)
      passImportAlias rest
    (passImportAlias cs).or marked

/-- An export after its word; the bindings are those of the exported declaration. -/
def readExport (r : Rule) (cs : List Char) : Option (Statement × List Char) :=
  let next := skip cs
  match next with
  | '*' :: rest => silent do
    let rest := ((passNamespaceImport next).getD rest)
    semicolon? .plain (← passSource rest)
  | '\x7b' :: _ => silent do
    let rest ← passSpecifiers next
    semicolon? .plain ((passSource rest).getD rest)
  | '=' :: rest => silent do
    let rest ← r.pass (.expression atEnd) (skip rest)
    semicolon? .expression rest
  | '@' :: _ => silent (r.pass .statement next)
  | _ =>
    match afterWord? "default" next with
    | some rest =>
      match (readDeclaration r (skip rest)).join with
      | some result => some result
      | none =>
        match skip rest with
        | '@' :: _ => silent (r.pass .statement (skip rest))
        | rest => silent do
          let rest ← r.pass (.expression atEnd) rest
          semicolon? .expression rest
    | none =>
      let types : Option (List Char) := do
        let rest ← afterWord? "type" next
        let rest ← passSpecifiers rest
        semicolon? .plain ((passSource rest).getD rest)
      let scope : Option (List Char) := do
        let rest ← afterWord? "as" next
        let rest ← afterWord? "namespace" (skip rest)
        let (_, rest) ← word? (skip rest)
        semicolon? .plain rest
      let renamed : Option (List Char) := do
        let rest ← afterWord? "import" next
        passImportAlias rest
      match (types.or scope).or renamed with
      | some rest => silent (some rest)
      | none => (readDeclaration r next).join

/-! ### Statements -/

/-- An expression in parentheses. -/
def passCondition (r : Rule) (cs : List Char) : Option (List Char) := do
  let cs ← mark? "(" cs
  (readParenthesized r cs).map Prod.snd

/-- An expression statement. -/
def readExpressionStatement (r : Rule) (cs : List Char) : Option (Statement × List Char) := do
  let (e, cs) ← readExpressions r atEnd cs
  let cs ← semicolon? .expression cs
  pure (.expression e, cs)

/-- Expressions up to a semicolon, or none. -/
def passClause (r : Rule) (cs : List Char) : Option (List Char) :=
  match skip cs with
  | ';' :: rest => some rest
  | cs => do
    let (_, cs) ← readExpressions r inBrackets cs
    mark? ";" cs

/-- A `for` after its word. -/
def passFor (r : Rule) (cs : List Char) : Option (List Char) := do
  let cs := (afterWord? "await" (skip cs)).getD cs
  let cs ← mark? "(" cs
  let iterate (cs : List Char) : Option (List Char) := do
    let rest ← (afterWord? "of" (skip cs)).or (afterWord? "in" (skip cs))
    let (_, cs) ← readExpressions r inBrackets rest
    mark? ")" cs
  let declared : Option (List Char) := do
    let (w, rest) ← word? (skip cs)
    if ["var", "let", "const"].any fun k => k.toList == w then
      let (_, cs) ← readBinding r (skip rest)
      let cs ← passOptionalAnnotation r none cs
      match equals? cs with
      | some rest => iterate (← r.pass (.operand inBrackets) (skip rest))
      | none => iterate cs
    else none
  let assigned : Option (List Char) := do
    let cs ← (r.pass .pattern (skip cs)).or (passCondition r cs)
    iterate cs
  let counted : Option (List Char) := do
    let cs ← match (readDeclaration r (skip cs)).join with
      | some (.bindings _, rest) => pure rest
      | _ => passClause r cs
    let cs ← passClause r cs
    match skip cs with
    | ')' :: rest => pure rest
    | cs =>
      let (_, cs) ← readExpressions r inBrackets cs
      mark? ")" cs
  let cs ← (declared.or assigned).or counted
  r.pass .statement cs

/-- The cases of a `switch` and the closing brace. -/
def passCases (r : Rule) : Nat → Passes
  | 0, _ => none
  | fuel + 1, cs =>
    let cs := skipMarkup cs
    match cs with
    | '\x7d' :: rest => some rest
    | _ => do
      let cs ← match afterWord? "case" cs with
        | some rest =>
          let (_, cs) ← readExpressions r inBrackets rest
          mark? ":" cs
        | none =>
          let rest ← afterWord? "default" cs
          mark? ":" rest
      passCases r fuel (← body (cs.length + 1) cs)
where
  /-- The statements of a case. -/
  body : Nat → Passes
    | 0, _ => none
    | fuel + 1, cs =>
      match skipMarkup cs with
      | [] => none
      | '\x7d' :: rest => some ('\x7d' :: rest)
      | cs =>
        let isLabel (word : String) : Bool :=
          match afterWord? word cs with
          | some rest => word == "case" || (skip rest).head? = some ':'
          | none => false
        if isLabel "case" || isLabel "default" then some cs
        else do body fuel (← r.pass .statement cs)

/-- What follows the block of a `try`. -/
def passHandlers (r : Rule) (cs : List Char) : Option (List Char) := do
  let cs ← match afterWord? "catch" (skip cs) with
    | some rest =>
      match skip rest with
      | '(' :: rest =>
        let (_, cs) ← readBinding r (skip rest)
        let cs ← passOptionalAnnotation r none cs
        let cs ← mark? ")" cs
        passBlock r cs
      | _ => passBlock r rest
    | none => pure cs
  match afterWord? "finally" (skip cs) with
  | some rest => passBlock r rest
  | none => pure cs

/-- An optional label and the end of the statement. -/
def passJump (cs : List Char) : Option (List Char) :=
  match semicolon? .plain cs with
  | some rest => some rest
  | none => do
    let (_, cs) ← word? (skip cs)
    semicolon? .plain cs

/-- The statement that a keyword begins, none for a word that begins none. -/
def readKeyword (r : Rule) (w rest : List Char) : Option (Option (List Char)) :=
  match String.ofList w with
  | "if" => some do
    let cs ← passCondition r rest
    let cs ← r.pass .statement (skip cs)
    match afterWord? "else" (skip cs) with
    | some rest => r.pass .statement (skip rest)
    | none => pure cs
  | "for" => some (passFor r rest)
  | "while" => some do
    let cs ← passCondition r rest
    r.pass .statement (skip cs)
  | "do" => some do
    let cs ← r.pass .statement (skip rest)
    let cs ← afterWord? "while" (skip cs)
    let cs ← passCondition r cs
    pure ((semicolon? .plain cs).getD cs)
  | "try" => some do
    let cs ← passBlock r rest
    passHandlers r cs
  | "switch" => some do
    let cs ← passCondition r rest
    let cs ← mark? "\x7b" cs
    passCases r (cs.length + 1) cs
  | "with" => some do
    let cs ← passCondition r rest
    r.pass .statement (skip cs)
  | "break" => some (passJump rest)
  | "continue" => some (passJump rest)
  | "debugger" => some (semicolon? .plain rest)
  | "return" => some (
    match semicolon? .expression rest with
    | some rest => some rest
    | none => do
      let (_, cs) ← readExpressions r atEnd rest
      semicolon? .expression cs)
  | "throw" => some do
    let (_, cs) ← readExpressions r atEnd rest
    semicolon? .expression cs
  | _ => none

/-- A statement. -/
def readStatement (r : Rule) (cs : List Char) : Option (Statement × List Char) :=
  let cs := skipMarkup cs
  match cs with
  | [] => none
  | ';' :: rest => some (.other, rest)
  | '\x7b' :: _ =>
    match passBlock r cs with
    | some rest => some (.other, rest)
    | none => readExpressionStatement r cs
  | '@' :: _ =>
    match passDecorators r (cs.length + 1) cs with
    | some after =>
      let after := skip after
      if wordIn ["export", "class", "abstract"] after then
        (r.pass .statement after).map (.other, ·)
      else readExpressionStatement r cs
    | none => none
  | _ =>
    match word? cs with
    | none => readExpressionStatement r cs
    | some (w, rest) =>
      match readKeyword r w rest with
      | some result => silent result
      | none =>
        let label : Option (List Char) := do
          if endsHere .expression rest then none
          else
            let rest ← mark? ":" rest
            r.pass .statement rest
        match label with
        | some rest => some (.other, rest)
        | none =>
          if w = "import".toList && (skip rest).headD ' ' ∉ ['(', '.'] then
            silent (passImport r rest)
          else if w = "export".toList && !endsHere .expression rest then readExport r rest
          else match readDeclaration r cs with
            | some result => result
            | none => readExpressionStatement r cs

/-- The grammar with a given amount of fuel. -/
def rule : Nat → Rule
  | 0, _, _ => none
  | fuel + 1, goal, cs =>
    let r : Rule := rule fuel
    match goal with
    | .expression place => readExpression r place cs
    | .operand place => readOperand r place cs
    | .chain place calls => readChain r place calls cs
    | .pattern => readPattern r cs
    | .type ending => (passType r ending cs).map (.other, ·)
    | .statement => (readStatement r cs).map fun (_, rest) => (.other, rest)

/-- The statements up to the end of the text. -/
def readStatements (r : Rule) : Nat → List Char → Option (List Statement)
  | 0, _ => none
  | fuel + 1, cs =>
    match skipMarkup cs with
    | [] => some []
    | cs => do
      let (s, cs) ← readStatement r cs
      let others ← readStatements r fuel cs
      pure (s :: others)

end Toolshed.Source.JavaScript
