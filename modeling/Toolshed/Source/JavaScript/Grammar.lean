import Toolshed.Source.JavaScript.Lexeme
import Toolshed.Source.JavaScript.Tree

/-!
# Reading JavaScript expressions

The grammar of expressions, patterns, functions and classes, with type annotations.  A word is a
keyword only where the keyword may stand.  Readers that meet themselves again do so through a
`Rule`, which stands for the same grammar with less fuel.
-/

namespace Toolshed.Source.JavaScript

/-- Where an expression stands: how a statement that ends with it may end, if one may, and whether
an arrow function in it may have the type of its result written before the arrow. -/
structure Place where
  ending : Option Ending
  resultTypes : Bool
deriving DecidableEq, Inhabited

/-- Between brackets. -/
def inBrackets : Place := ⟨none, true⟩

/-- Where a statement may end. -/
def atEnd : Place := ⟨some .expression, true⟩

/-- What is read through a rule. -/
inductive Goal where
  /-- An expression without commas. -/
  | expression (place : Place)
  /-- An operand with its unary operators, or an assignment to it. -/
  | operand (place : Place)
  /-- A primary expression with its trailers, calls among them or not. -/
  | chain (place : Place) (calls : Bool)
  /-- A pattern that is assigned to. -/
  | pattern
  /-- A type. -/
  | type (ending : Option Ending)
  /-- A statement. -/
  | statement

/-- A reader of an expression. -/
abbrev Reads := List Char → Option (Expr × List Char)

/-- A reader for every goal. -/
abbrev Rule := Goal → Reads

/-- The rest of a text after something that has no value. -/
abbrev Passes := List Char → Option (List Char)

/-- The text after an expression between brackets. -/
def Rule.pass (r : Rule) (goal : Goal) : Passes :=
  fun cs => (r goal cs).map Prod.snd

/-- Items between commas up to a closing mark; items may be missing. -/
def readSparse (item : Reads) (closing : Char) : Nat → List Char → Option (List Expr × List Char)
  | 0, _ => none
  | fuel + 1, cs => do
    match skip cs with
    | [] => none
    | c :: rest =>
      if c = closing then pure ([], rest)
      else if c = ',' then readSparse item closing fuel rest
      else
        let (e, cs) ← item (c :: rest)
        match skip cs with
        | ',' :: rest =>
          let (others, cs) ← readSparse item closing fuel rest
          pure (e :: others, cs)
        | d :: rest => if d = closing then pure ([e], rest) else none
        | [] => none

/-- Phrases between commas, at least one; the last one may be followed by a comma where the
closing mark comes next. -/
def passList (item : Passes) (closing : Char) : Nat → Passes
  | 0, _ => none
  | fuel + 1, cs => do
    let cs ← item (skip cs)
    match skip cs with
    | ',' :: rest =>
      match skip rest with
      | d :: after => if d = closing then pure after else passList item closing fuel (d :: after)
      | [] => none
    | d :: rest => if d = closing then pure rest else none
    | [] => none

/-- Phrases between commas, at least one, with nothing that closes them. -/
def passSequence (item : Passes) : Nat → Passes
  | 0, _ => none
  | fuel + 1, cs => do
    let cs ← item (skip cs)
    match skip cs with
    | ',' :: rest => passSequence item fuel rest
    | _ => pure cs

/-- Expressions between commas. -/
def readExpressions (r : Rule) (place : Place) (cs : List Char) : Option (Expr × List Char) := do
  let (e, cs) ← r (.expression place) (skip cs)
  match look place.ending cs with
  | ',' :: rest =>
    let cs ← others (rest.length + 1) rest
    pure (.other, cs)
  | _ => pure (e, cs)
where
  /-- The expressions after the first comma. -/
  others : Nat → Passes
    | 0, _ => none
    | fuel + 1, cs => do
      let (_, cs) ← r (.expression place) (skip cs)
      match look place.ending cs with
      | ',' :: rest => others fuel rest
      | _ => pure cs

/-- A type annotation with its colon. -/
def passAnnotation (r : Rule) (ending : Option Ending) (cs : List Char) : Option (List Char) := do
  let cs ← mark? ":" cs
  r.pass (.type ending) (skip cs)

/-- A type annotation, if one follows. -/
def passOptionalAnnotation (r : Rule) (ending : Option Ending) (cs : List Char) :
    Option (List Char) :=
  match look ending cs with
  | ':' :: rest => r.pass (.type ending) (skip rest)
  | _ => some cs

/-- Types between angle brackets, the opening one included. -/
def passTypeArguments (r : Rule) (cs : List Char) : Option (List Char) := do
  let cs ← mark? "<" cs
  passList (r.pass (.type none)) '>' (cs.length + 1) cs

/-- A type parameter with its bound and default. -/
def passTypeParameter (r : Rule) (cs : List Char) : Option (List Char) := do
  let (w, rest) ← word? cs
  let (_, cs) ←
    if w = "const".toList then ((word? (skip rest)).or (some (w, rest))) else some (w, rest)
  let cs ← match skip cs with
    | ':' :: rest => r.pass (.type none) (skip rest)
    | cs' =>
      match afterWord? "extends" cs' with
      | some rest => r.pass (.type none) (skip rest)
      | none => some cs
  match equals? cs with
  | some rest => r.pass (.type none) (skip rest)
  | none => pure cs

/-- Type parameters between angle brackets, if there are any. -/
def passTypeParameters (r : Rule) (cs : List Char) : Option (List Char) :=
  match skip cs with
  | '<' :: rest => passList (passTypeParameter r) '>' (rest.length + 1) rest
  | _ => some cs

/-! ### Keys and templates -/

/-- The name of a member. -/
def readKey (r : Rule) (cs : List Char) : Option (Key × List Char) :=
  match cs with
  | '[' :: rest => do
    let cs ← r.pass (.expression inBrackets) (skip rest)
    let cs ← mark? "]" cs
    pure (.other, cs)
  | '#' :: _ => (privateName? cs).map (.other, ·)
  | _ =>
    match string? cs with
    | some (body, rest) => some (.string body, rest)
    | none =>
      match number? cs with
      | some (text, rest) => some (.plain text, rest)
      | none => (word? cs).map fun (w, rest) => (.plain w, rest)

/-- The name of a member starts here. -/
def keyStarts (cs : List Char) : Bool :=
  match cs with
  | [] => false
  | c :: _ => ['[', '#', '"', '\''].contains c || c.isDigit || (word? cs).isSome

/-- The text after words of a list, each of which is followed by something that a name may start
with, and after the star of a generator. -/
def afterModifiers (words : List String) : Nat → List Char → List Char
  | 0, cs => cs
  | fuel + 1, cs =>
    match word? cs with
    | some (w, rest) =>
      let after := skip rest
      if (words.any fun word => word.toList == w) &&
          (keyStarts after || after.head? = some '*') then
        afterModifiers words fuel after
      else cs
    | none =>
      match cs with
      | '*' :: rest => skip rest
      | _ => cs

/-- The rest of a template after its opening mark: its body, and whether anything is filled in. -/
def readTemplate (r : Rule) : Nat → List Char → Option (List Char × Bool × List Char)
  | 0, _ => none
  | _, [] => none
  | fuel + 1, '$' :: '\x7b' :: rest => do
    let (_, cs) ← readExpressions r inBrackets rest
    let cs ← mark? "\x7d" cs
    let (body, _, cs) ← readTemplate r fuel cs
    pure (body, true, cs)
  | fuel + 1, '\\' :: rest => do
    let n ← escapeLength? rest
    let (body, filled, cs) ← readTemplate r fuel (rest.drop n)
    pure ('\\' :: rest.take n ++ body, filled, cs)
  | fuel + 1, c :: rest =>
    if c.toNat = 0x60 then some ([], false, rest)
    else do
      let (body, filled, cs) ← readTemplate r fuel rest
      pure (c :: body, filled, cs)

/-! ### Patterns and parameters -/

/-- An element of a pattern with its default. -/
def passDefaulted (r : Rule) (cs : List Char) : Option (List Char) := do
  let cs ← r.pass .pattern cs
  match equals? cs with
  | some rest => r.pass (.expression inBrackets) (skip rest)
  | none => pure cs

/-- A member of an object pattern. -/
def readPatternMember (r : Rule) (cs : List Char) : Option (Expr × List Char) :=
  match cs with
  | '.' :: '.' :: '.' :: rest => (r.pass (.chain inBrackets true) (skip rest)).map (.other, ·)
  | _ => do
    let (_, rest) ← readKey r cs
    match skip rest with
    | ':' :: rest => (passDefaulted r (skip rest)).map (.other, ·)
    | _ =>
      let (_, rest) ← word? cs
      match equals? rest with
      | some rest => (r.pass (.expression inBrackets) (skip rest)).map (.other, ·)
      | none => pure (.other, rest)

/-- A pattern: a name, a place, or a bracketed pattern. -/
def readPattern (r : Rule) (cs : List Char) : Option (Expr × List Char) :=
  let size := cs.length + 1
  match cs with
  | '.' :: '.' :: '.' :: rest => (r.pass .pattern (skip rest)).map (.other, ·)
  | '[' :: rest =>
    (readSparse (fun cs => (passDefaulted r cs).map (.other, ·)) ']' size rest).map
      fun (_, cs) => (.other, cs)
  | '\x7b' :: rest =>
    (readSparse (readPatternMember r) '\x7d' size rest).map fun (_, cs) => (.other, cs)
  | _ => do
    let (e, cs) ← r (.chain inBrackets true) cs
    if e.isAssignable then pure (e, cs) else none

/-- A pattern of a declaration: a word or a bracketed pattern. -/
def readBinding (r : Rule) (cs : List Char) : Option (Expr × List Char) :=
  match cs with
  | '[' :: _ => r .pattern cs
  | '\x7b' :: _ => r .pattern cs
  | _ => (word? cs).map fun (w, rest) => (.name w, rest)

/-- A decorator after its sign: a name with members and calls, or an expression in parentheses. -/
def passDecorator (r : Rule) (cs : List Char) : Option (List Char) :=
  r.pass (.chain inBrackets true) (skip cs)

/-- The text after decorators. -/
def passDecorators (r : Rule) : Nat → Passes
  | 0, _ => none
  | fuel + 1, cs =>
    match skip cs with
    | '@' :: rest => do passDecorators r fuel (← passDecorator r rest)
    | _ => some cs

/-- A parameter. -/
def passParameter (r : Rule) (cs : List Char) : Option (List Char) := do
  let cs ← passDecorators r (cs.length + 1) cs
  let cs := modifiers 4 (skip cs)
  let cs ← match cs with
    | '.' :: '.' :: '.' :: rest => (readBinding r (skip rest)).map Prod.snd
    | _ => (readBinding r cs).map Prod.snd
  let cs := match skip cs with
    | '?' :: rest => rest
    | _ => cs
  let cs ← passOptionalAnnotation r none cs
  match equals? cs with
  | some rest => r.pass (.expression inBrackets) (skip rest)
  | none => pure cs
where
  /-- The text after the modifiers of a parameter. -/
  modifiers : Nat → List Char → List Char
    | 0, cs => cs
    | fuel + 1, cs =>
      match word? cs with
      | some (w, rest) =>
        let after := skip rest
        let isModifier := ["public", "private", "protected", "override", "readonly"].any
          fun word => word.toList == w
        let named := (word? after).isSome || after.head? = some '[' || after.head? = some '\x7b'
        if isModifier && named then modifiers fuel after else cs
      | none => cs

/-- Parameters in parentheses. -/
def passParameters (r : Rule) (cs : List Char) : Option (List Char) := do
  let cs ← mark? "(" cs
  match skip cs with
  | ')' :: rest => pure rest
  | cs => passList (passParameter r) ')' (cs.length + 1) cs

/-- The type of a result: a type, a predicate on a parameter, or an assertion. -/
def passResult (r : Rule) (ending : Option Ending) (cs : List Char) : Option (List Char) :=
  let cs := skip cs
  let predicate (cs : List Char) : Option (List Char) := do
    let (_, rest) ← word? cs
    let rest ← afterWord? "is" (look ending rest)
    r.pass (.type ending) (skip rest)
  let assertion : Option (List Char) := do
    let rest ← afterWord? "asserts" cs
    let after := look ending rest
    (predicate after).or ((word? after).map Prod.snd)
  match (predicate cs).or assertion with
  | some rest => some rest
  | none => r.pass (.type ending) cs

/-- The parameters of a function with what may stand before and after them. -/
def passSignature (r : Rule) (ending : Option Ending) (cs : List Char) : Option (List Char) := do
  let cs ← passTypeParameters r cs
  let cs ← passParameters r cs
  match look ending cs with
  | ':' :: rest => passResult r ending rest
  | _ => pure cs

/-- The statements of a block and its closing brace. -/
def passStatements (r : Rule) : Nat → Passes
  | 0, _ => none
  | fuel + 1, cs =>
    match skipMarkup cs with
    | [] => none
    | '\x7d' :: rest => some rest
    | cs => do passStatements r fuel (← r.pass .statement cs)

/-- A block of statements. -/
def passBlock (r : Rule) (cs : List Char) : Option (List Char) := do
  let cs ← mark? "\x7b" cs
  passStatements r (cs.length + 1) cs

/-! ### Classes -/

/-- An index signature: a parameter or a mapping in brackets, and a type. -/
def passIndexSignature (r : Rule) (ending : Option Ending) (cs : List Char) :
    Option (List Char) := do
  let cs := match cs with
    | '-' :: rest => skip rest
    | '+' :: rest => skip rest
    | cs => cs
  let cs := match afterWord? "readonly" cs with
    | some rest => skip rest
    | none => cs
  let cs ← mark? "[" cs
  let (_, cs) ← word? (skip cs)
  let cs ← match skip cs with
    | ':' :: rest => r.pass (.type none) (skip rest)
    | cs => do
      let rest ← afterWord? "in" cs
      let cs ← r.pass (.type none) (skip rest)
      match afterWord? "as" (skip cs) with
      | some rest => r.pass (.type none) (skip rest)
      | none => pure cs
  let cs ← mark? "]" cs
  let cs := match look ending cs with
    | '-' :: '?' :: ':' :: rest => ':' :: rest
    | '+' :: '?' :: ':' :: rest => ':' :: rest
    | '?' :: ':' :: rest => ':' :: rest
    | after => if after.isEmpty then cs else after
  passAnnotation r ending cs

/-- The words that may stand before the name of a member of a class. -/
def memberModifiers : List String :=
  ["public", "private", "protected", "static", "abstract", "override", "readonly", "declare",
    "async", "accessor", "get", "set"]

/-- The end of a member of a class: a comma, or the end of a statement. -/
def passMemberEnd (e : Ending) (cs : List Char) : Option (List Char) :=
  match semicolon? e cs with
  | some rest => some rest
  | none => mark? "," cs

/-- A member of a class. -/
def passMember (r : Rule) (cs : List Char) : Option (List Char) := do
  let cs ← passDecorators r (cs.length + 1) cs
  let cs := skip cs
  let staticBlock : Option (List Char) := do
    let rest ← afterWord? "static" cs
    passBlock r rest
  let index : Option (List Char) := do
    let cs := match afterWord? "static" cs with
      | some rest => skip rest
      | none => cs
    let rest ← passIndexSignature r (some .plain) cs
    passMemberEnd .plain rest
  match staticBlock.or index with
  | some rest => pure rest
  | none =>
    let cs := afterModifiers memberModifiers 8 cs
    let (_, cs) ← readKey r cs
    let cs := match skip cs with
      | '?' :: rest => rest
      | '!' :: rest => rest
      | _ => cs
    match look (some .plain) cs with
    | '(' :: _ => method cs
    | '<' :: _ => method cs
    | _ =>
      let cs ← passOptionalAnnotation r (some .plain) cs
      match if endsHere .plain cs then none else equals? cs with
      | some rest =>
        let cs ← r.pass (.expression atEnd) (skip rest)
        passMemberEnd .expression cs
      | none => passMemberEnd .plain cs
where
  /-- A method from its parameters on. -/
  method (cs : List Char) : Option (List Char) := do
    let cs ← passSignature r (some ⟨false, true⟩) cs
    match skip cs with
    | '\x7b' :: _ => passBlock r cs
    | _ => passMemberEnd ⟨false, true⟩ cs

/-- The members of a class and its closing brace. -/
def passMembers (r : Rule) : Nat → Passes
  | 0, _ => none
  | fuel + 1, cs =>
    match skip cs with
    | [] => none
    | '\x7d' :: rest => some rest
    | ';' :: rest => passMembers r fuel rest
    | cs => do passMembers r fuel (← passMember r cs)

/-- What a class extends and implements. -/
def passHeritage (r : Rule) (cs : List Char) : Option (List Char) := do
  let cs ← match afterWord? "extends" (skip cs) with
    | some rest => passSequence base (rest.length + 1) rest
    | none => pure cs
  match afterWord? "implements" (skip cs) with
  | some rest => passSequence (r.pass (.type none)) (rest.length + 1) rest
  | none => pure cs
where
  /-- A class that is extended, with its type arguments. -/
  base (cs : List Char) : Option (List Char) := do
    let cs ← r.pass (.chain inBrackets true) cs
    match skip cs with
    | '<' :: _ => passTypeArguments r cs
    | _ => pure cs

/-- A class after its word, with or without a name. -/
def passClass (r : Rule) (named : Bool) (cs : List Char) : Option (List Char) := do
  let after := skip cs
  let cs ← if !named && wordIn ["extends", "implements"] after then pure cs
    else match word? after with
      | some (_, rest) => some rest
      | none => if named then none else some cs
  let cs ← passTypeParameters r cs
  let cs ← passHeritage r cs
  let cs ← mark? "\x7b" cs
  passMembers r (cs.length + 1) cs

/-! ### Primary expressions -/

/-- An expression or a spread between commas. -/
def readSpreadable (r : Rule) (cs : List Char) : Option (Expr × List Char) :=
  match cs with
  | '.' :: '.' :: '.' :: rest => (r.pass (.expression inBrackets) (skip rest)).map (.other, ·)
  | _ => r (.expression inBrackets) cs

/-- A member of an object: a spread, a method, a pair or a name. -/
def readMember (r : Rule) (cs : List Char) : Option (Expr × List Char) :=
  match cs with
  | '.' :: '.' :: '.' :: rest => (r.pass (.expression inBrackets) (skip rest)).map (.other, ·)
  | _ => do
    let start := afterModifiers memberModifiers 8 cs
    let modified := start.length != cs.length
    let (key, rest) ← readKey r start
    let method (rest : List Char) : Option (Expr × List Char) := do
      let rest ← passSignature r none rest
      (passBlock r rest).map (.other, ·)
    match skip rest with
    | '(' :: _ => method rest
    | '<' :: _ => method rest
    | '?' :: after => method after
    | ':' :: after =>
      if modified then none
      else
        let (value, cs) ← r (.expression inBrackets) (skip after)
        pure (.pair key value, cs)
    | _ =>
      if modified then none
      else
        let (_, rest) ← word? start
        pure (.other, rest)

/-- The body of an arrow function after its arrow. -/
def passArrowBody (r : Rule) (place : Place) (cs : List Char) : Option (List Char) :=
  let cs := skip cs
  match cs with
  | '\x7b' :: _ => (passBlock r cs).or (r.pass (.expression place) cs)
  | _ => r.pass (.expression place) cs

/-- An arrow function, from its parameters in parentheses or its type parameters on. -/
def passArrow (r : Rule) (place : Place) (cs : List Char) : Option (List Char) := do
  let cs ← passTypeParameters r cs
  let cs ← passParameters r cs
  let cs ← match skip cs with
    | ':' :: rest => if place.resultTypes then passResult r none rest else none
    | _ => pure cs
  let cs ← mark? "=>" cs
  passArrowBody r place cs

/-- An expression in parentheses after the opening one. -/
def readParenthesized (r : Rule) (cs : List Char) : Option (Expr × List Char) := do
  let (e, cs) ← readExpressions r inBrackets cs
  let cs ← passOptionalAnnotation r none cs
  let cs ← mark? ")" cs
  pure (.paren e, cs)

/-- Parentheses: an expression in them, or the parameters of an arrow function. -/
def readParentheses (r : Rule) (place : Place) (cs : List Char) : Option (Expr × List Char) :=
  let arrow : Option (Expr × List Char) := (passArrow r place cs).map (.other, ·)
  match readParenthesized r cs.tail with
  | some (e, rest) =>
    match skip rest with
    | '=' :: '>' :: _ => arrow
    | ':' :: _ => if place.resultTypes then arrow.or (some (e, rest)) else some (e, rest)
    | _ => some (e, rest)
  | none => arrow

/-- A function after its word. -/
def passFunction (r : Rule) (cs : List Char) : Option (List Char) := do
  let cs := match skip cs with
    | '*' :: rest => rest
    | _ => cs
  let cs := match word? (skip cs) with
    | some (_, rest) => rest
    | none => cs
  let cs ← passSignature r none cs
  passBlock r cs

/-- An expression that starts with a word. -/
def readWord (r : Rule) (place : Place) (cs w rest : List Char) : Option (Expr × List Char) := do
  let arrowAfter (cs : List Char) : Option (List Char) := mark? "=>" cs
  match String.ofList w with
  | "function" => (passFunction r rest).map (.other, ·)
  | "class" => (passClass r false rest).map (.other, ·)
  | "this" => pure (.other, rest)
  | "super" => pure (.other, rest)
  | "true" => pure (.bool true, rest)
  | "false" => pure (.bool false, rest)
  | "null" => pure (.null, rest)
  | "undefined" => pure (.undefined, rest)
  | "import" => pure (.other, rest)
  | "new" =>
    match skip rest with
    | '.' :: after =>
      let (_, after) ← word? (skip after)
      pure (.other, after)
    | after =>
      match r (.chain place false) after with
      | some (_, cs) =>
        let cs := ((if (skip cs).head? = some '<' then passTypeArguments r cs else none)).getD cs
        match look place.ending cs with
        | '(' :: args =>
          let (_, cs) ← readSparse (readSpreadable r) ')' (args.length + 1) args
          pure (.other, cs)
        | _ => pure (.other, cs)
      | none => pure (.name w, rest)
  | "async" =>
    let after := look place.ending rest
    match afterWord? "function" after with
    | some rest => (passFunction r rest).map (.other, ·)
    | none =>
      let single : Option (List Char) := do
        let (_, rest) ← word? after
        let rest ← arrowAfter rest
        passArrowBody r place rest
      let several : Option (List Char) :=
        if after.head? = some '(' || after.head? = some '<' then passArrow r place after else none
      match single.or several with
      | some rest => pure (.other, rest)
      | none => plain
  | _ => plain
where
  /-- A name, or an arrow function of one parameter. -/
  plain : Option (Expr × List Char) := do
    let (w, rest) ← word? cs
    match mark? "=>" rest with
    | some rest => (passArrowBody r place rest).map (.other, ·)
    | none => pure (.name w, rest)

/-- A primary expression. -/
def readPrimary (r : Rule) (place : Place) (cs : List Char) : Option (Expr × List Char) :=
  match cs with
  | [] => none
  | c :: rest =>
    let size := rest.length + 1
    if c = '(' then readParentheses r place cs
    else if c = '[' then
      (readSparse (readSpreadable r) ']' size rest).map fun (items, cs) => (.array items, cs)
    else if c = '\x7b' then
      (readSparse (readMember r) '\x7d' size rest).map fun (members, cs) => (.object members, cs)
    else if c.toNat = 0x60 then
      (readTemplate r size rest).map fun (body, filled, cs) => (.template body filled, cs)
    else if c = '/' then (regex? cs).map (.other, ·)
    else if c = '@' then do
      let cs ← passDecorators r size cs
      let rest ← afterWord? "class" (skip cs)
      (passClass r false rest).map (.other, ·)
    else if c = '#' then (privateName? cs).map (.other, ·)
    else match string? cs with
      | some (body, rest) => some (.string body, rest)
      | none =>
        match number? cs with
        | some (text, rest) => some (.number text, rest)
        | none =>
          match word? cs with
          | some (w, rest) => readWord r place cs w rest
          | none => none

/-- An operand may start here, after type arguments that may belong to an expression. -/
def operandFollows (cs : List Char) : Bool :=
  match cs with
  | [] => false
  | c :: _ =>
    ['(', '[', '+', '-', '~', '"', '\'', '<', '>', '@', '#', '/'].contains c || c.isDigit ||
      (word? cs).isSome && !wordIn ["as", "satisfies", "in", "instanceof", "implements", "of"] cs

/-- The trailers of a primary expression: members, subscripts, calls, templates, type arguments
and the mark that says that a value is there. -/
def readTrailers (r : Rule) (place : Place) (calls : Bool) :
    Nat → Expr → List Char → Option (Expr × List Char)
  | 0, _, _ => none
  | fuel + 1, e, cs => do
    let next := look place.ending cs
    let arguments (args : List Char) : Option (List Char) :=
      (readSparse (readSpreadable r) ')' (args.length + 1) args).map Prod.snd
    let subscript (rest : List Char) : Option (List Char) := do
      let (_, cs) ← readExpressions r inBrackets rest
      mark? "]" cs
    let member (rest : List Char) : Option (List Char) :=
      (privateName? (skip rest)).or ((word? (skip rest)).map Prod.snd)
    match next with
    | '.' :: rest =>
      let cs ← member rest
      readTrailers r place calls fuel .place cs
    | '?' :: '.' :: rest =>
      if (rest.head?.map Char.isDigit) = some true then pure (e, cs)
      else
        let after := skip rest
        let cs ← match after with
          | '(' :: args => arguments args
          | '[' :: rest => subscript rest
          | '<' :: _ => do
            let cs ← passTypeArguments r after
            let args ← mark? "(" cs
            arguments args
          | _ => member after
        readTrailers r place calls fuel .place cs
    | '[' :: rest =>
      let cs ← subscript rest
      readTrailers r place calls fuel .place cs
    | '(' :: args =>
      if calls then
        let cs ← arguments args
        readTrailers r place calls fuel .other cs
      else pure (e, cs)
    | '!' :: rest =>
      if rest.head? = some '=' then pure (e, cs)
      else readTrailers r place calls fuel .place rest
    | '<' :: _ =>
      match passTypeArguments r next with
      | some after =>
        match look place.ending after with
        | '(' :: args =>
          if calls then
            match arguments args with
            | some cs => readTrailers r place calls fuel .other cs
            | none => pure (e, cs)
          else pure (e, cs)
        | following =>
          if operandFollows following then pure (e, cs)
          else readTrailers r place calls fuel .other after
      | none => pure (e, cs)
    | c :: rest =>
      if c.toNat = 0x60 then
        let (_, _, cs) ← readTemplate r (rest.length + 1) rest
        readTrailers r place calls fuel .other cs
      else pure (e, cs)
    | [] => pure (e, cs)

/-- A primary expression with its trailers. -/
def readChain (r : Rule) (place : Place) (calls : Bool) (cs : List Char) :
    Option (Expr × List Char) := do
  let (e, cs) ← readPrimary r place cs
  readTrailers r place calls (cs.length + 1) e cs

/-! ### Operands and operators -/

/-- The marks of assignments that compute. -/
def augmentedMarks : List String :=
  [">>>=", ">>=", "<<=", "**=", "&&=", "||=", "??=", "+=", "-=", "*=", "/=", "%=", "^=", "&=", "|="]

/-- The text after the mark of an assignment. -/
def afterAssignment? (cs : List Char) : Option (List Char) :=
  match augmentedMarks.findSome? fun mark => Text.afterStart? mark.toList cs with
  | some rest => some rest
  | none => if cs.head? = some '=' then equals? cs else none

/-- The binary operators, the longer ones before their beginnings. -/
def operatorMarks : List String :=
  [">>>", "===", "!==", ">>", "<<", "**", "&&", "||", "??", "==", "!=", "<=", ">=", "<", ">", "+",
    "-", "*", "/", "%", "&", "|", "^"]

/-- The text after a binary operator. -/
def afterOperator? (cs : List Char) : Option (List Char) :=
  if (afterAssignment? cs).isSome then none
  else match operatorMarks.findSome? fun mark => Text.afterStart? mark.toList cs with
    | some rest => some rest
    | none => (afterWord? "instanceof" cs).or (afterWord? "in" cs)

/-- An operand starts here. -/
def operandStarts (cs : List Char) : Bool :=
  match cs with
  | [] => false
  | c :: _ =>
    ['(', '[', '\x7b', '+', '-', '~', '!', '"', '\'', '<', '@', '#', '/'].contains c || c.isDigit ||
      c.toNat == 0x60 || (number? cs).isSome || (word? cs).isSome

/-- An assignment to a pattern in brackets. -/
def readPatternAssignment (r : Rule) (place : Place) (cs : List Char) :
    Option (Expr × List Char) := do
  let (target, cs) ← r .pattern cs
  let rest ← equals? cs
  let (value, cs) ← r (.expression place) (skip rest)
  pure (.assignment target value, cs)

/-- A chain, with the operators after it and the assignments to it. -/
def readAssignable (r : Rule) (place : Place) (cs : List Char) : Option (Expr × List Char) :=
  let bracketed := cs.head? = some '[' || cs.head? = some '\x7b'
  match readChain r place true cs with
  | some (e, rest) =>
    let next := look place.ending rest
    match next with
    | '+' :: '+' :: after => some (.other, after)
    | '-' :: '-' :: after => some (.other, after)
    | _ =>
      match afterAssignment? next with
      | some after =>
        if e.isAssignable then do
          let (value, cs) ← r (.expression place) (skip after)
          pure (.assignment e value, cs)
        else if bracketed then readPatternAssignment r place cs
        else none
      | none => some (e, rest)
  | none => if bracketed then readPatternAssignment r place cs else none

/-- An operand with its unary operators. -/
def readOperand (r : Rule) (place : Place) (cs : List Char) : Option (Expr × List Char) :=
  let cs := skip cs
  let unary (mark rest : List Char) : Option (Expr × List Char) := do
    let (e, cs) ← r (.operand place) (skip rest)
    pure (.unary mark e, cs)
  let silent (goal : Goal) (rest : List Char) : Option (Expr × List Char) :=
    (r.pass goal (skip rest)).map (.other, ·)
  match cs with
  | '+' :: '+' :: rest => silent (.operand place) rest
  | '-' :: '-' :: rest => silent (.operand place) rest
  | '+' :: rest => unary ['+'] rest
  | '-' :: rest => unary ['-'] rest
  | '!' :: rest => unary ['!'] rest
  | '~' :: rest => unary ['~'] rest
  | '<' :: _ =>
    match passArrow r place cs with
    | some rest => some (.other, rest)
    | none => do
      let rest ← passTypeArguments r cs
      silent (.operand place) rest
  | _ =>
    match word? cs with
    | some (w, rest) =>
      match String.ofList w with
      | "typeof" => silent (.operand place) rest
      | "void" => silent (.operand place) rest
      | "delete" => silent (.operand place) rest
      | "await" => silent (.operand place) rest
      | "yield" =>
        match look place.ending rest with
        | '*' :: after => silent (.expression place) after
        | after =>
          if operandStarts after && !wordIn ["in", "instanceof", "as", "satisfies"] after then
            silent (.expression place) after
          else some (.other, rest)
      | _ => readAssignable r place cs
    | none => readAssignable r place cs

/-- The text after the question mark of a conditional expression. -/
def afterQuestion? : List Char → Option (List Char)
  | '?' :: '?' :: _ => none
  | '?' :: '.' :: c :: rest => if c.isDigit then some ('.' :: c :: rest) else none
  | '?' :: rest =>
    match rest.dropWhile isAsciiBlank with
    | c :: _ => if [':', ')', ','].contains c then none else some rest
    | [] => none
  | _ => none

/-- The binary and conditional operators after an operand, with their right sides. -/
def readOperators (r : Rule) (place : Place) : Nat → Expr → List Char → Option (Expr × List Char)
  | 0, _, _ => none
  | fuel + 1, left, cs => do
    let next := look place.ending cs
    match afterOperator? next with
    | some rest =>
      let (_, cs) ← readOperand r place rest
      readOperators r place fuel .other cs
    | none =>
      match (afterWord? "as" next).or (afterWord? "satisfies" next) with
      | some rest =>
        let cs ← r.pass (.type place.ending) (skip rest)
        readOperators r place fuel (.typed left) cs
      | none =>
        match afterQuestion? next with
        | some rest =>
          let branches (resultTypes : Bool) : Option (List Char) := do
            let cs ← r.pass (.expression ⟨none, resultTypes⟩) (skip rest)
            let cs ← mark? ":" cs
            r.pass (.expression place) (skip cs)
          let cs ← (branches false).or (branches true)
          pure (.other, cs)
        | none => pure (left, cs)

/-- An expression without commas. -/
def readExpression (r : Rule) (place : Place) (cs : List Char) : Option (Expr × List Char) := do
  let (e, cs) ← readOperand r place cs
  readOperators r place (cs.length + 1) e cs

end Toolshed.Source.JavaScript
