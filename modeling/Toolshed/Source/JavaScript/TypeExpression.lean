import Toolshed.Source.JavaScript.Grammar

/-!
# Reading types

The grammar of the types in annotations.  Types have no value; they are only passed over.
-/

namespace Toolshed.Source.JavaScript

/-! ### Parts of types -/

/-- The words that may stand before the name of a member of an object type. -/
def signatureModifiers : List String :=
  ["public", "private", "protected", "static", "override", "readonly", "async", "get", "set"]

/-- A member of an object type: a signature or a property. -/
def passTypeMember (r : Rule) (cs : List Char) : Option (List Char) :=
  let ending : Option Ending := some .plain
  let signature (cs : List Char) : Option (List Char) := passSignature r ending cs
  match passIndexSignature r ending cs with
  | some rest => some rest
  | none =>
    match cs with
    | '(' :: _ => signature cs
    | '<' :: _ => signature cs
    | _ =>
      let construct : Option (List Char) := do
        let cs := match afterWord? "abstract" cs with
          | some rest => skip rest
          | none => cs
        let rest ← afterWord? "new" cs
        match skip rest with
        | '(' :: _ => signature rest
        | '<' :: _ => signature rest
        | _ => none
      match construct with
      | some rest => some rest
      | none => do
        let (_, cs) ← readKey r (afterModifiers signatureModifiers 8 cs)
        let cs := match look ending cs with
          | '?' :: rest => rest
          | _ => cs
        match look ending cs with
        | '(' :: _ => signature cs
        | '<' :: _ => signature cs
        | _ => passOptionalAnnotation r ending cs

/-- The members of an object type and its closing brace. -/
def passTypeMembers (r : Rule) : Nat → Passes
  | 0, _ => none
  | fuel + 1, cs =>
    match closing? (skip cs) with
    | some rest => some rest
    | none => do
      let cs ← if wordIn ["export"] (skip cs) then
          (passTypeMember r (skip cs)).or (r.pass .statement (skip cs))
        else passTypeMember r (skip cs)
      match closing? (skip cs) with
      | some rest => pure rest
      | none =>
        let cs ← passMemberEnd .plain cs
        passTypeMembers r fuel cs
where
  /-- The text after the closing brace. -/
  closing? : List Char → Option (List Char)
    | '\x7d' :: rest => some rest
    | '|' :: '\x7d' :: rest => some rest
    | _ => none

/-- An object type. -/
def passObjectType (r : Rule) (cs : List Char) : Option (List Char) := do
  let cs ← mark? "\x7b" cs
  let cs := match cs with
    | '|' :: rest => rest
    | cs => cs
  let cs := match skip cs with
    | ',' :: rest => rest
    | ';' :: rest => rest
    | _ => cs
  passTypeMembers r (cs.length + 1) cs

/-- A member of a tuple type. -/
def passTupleMember (r : Rule) (cs : List Char) : Option (List Char) :=
  let cs := match cs with
    | '.' :: '.' :: '.' :: rest => skip rest
    | cs => cs
  let named : Option (List Char) := do
    let (_, rest) ← word? cs
    let rest := match skip rest with
      | '?' :: after => after
      | _ => rest
    passAnnotation r none rest
  match named with
  | some rest => some rest
  | none => do
    let cs ← r.pass (.type none) cs
    match skip cs with
    | '?' :: rest => pure rest
    | _ => pure cs

/-- A type in a template after its opening mark. -/
def passTemplateType (r : Rule) : Nat → Passes
  | 0, _ => none
  | _, [] => none
  | fuel + 1, '$' :: '\x7b' :: rest => do
    let cs ← r.pass (.type none) (skip rest)
    let cs ← mark? "\x7d" cs
    passTemplateType r fuel cs
  | fuel + 1, '\\' :: rest => do
    let n ← escapeLength? rest
    passTemplateType r fuel (rest.drop n)
  | fuel + 1, c :: rest => if c.toNat = 0x60 then some rest else passTemplateType r fuel rest

/-- Names after points, and calls and subscripts among them. -/
def passQuery (r : Rule) (ending : Option Ending) (subscripts : Bool) : Nat → Passes
  | 0, _ => none
  | fuel + 1, cs =>
    match look ending cs with
    | '.' :: rest => do
      let cs ← (privateName? (skip rest)).or ((word? (skip rest)).map Prod.snd)
      passQuery r ending subscripts fuel cs
    | '?' :: '.' :: rest => do
      let (_, cs) ← word? (skip rest)
      passQuery r ending subscripts fuel cs
    | '(' :: rest =>
      if subscripts then do
        let (_, cs) ← readSparse (readSpreadable r) ')' (rest.length + 1) rest
        passQuery r ending subscripts fuel cs
      else some cs
    | '<' :: _ =>
      match passTypeArguments r (look ending cs) with
      | some rest => some rest
      | none => some cs
    | _ => some cs

/-- The subscripts of a type. -/
def passTypeSuffixes (r : Rule) (ending : Option Ending) : Nat → Passes
  | 0, _ => none
  | fuel + 1, cs =>
    match look ending cs with
    | '[' :: rest => do
      let cs ← match skip rest with
        | ']' :: after => pure after
        | rest => do
          let cs ← r.pass (.type none) rest
          mark? "]" cs
      passTypeSuffixes r ending fuel cs
    | _ => some cs

/-- The type of a function, from its parameters or type parameters on. -/
def passFunctionType (r : Rule) (ending : Option Ending) (cs : List Char) :
    Option (List Char) := do
  let cs ← passTypeParameters r cs
  let cs ← passParameters r cs
  let cs ← mark? "=>" cs
  passResult r ending cs

/-! ### Types -/

/-- A type that starts with a word. -/
def passTypeWord (r : Rule) (ending : Option Ending) (operand : Passes) (w rest : List Char) :
    Option (List Char) :=
  let size := rest.length + 1
  let after := look ending rest
  let starts : Bool := match after with
    | [] => false
    | c :: _ => ['(', '[', '\x7b', '"', '\''].contains c || c.isDigit || c.toNat == 0x60 ||
      (word? after).isSome && !wordIn ["extends", "is", "as", "satisfies", "in"] after
  let named : Option (List Char) := passQuery r ending false size rest
  match String.ofList w with
  | "readonly" => if starts then r.pass (.type ending) after else named
  | "keyof" => if starts then operand after else named
  | "unique" => ((afterWord? "symbol" after).or named)
  | "infer" => if (word? after).isSome then (word? after).map Prod.snd else named
  | "new" => passFunctionType r ending rest
  | "abstract" =>
    match afterWord? "new" after with
    | some rest => passFunctionType r ending rest
    | none => named
  | "typeof" => do
    let (w, rest) ← word? (skip rest)
    passQuery r ending (w = "import".toList) size rest
  | "import" => passQuery r ending true size rest
  | _ => named

/-- A type without operators between types. -/
def passTypeOperand (r : Rule) (ending : Option Ending) : Nat → Passes
  | 0, _ => none
  | fuel + 1, cs => do
    let cs := skip cs
    let size := cs.length + 1
    let suffixed (cs : List Char) : Option (List Char) := passTypeSuffixes r ending size cs
    match cs with
    | [] => none
    | '(' :: rest =>
      let parenthesized : Option (List Char) := do
        let cs ← r.pass (.type none) (skip rest)
        mark? ")" cs
      match parenthesized with
      | some after =>
        match look ending after with
        | '=' :: '>' :: _ => passFunctionType r ending cs
        | _ => suffixed after
      | none => passFunctionType r ending cs
    | '<' :: _ => passFunctionType r ending cs
    | '\x7b' :: _ => suffixed (← passObjectType r cs)
    | '[' :: rest =>
      match skip rest with
      | ']' :: after => suffixed after
      | rest => suffixed (← passList (passTupleMember r) ']' size rest)
    | '-' :: rest => suffixed (← (number? (skip rest)).map Prod.snd)
    | '+' :: rest => suffixed (← (number? (skip rest)).map Prod.snd)
    | '*' :: rest => suffixed rest
    | '?' :: rest => passTypeOperand r ending fuel rest
    | c :: rest =>
      if c.toNat = 0x60 then suffixed (← passTemplateType r size rest)
      else match string? cs with
        | some (_, rest) => suffixed rest
        | none =>
          match number? cs with
          | some (_, rest) => suffixed rest
          | none =>
            let (w, rest) ← word? cs
            suffixed (← passTypeWord r ending (passTypeOperand r ending fuel) w rest)

/-- The text after a bar or an ampersand that stands alone. -/
def afterJunction? : List Char → Option (List Char)
  | '|' :: '|' :: _ => none
  | '|' :: '\x7d' :: _ => none
  | '|' :: rest => some rest
  | '&' :: '&' :: _ => none
  | '&' :: rest => some rest
  | _ => none

/-- Types between bars and ampersands. -/
def passJunctions (r : Rule) (ending : Option Ending) : Nat → Passes
  | 0, _ => none
  | fuel + 1, cs => do
    let cs := ((afterJunction? (skip cs)).getD cs)
    let cs ← passTypeOperand r ending (cs.length + 1) cs
    match afterJunction? (look ending cs) with
    | some rest => passJunctions r ending fuel rest
    | none => pure cs

/-- A type, which may be conditional. -/
def passType (r : Rule) (ending : Option Ending) (cs : List Char) : Option (List Char) := do
  let cs ← passJunctions r ending (cs.length + 1) cs
  let conditional : Option (List Char) := do
    let rest ← afterWord? "extends" (look ending cs)
    let cs ← passJunctions r none (rest.length + 1) rest
    let cs := (do
      let rest ← afterWord? "extends" (skip cs)
      passJunctions r none (rest.length + 1) rest).getD cs
    let cs ← mark? "?" cs
    let cs ← r.pass (.type none) (skip cs)
    let cs ← mark? ":" cs
    r.pass (.type ending) (skip cs)
  pure (conditional.getD cs)

end Toolshed.Source.JavaScript
