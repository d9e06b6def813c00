import Toolshed.Source.Literal
import Toolshed.Text.Piece

/-!
# Shell sources

A source declares the assignments of single words that stand at its top level, one a line: outside
quotes that run over several lines, outside braces and parentheses, and outside here-documents.
-/

namespace Toolshed.Source.Shell

open Text

/-- What a line may leave open around the lines after it. -/
inductive Quote where
  | plain
  | single
  | double
deriving DecidableEq, Inhabited

/-- What the lines read so far leave open. -/
structure Nesting where
  quote : Quote
  depth : Nat
  /-- The line that ends the current here-document. -/
  delimiter : Option (List Char)
deriving Inhabited

/-- Nothing is open. -/
def Nesting.top : Nesting :=
  ⟨.plain, 0, none⟩

/-- Nothing is open, so an assignment counts. -/
def Nesting.isTop (n : Nesting) : Bool :=
  n.quote = .plain && n.depth = 0 && n.delimiter.isNone

/-- The quote and the depth after a line; `previous` is the character before the rest of it. -/
def scan (quote : Quote) (depth : Nat) (previous : Char) : List Char → Quote × Nat
  | [] => (quote, depth)
  | c :: cs =>
    match quote with
    | .single => scan (if c = '\'' then .plain else .single) depth c cs
    | .double =>
      if c = '\\' then scan .double depth c (cs.drop 1)
      else scan (if c = '"' then .plain else .double) depth c cs
    | .plain =>
      if c = '#' ∧ isBlank previous then (.plain, depth)
      else if c = '\\' then scan .plain depth c (cs.drop 1)
      else if c = '\'' then scan .single depth c cs
      else if c = '"' then scan .double depth c cs
      else if c = '$' ∧ cs.head? = some '\x7b' then
        scan .plain depth c ((cs.dropWhile (· != '\x7d')).drop 1)
      else if (c = '\x7b' ∨ c = '(') ∧ previous ≠ '$' then scan .plain (depth + 1) c cs
      else if c = '\x7d' ∨ c = ')' then scan .plain (depth - 1) c cs
      else scan .plain depth c cs
termination_by cs => cs.length
decreasing_by
  all_goals
    simp only [List.length_cons, List.length_drop]
    first
    | omega
    | have shorter := (List.dropWhile_sublist (· != '\x7d') (l := cs)).length_le
      omega

/-- The ASCII letters, the digits and the underscore. -/
def isNameChar (c : Char) : Bool :=
  c.isAlphanum || c = '_'

/-- The name at the front of a text, and the rest. -/
def name? : List Char → Option (List Char × List Char)
  | [] => none
  | c :: cs =>
    if c.isAlpha || c = '_' then
      some (c :: cs.takeWhile isNameChar, cs.dropWhile isNameChar)
    else none

/-- A text without an optional quote at its front. -/
def passQuote (cs : List Char) : List Char :=
  match cs with
  | '\'' :: rest => rest
  | '"' :: rest => rest
  | rest => rest

/-- The delimiter of the first here-document that a line opens. -/
def delimiter? : List Char → Option (List Char)
  | [] => none
  | c :: cs =>
    let here := do
      let rest ← afterStart? ['<', '<'] (c :: cs)
      let rest := (afterStart? ['-'] rest).getD rest
      name? (passQuote (rest.dropWhile fun c => c = ' ' || c = '\t'))
    match here with
    | some (name, _) => some name
    | none => delimiter? cs

/-- What is open after one more line. -/
def Nesting.afterLine (n : Nesting) (line : List Char) : Nesting :=
  match n.delimiter with
  | some name =>
    if line.dropWhile (· = '\t') = name then ⟨n.quote, n.depth, none⟩ else n
  | none =>
    let (quote, depth) := scan n.quote n.depth ' ' line
    ⟨quote, depth, if quote = .plain then delimiter? line else none⟩

/-! ### Values -/

/-- Nothing follows but a comment or another statement. -/
def endsStatement (cs : List Char) : Bool :=
  match trimLeft cs with
  | [] => true
  | c :: _ => c = '#' || c = ';'

/-- The text in double quotes without expansions, and what follows the closing quote. -/
def doubleQuoted? : List Char → Option (List Char × List Char)
  | [] => none
  | '\\' :: c :: cs =>
    (doubleQuoted? cs).map fun (text, rest) =>
      if c = '"' ∨ c = '\\' ∨ c = '$' ∨ c.toNat = 0x60 then (c :: text, rest)
      else ('\\' :: c :: text, rest)
  | c :: cs =>
    if c = '"' then some ([], cs)
    else if c = '\\' ∨ c = '$' ∨ c.toNat = 0x60 then none
    else (doubleQuoted? cs).map fun (text, rest) => (c :: text, rest)

/-- The characters that keep a word from standing for itself. -/
def isActive (c : Char) : Bool :=
  c ∈ ['$', '(', ')', '<', '>', '|', '&', '\'', '"', '\\'] || c.toNat = 0x60

/-- The value of a single word without expansions. -/
def value? (cs : List Char) : Option (List Char) :=
  match cs with
  | '\'' :: rest =>
    match cutAt? '\'' rest with
    | some (text, rest) => if endsStatement rest then some text else none
    | none => none
  | '"' :: rest =>
    match doubleQuoted? rest with
    | some (text, rest) => if endsStatement rest then some text else none
    | none => none
  | _ =>
    let ends := fun c => isBlank c || c = ';'
    let word := cs.takeWhile fun c => !ends c
    if word.any isActive then none
    else if endsStatement (cs.drop word.length) then some word
    else none

/-! ### Assignments -/

/-- A text after a word and at least one blank. -/
def afterWord? (word : String) (cs : List Char) : Option (List Char) :=
  match afterStart? word.toList cs with
  | some (c :: rest) => if isBlank c then some (trimLeft rest) else none
  | _ => none

/-- A text without the options of a declaration. -/
def passOptions (cs : List Char) : List Char :=
  match cs with
  | '-' :: rest =>
    let options := rest.takeWhile Char.isAlpha
    match rest.drop options.length with
    | c :: after => if !options.isEmpty && isBlank c then trimLeft after else cs
    | [] => cs
  | _ => cs

/-- A text without the word that declares what follows. -/
def passDeclarator (cs : List Char) : List Char :=
  match afterWord? "export" cs, afterWord? "readonly" cs, afterWord? "declare" cs with
  | some rest, _, _ => rest
  | _, some rest, _ => rest
  | _, _, some rest => passOptions rest
  | _, _, _ => cs

/-- The assignment of a literal word on a line. -/
def assignment? (line : List Char) : Option Assignment :=
  match name? (passDeclarator (trimBoth line)) with
  | some (name, '=' :: rest) =>
    (value? rest).map fun text => ⟨String.ofList name, .string (String.ofList text), true⟩
  | _ => none

/-- The assignments of the lines that follow an opening state. -/
def assignments (n : Nesting) : List (List Char) → List Assignment
  | [] => []
  | line :: lines =>
    let found := if n.isTop then (assignment? line).toList else []
    found ++ assignments (n.afterLine line) lines

/-- What a source declares. -/
def readModule (content : List Char) : Module :=
  ⟨assignments .top (lines content), none⟩

end Toolshed.Source.Shell
