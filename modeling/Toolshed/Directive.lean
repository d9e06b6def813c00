import Toolshed.Text.Piece
import Toolshed.Text.Word
import Toolshed.Json.Value

/-!
# Directives

A directive is prose with an element that carries its name and version as attributes and its
description and category as child elements.
-/

namespace Toolshed.Directive

open Text

/-- The text after the first occurrence of a piece, with the text before it. -/
def cutAtPiece? (piece : List Char) : List Char → Option (List Char × List Char)
  | [] => if piece.isEmpty then some ([], []) else none
  | c :: cs =>
    match afterStart? piece (c :: cs) with
    | some rest => some ([], rest)
    | none => (cutAtPiece? piece cs).map fun (before, rest) => (c :: before, rest)

/-- The text between the name of the first directive element and the end of its tag. -/
def tagText? : List Char → Option (List Char)
  | [] => none
  | c :: cs =>
    match afterStart? "<directive".toList (c :: cs) with
    | some rest =>
      if rest.head?.any isWordChar then tagText? cs
      else (cutAt? '>' rest).map Prod.fst
    | none => tagText? cs

/-- A value in quotes, which may hold quotes of the other kind, and the rest. -/
def quotedValue? : List Char → Option (List Char × List Char)
  | '"' :: rest => cutAt? '"' rest
  | '\'' :: rest => cutAt? '\'' rest
  | _ => none

/-- The attribute in front, and the rest. -/
def attribute? : List Char → Option ((List Char × List Char) × List Char)
  | [] => none
  | c :: cs =>
    if c.isAlpha || c = '_' then
      let isNameChar := fun d => isWordChar d || d = '-'
      match trimLeft (cs.dropWhile isNameChar) with
      | '=' :: rest =>
        (quotedValue? (trimLeft rest)).map fun (value, rest) =>
          ((c :: cs.takeWhile isNameChar, value), rest)
      | _ => none
    else none

/-- The attributes in a text, which is passed over where there is none; the fuel bounds its
length. -/
def attributes : Nat → List Char → List (List Char × List Char)
  | 0, _ => []
  | _, [] => []
  | fuel + 1, c :: cs =>
    match attribute? (c :: cs) with
    | some (found, rest) => found :: attributes fuel rest
    | none => attributes fuel cs

/-- The trimmed content of the first child element of a name. -/
def child? (name : String) (cs : List Char) : Option (List Char) := do
  let (_, rest) ← cutAtPiece? ("<" ++ name ++ ">").toList cs
  let (content, _) ← cutAtPiece? ("</" ++ name ++ ">").toList rest
  pure (trimBoth content)

/-- A field with a text as its value. -/
def textField (name text : List Char) : String × Json.Value :=
  (String.ofList name, .string (String.ofList text))

/-- The fields that a directive declares. -/
def fields (cs : List Char) : Json.Fields :=
  let tag := (tagText? cs).getD []
  let declared := (attributes tag.length tag).map fun (name, value) => textField name value
  let children := ["description", "category"].filterMap fun name =>
    (child? name cs).map (textField name.toList)
  Assoc.ofEntries (declared ++ children)

/-! ### Identity -/

/-- The text in quotes of either kind that follows a name and an equals sign. -/
def assigned? (name cs : List Char) : Option (List Char) := do
  let rest ← afterStart? (name ++ ['=']) cs
  match rest with
  | q :: rest =>
    let isQuote := fun c => c = '"' || c = '\''
    let value := rest.takeWhile fun c => !isQuote c
    if isQuote q && !value.isEmpty && value.length < rest.length then pure value else none
  | [] => none

/-- The last assignment to a name that starts in the tag in front. -/
def lastAssigned? (name : List Char) : List Char → Option (List Char)
  | [] => none
  | c :: cs =>
    if c = '>' then none
    else (lastAssigned? name cs).or (assigned? name (c :: cs))

/-- The value of a name in the first directive tag that assigns it, after at least one other
character. -/
def identifier? (name : List Char) : List Char → Option (List Char)
  | [] => none
  | c :: cs =>
    let found := do
      let rest ← afterStart? "<directive".toList (c :: cs)
      match rest with
      | d :: rest => if d = '>' then none else lastAssigned? name rest
      | [] => none
    found.or (identifier? name cs)

/-- The fields that identify a directive: its name and its version. -/
def identity (cs : List Char) : Json.Fields :=
  ["name", "version"].filterMap fun name =>
    (identifier? name.toList cs).map (textField name.toList)

end Toolshed.Directive
