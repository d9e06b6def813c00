import Toolshed.Query.Regex

/-!
# Glob patterns

In a glob, `*` stands for any text, `?` for any character and a bracket class for one character
in it, or not in it after `!`; every other character stands for itself.  A bracket without its
closing bracket stands for itself, too.

A glob is translated to a regular expression.  The members of its classes are escaped, the dashes
excepted, so ranges are those of expressions.
-/

namespace Toolshed.Query

open Regex

/-- The members of a class and the text after it, the opening bracket being passed.  A closing
bracket right after the opening one, or after `!`, is a member. -/
def bracketParts (cs : List Char) : Option (List Char × List Char) :=
  match cs with
  | '!' :: ']' :: rest =>
    (Text.cutAt? ']' rest).map fun (members, rest) => ('!' :: ']' :: members, rest)
  | ']' :: rest => (Text.cutAt? ']' rest).map fun (members, rest) => (']' :: members, rest)
  | cs => Text.cutAt? ']' cs

theorem bracketParts_length {cs members rest : List Char}
  (h : bracketParts cs = some (members, rest)) :
  rest.length < cs.length
  := by
  unfold bracketParts at h
  split at h
  · obtain ⟨⟨b, a⟩, hb, he⟩ := Option.map_eq_some_iff.1 h
    simp only [Prod.mk.injEq] at he
    have := Text.cutAt?_length (he.2 ▸ hb)
    simp only [List.length_cons]
    omega
  · obtain ⟨⟨b, a⟩, hb, he⟩ := Option.map_eq_some_iff.1 h
    simp only [Prod.mk.injEq] at he
    have := Text.cutAt?_length (he.2 ▸ hb)
    simp only [List.length_cons]
    omega
  · exact Text.cutAt?_length h

/-- A member of a class; a dash keeps its meaning. -/
def memberText (c : Char) : List Char :=
  if c = '-' then ['-'] else escape c

/-- The class of an expression with given members; an exclamation mark in front negates it. -/
def classText (members : List Char) : List Char :=
  match members with
  | '!' :: rest => '[' :: '^' :: rest.flatMap memberText ++ [']']
  | members => '[' :: members.flatMap memberText ++ [']']

/-- The expression of a pattern without its anchors. -/
def translate : List Char → List Char
  | [] => []
  | '*' :: cs => '.' :: '*' :: translate cs
  | '?' :: cs => '.' :: translate cs
  | '[' :: cs =>
    match h : bracketParts cs with
    | some (members, rest) =>
      have := bracketParts_length h
      classText members ++ translate rest
    | none => escape '[' ++ translate cs
  | c :: cs => escape c ++ translate cs
termination_by cs => cs.length
decreasing_by
  · simp
  · simp
  · simp only [List.length_cons]
    omega
  · simp
  · simp

/-- The regular expression of a pattern. -/
def expressionOf (pattern : List Char) : List Char :=
  opening ++ translate pattern ++ ['$']

/-- A glob: its pattern and the pieces it stands for. -/
structure Glob where
  pattern : List Char
  pieces : List Piece
deriving DecidableEq, Inhabited

/-- The glob of a pattern, none when its expression cannot be read. -/
def Glob.ofPattern? (pattern : List Char) : Option Glob :=
  (Regex.read? (expressionOf pattern)).map (⟨pattern, ·⟩)

/-- The glob matches a whole word. -/
def Glob.matchesWord (g : Glob) (word : List Char) : Bool :=
  (matchRow word g.pieces).headD false

end Toolshed.Query
