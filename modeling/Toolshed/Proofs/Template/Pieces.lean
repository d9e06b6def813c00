import Toolshed.Template
import Mathlib.Data.List.Basic

/-!
# The pieces of a template

A template is a row of placeholders and other characters.  It is filled piece by piece: the
characters stay as they are, and every placeholder gives way to a text of its own, which is not
looked at again.
-/

namespace Toolshed.Template

/-- A piece of a template. -/
inductive Piece where
  | character (c : Char)
  | placeholder (p : Placeholder)
deriving DecidableEq

/-- The pieces of a template. -/
def pieces : List Char → List Piece
  | [] => []
  | c :: cs =>
    match _h : placeholder? (c :: cs) with
    | some (p, rest) => .placeholder p :: pieces rest
    | none => .character c :: pieces cs
termination_by cs => cs.length
decreasing_by
  · exact placeholder?_length _h
  · simp

/-- What is put in place of a piece. -/
def Piece.text (env : Environment) (params : Option Environment) : Piece → List Char
  | .character c => [c]
  | .placeholder p => substitute env params p

section

variable (env : Environment) (params : Option Environment) {c : Char} {cs rest : List Char}
  {p : Placeholder}

theorem fill_of_placeholder (h : placeholder? (c :: cs) = some (p, rest)) :
  fill env params (c :: cs) = substitute env params p ++ fill env params rest
  := by
  rw [fill]
  split
  · rename_i found
    cases h.symm.trans found
    rfl
  · rename_i found
    cases h.symm.trans found

theorem fill_of_character (h : placeholder? (c :: cs) = none) :
  fill env params (c :: cs) = c :: fill env params cs
  := by
  rw [fill]
  split
  · rename_i found
    cases h.symm.trans found
  · rfl

theorem pieces_of_placeholder (h : placeholder? (c :: cs) = some (p, rest)) :
  pieces (c :: cs) = .placeholder p :: pieces rest
  := by
  rw [pieces]
  split
  · rename_i found
    cases h.symm.trans found
    rfl
  · rename_i found
    cases h.symm.trans found

theorem pieces_of_character (h : placeholder? (c :: cs) = none) :
  pieces (c :: cs) = .character c :: pieces cs
  := by
  rw [pieces]
  split
  · rename_i found
    cases h.symm.trans found
  · rfl

/-- Filling a template is filling its pieces. -/
theorem fill_eq_flatMap (text : List Char) :
  fill env params text = (pieces text).flatMap (Piece.text env params)
  := by
  induction text using pieces.induct with
  | case1 => rw [fill, pieces, List.flatMap_nil]
  | case2 c cs p rest h ih =>
      rw [fill_of_placeholder env params h, pieces_of_placeholder h, List.flatMap_cons, ih]
      rfl
  | case3 c cs h ih =>
      rw [fill_of_character env params h, pieces_of_character h, List.flatMap_cons, ih]
      rfl

end

/-! ### What is bound -/

/-- The value that is bound to the name of a placeholder. -/
def bound? (env : Environment) (params : Option Environment) : Placeholder → Option String
  | .variable r => Assoc.get? (String.ofList r.name) env
  | .parameter name =>
    (Assoc.get? (String.ofList name) env).or (params.bind (Assoc.get? (String.ofList name)))

/-- A placeholder whose name is bound gives way to the value, quoted if need be. -/
theorem substitute_of_bound {env : Environment} {params : Option Environment} {p : Placeholder}
    {value : String} (h : bound? env params p = some value) :
  substitute env params p = Shell.quoteIfUnsafe value.toList
  := by
  rcases p with r | name
  · rw [bound?] at h
    rw [substitute, Environment.valueOf, h]
  · rw [bound?] at h
    simp only [substitute, h]

/-- A placeholder whose name is not bound gives way to the same text everywhere. -/
theorem substitute_of_unbound {env env' : Environment} {params params' : Option Environment}
    {p : Placeholder} (h : bound? env params p = none) (h' : bound? env' params' p = none) :
  substitute env params p = substitute env' params' p
  := by
  rcases p with r | name
  · rw [bound?] at h h'
    rw [substitute, substitute, Environment.valueOf, Environment.valueOf, h, h']
  · rw [bound?] at h h'
    simp only [substitute, h, h']

end Toolshed.Template
