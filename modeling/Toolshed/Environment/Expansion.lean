import Toolshed.Assoc
import Toolshed.Text.Piece

/-!
# Expansion of variables

A text may refer to a variable of an environment, with an optional default for when it is not set.
Main statement: a reference takes at least one character, so expansion ends.
-/

namespace Toolshed

/-- Variables with their values, in order. -/
abbrev Environment := Assoc String

namespace Environment

/-- A reference to a variable. -/
structure Reference where
  name : List Char
  default : Option (List Char)
deriving DecidableEq, Inhabited

/-- The characters of the name of a variable. -/
def isNameChar (c : Char) : Bool :=
  c ≠ '\x7d' && c ≠ ':'

/-- What follows the name of a reference: its end, or a default before it. -/
def afterName? (name : List Char) : List Char → Option (Reference × List Char)
  | '\x7d' :: rest => some (⟨name, none⟩, rest)
  | ':' :: '-' :: rest =>
    (Text.cutAt? '\x7d' rest).map fun (default, rest) => (⟨name, some default⟩, rest)
  | _ => none

/-- The reference in front: a dollar sign, and in braces a name and an optional default after a
colon and a hyphen. -/
def reference? : List Char → Option (Reference × List Char)
  | '$' :: '\x7b' :: rest =>
    if (rest.takeWhile isNameChar).isEmpty then none
    else afterName? (rest.takeWhile isNameChar) (rest.dropWhile isNameChar)
  | _ => none

theorem afterName?_length {name cs rest : List Char} {r : Reference}
    (h : afterName? name cs = some (r, rest)) :
  rest.length < cs.length
  := by
  unfold afterName? at h
  split at h
  · cases h
    simp
  · obtain ⟨⟨default, rest'⟩, h', e⟩ := Option.map_eq_some_iff.mp h
    cases e
    have shorter := Text.cutAt?_length h'
    simp only [List.length_cons]
    omega
  · cases h

theorem reference?_length {cs rest : List Char} {r : Reference}
    (h : reference? cs = some (r, rest)) :
  rest.length < cs.length
  := by
  unfold reference? at h
  split at h
  · rename_i text
    split at h
    · cases h
    · have shorter := afterName?_length h
      have whole := (List.dropWhile_sublist isNameChar (l := text)).length_le
      simp only [List.length_cons]
      omega
  · cases h

/-- The value of a reference; a variable that is not set and has no default is empty. -/
def valueOf (env : Environment) (r : Reference) : List Char :=
  match Assoc.get? (String.ofList r.name) env with
  | some value => value.toList
  | none => r.default.getD []

/-- A text with its references replaced by their values. -/
def expand (env : Environment) : List Char → List Char
  | [] => []
  | c :: cs =>
    match _h : reference? (c :: cs) with
    | some (r, rest) => env.valueOf r ++ expand env rest
    | none => c :: expand env cs
termination_by cs => cs.length
decreasing_by
  · exact reference?_length _h
  · simp

/-- A string with its references replaced by their values. -/
def expandText (env : Environment) (s : String) : String :=
  String.ofList (env.expand s.toList)

end Environment

end Toolshed
