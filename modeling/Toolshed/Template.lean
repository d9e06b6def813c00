import Toolshed.Environment.Expansion
import Toolshed.Shell.Quoting
import Toolshed.Json.Value

/-!
# Templates

The strings of a configuration may refer to variables, and to parameters by a name in braces.
Every value is quoted for a shell if need be.  A reference takes at least one character, so
substitution ends; what it puts in is not looked at again.
-/

namespace Toolshed.Template

open Json

/-- What a template puts in place of a piece of its text. -/
inductive Placeholder where
  | variable (reference : Environment.Reference)
  | parameter (name : List Char)
deriving DecidableEq, Inhabited

/-- The characters that may start a name. -/
def isNameStart (c : Char) : Bool :=
  c.isAlpha || c = '_'

/-- The characters of a name. -/
def isNameChar (c : Char) : Bool :=
  c.isAlphanum || c = '_'

/-- The name in braces in front. -/
def parameter? : List Char → Option (List Char × List Char)
  | '\x7b' :: c :: rest =>
    if isNameStart c then
      match rest.dropWhile isNameChar with
      | '\x7d' :: after => some (c :: rest.takeWhile isNameChar, after)
      | _ => none
    else none
  | _ => none

/-- The placeholder in front. -/
def placeholder? (cs : List Char) : Option (Placeholder × List Char) :=
  match Environment.reference? cs with
  | some (r, rest) => some (.variable r, rest)
  | none => (parameter? cs).map fun (name, rest) => (.parameter name, rest)

theorem parameter?_length {cs name rest : List Char} (h : parameter? cs = some (name, rest)) :
  rest.length < cs.length
  := by
  unfold parameter? at h
  split at h
  · rename_i c text
    have shorter : (text.dropWhile isNameChar).length ≤ text.length :=
      (List.dropWhile_sublist _).length_le
    split at h
    · split at h
      · rename_i e
        cases h
        simp only [e, List.length_cons] at shorter
        simp only [List.length_cons]
        omega
      · cases h
    · cases h
  · cases h

theorem placeholder?_length {cs rest : List Char} {p : Placeholder}
    (h : placeholder? cs = some (p, rest)) :
  rest.length < cs.length
  := by
  unfold placeholder? at h
  split at h
  · rename_i e
    cases h
    exact Environment.reference?_length e
  · obtain ⟨⟨name, rest'⟩, h', e⟩ := Option.map_eq_some_iff.mp h
    cases e
    exact parameter?_length h'

/-- The text in place of a placeholder: the quoted value, or the placeholder itself when it is a
parameter that nothing sets. -/
def substitute (env : Environment) (params : Option Environment) : Placeholder → List Char
  | .variable r => Shell.quoteIfUnsafe (env.valueOf r)
  | .parameter name =>
    let key := String.ofList name
    match (Assoc.get? key env).or (params.bind (Assoc.get? key)) with
    | some value => Shell.quoteIfUnsafe value.toList
    | none => '\x7b' :: name ++ ['\x7d']

/-- A text with its placeholders replaced. -/
def fill (env : Environment) (params : Option Environment) : List Char → List Char
  | [] => []
  | c :: cs =>
    match _h : placeholder? (c :: cs) with
    | some (p, rest) => substitute env params p ++ fill env params rest
    | none => c :: fill env params cs
termination_by cs => cs.length
decreasing_by
  · exact placeholder?_length _h
  · simp

/-- A string with its placeholders replaced. -/
def fillText (env : Environment) (params : Option Environment) (s : String) : String :=
  String.ofList (fill env params s.toList)

mutual

/-- A value with the placeholders in its strings replaced, keys excepted. -/
def fillValue (env : Environment) (params : Option Environment) : Value → Value
  | .string s => .string (fillText env params s)
  | .array items => .array (fillItems env params items)
  | .object members => .object (fillMembers env params members)
  | .null => .null
  | .bool b => .bool b
  | .number n => .number n

/-- The items of an array with their placeholders replaced. -/
def fillItems (env : Environment) (params : Option Environment) : List Value → List Value
  | [] => []
  | x :: xs => fillValue env params x :: fillItems env params xs

/-- The members of an object with their placeholders replaced. -/
def fillMembers (env : Environment) (params : Option Environment) :
    List (String × Value) → List (String × Value)
  | [] => []
  | (k, v) :: xs => (k, fillValue env params v) :: fillMembers env params xs

end

/-- The parameters of a configuration: its own scalars, with their variables expanded. -/
def parameters (config : Value) (env : Environment) : Environment :=
  match config with
  | .object members => Assoc.ofEntries (members.filterMap fun (k, v) =>
      v.scalar?.map fun raw => (k, env.expandText raw))
  | _ => []

/-- A configuration with its placeholders replaced. -/
def fillConfig (config : Value) (env : Environment) : Value :=
  fillValue env (some (parameters config env)) config

end Toolshed.Template
