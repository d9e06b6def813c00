import Toolshed.Proofs.Assoc
import Toolshed.Proofs.Template.Segments

/-!
# Templates in configurations

A configuration is filled in its strings, wherever they are, and stays as it is in everything else.
Its parameters are its own scalars, expanded and not quoted, so that no value is quoted twice.

Main statement: a template is filled segment by segment, and every place of a filled configuration
holds what that place of the configuration holds, filled if it is a string (`fill_once`).
-/

namespace Toolshed.Template

open Json

/-! ### Places -/

/-- What is at a place of a value, given by positions in arrays and objects. -/
def at? : List Nat → Value → Option Value
  | [], v => some v
  | i :: place, .array items => items[i]?.bind (at? place)
  | i :: place, .object members => members[i]?.bind fun (_, v) => at? place v
  | _ :: _, _ => none

/-- A value is what another one becomes at its own place when strings are filled: a string is
filled, an array keeps its length, an object keeps its keys in their order, and all else is the
same. -/
def IsFilledBy (fill : String → String) : Value → Value → Prop
  | .string s, v => v = .string (fill s)
  | .array items, v => ∃ filled, v = .array filled ∧ filled.length = items.length
  | .object members, v =>
    ∃ filled, v = .object filled ∧ filled.map Prod.fst = members.map Prod.fst
  | unfilled, v => v = unfilled

section

variable (env : Environment) (params : Option Environment)

theorem fillItems_eq_map (items : List Value) :
  fillItems env params items = items.map (fillValue env params)
  := by
  induction items with
  | nil => rfl
  | cons v items ih => rw [fillItems, ih, List.map_cons]

theorem fillMembers_eq_map (members : List (String × Value)) :
  fillMembers env params members = members.map fun (key, v) => (key, fillValue env params v)
  := by
  induction members with
  | nil => rfl
  | cons member members ih =>
      obtain ⟨key, v⟩ := member
      rw [fillMembers, ih, List.map_cons]

/-- Every place of a filled value holds the filled value of that place. -/
theorem at?_fillValue (place : List Nat) (v : Value) :
  at? place (fillValue env params v) = (at? place v).map (fillValue env params)
  := by
  induction place generalizing v with
  | nil => rfl
  | cons i place ih =>
      cases v with
      | array items =>
          rw [fillValue, fillItems_eq_map, at?, at?, List.getElem?_map]
          rcases items[i]? with _ | v
          · rfl
          · apply ih
      | object members =>
          rw [fillValue, fillMembers_eq_map, at?, at?, List.getElem?_map]
          rcases members[i]? with _ | ⟨key, v⟩
          · rfl
          · apply ih
      | _ => rfl

theorem isFilledBy_fillValue (v : Value) :
  IsFilledBy (fillText env params) v (fillValue env params v)
  := by
  cases v with
  | array items =>
      use fillItems env params items, rfl
      rw [fillItems_eq_map, List.length_map]
  | object members =>
      use fillMembers env params members, rfl
      rw [fillMembers_eq_map, List.map_map]
      rfl
  | _ => rfl

end

/-! ### Parameters -/

/-- The scalars at the top of a configuration, by their names. -/
def scalars : Value → List (String × String)
  | .object members => members.filterMap fun (key, v) => v.scalar?.map fun text => (key, text)
  | _ => []

/-- A parameter of a configuration is its scalar of that name, with its references expanded. -/
theorem get?_parameters (config : Value) (env : Environment) (name : String) :
  Assoc.get? name (parameters config env) = (Assoc.last? name (scalars config)).map env.expandText
  := by
  cases config with
  | object members =>
      rw [parameters, scalars, Assoc.get?_ofEntries, ← Assoc.last?_map, List.map_filterMap]
      congr 2
      funext member
      obtain ⟨key, v⟩ := member
      rw [Option.map_map]
      rfl
  | _ => rfl

/-! ### Filling once -/

/-- A template is filled segment by segment: literal text stays as it is, and every placeholder
gives way to its quoted value, which is not looked at again.  A configuration is filled in every
string, wherever it is, and changed in nothing else.  Its parameters are its own scalars, expanded
segment by segment without quotes. -/
theorem fill_once {row : List Segment} (proper : IsProper row) (env : Environment)
    (params : Option Environment) (config : Value) :
  fillText env params (String.ofList (written row))
      = String.ofList (row.flatMap (Segment.value env params))
    ∧ (∀ place, Option.Rel (IsFilledBy (fillText env (some (parameters config env))))
        (at? place config) (at? place (fillConfig config env)))
    ∧ (∀ name, Assoc.get? name (parameters config env)
        = (Assoc.last? name (scalars config)).map env.expandText)
    ∧ env.expandText (String.ofList (written row))
      = String.ofList (row.flatMap (Segment.plainValue env))
  := by
  refine ⟨?_, ?_, get?_parameters config env, ?_⟩
  · rw [fillText, String.toList_ofList, fill_written env params proper]
  · intro place
    rw [fillConfig, at?_fillValue]
    rcases at? place config with _ | v
    · apply Option.Rel.none
    · apply Option.Rel.some
      apply isFilledBy_fillValue
  · rw [Environment.expandText, String.toList_ofList, expand_written env proper]

/-- A template with stray dollar signs and braces. -/
def strayTemplate : List Segment :=
  [.literal "a $ \x7bb $".toList, .variable ⟨"X".toList, none⟩, .parameter "x".toList,
    .literal "\x7b".toList, .parameter "y".toList,
    .variable ⟨"Y\x7b".toList, some "$\x7b".toList⟩]

theorem isLiteral_of_not_mem {text : List Char} (plain : ¬ ['$', '\x7b'] <:+: text)
    (closed : '\x7d' ∉ text) :
  IsLiteral text
  := by
  use plain
  intro name _ among
  apply closed
  apply among.subset
  simp [writtenParameter]

theorem isProper_strayTemplate :
  IsProper strayTemplate
  := by
  constructor
  · simp only [strayTemplate, List.forall_mem_cons, List.not_mem_nil, false_implies, implies_true,
      and_true]
    refine ⟨?_, ?_, ?_, ?_, ?_, ?_⟩
    · apply isLiteral_of_not_mem
      · decide +kernel
      · decide
    · constructor
      · decide
      · exact List.all_eq_true.mp rfl
      · rintro default ⟨⟩
    · constructor
      · decide
      · exact List.all_eq_true.mp rfl
    · apply isLiteral_of_not_mem
      · decide +kernel
      · decide
    · constructor
      · decide
      · exact List.all_eq_true.mp rfl
    · constructor
      · decide
      · exact List.all_eq_true.mp rfl
      · rintro default ⟨⟩
        decide
  · simp [strayTemplate, Segment.Fits]

/-- Stray dollar signs and braces stay, beside placeholders that are filled and one that is not. -/
theorem fill_once_strayTemplate :
  IsProper strayTemplate ∧
    fillText [("X", "1 2"), ("y", "\x7d")] none
        "a $ \x7bb $$\x7bX\x7d\x7bx\x7d\x7b\x7by\x7d$\x7bY\x7b:-$\x7b\x7d"
      = "a $ \x7bb $'1 2'\x7bx\x7d\x7b'\x7d''$\x7b'"
  := by
  use isProper_strayTemplate
  have text : String.ofList (written strayTemplate)
      = "a $ \x7bb $$\x7bX\x7d\x7bx\x7d\x7b\x7by\x7d$\x7bY\x7b:-$\x7b\x7d" := by
    decide +kernel
  rw [← text, (fill_once isProper_strayTemplate _ none .null).1]
  decide +kernel

end Toolshed.Template
