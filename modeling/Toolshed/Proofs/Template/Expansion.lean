import Toolshed.Proofs.Assoc
import Toolshed.Proofs.Template.Segments

/-!
# Filling and expanding

A text is filled placeholder by placeholder, and it is expanded reference by reference.  The two
scans keep in step: no reference begins inside of a parameter, and where a dollar sign stands
directly before a parameter both scans have read a reference already.

Main statements: a text is expanded by the pieces that it is filled by (`expand_eq_flatMap`), so
that filling and expanding come to the same when nothing needs quotes and no parameter is bound
(`fillText_eq_expandText`).
-/

namespace Toolshed.Template

open Environment (Reference)

/-! ### Where placeholders stand -/

/-- A placeholder may come after a text: a reference always, and a parameter if no dollar sign is
directly before it. -/
def Placeholder.comesAfter (before : List Char) : Placeholder → Bool
  | .variable _ => true
  | .parameter _ => before.getLast? != some '$'

/-- A placeholder stands in a text after which it may come there. -/
def Placeholder.Stands (p : Placeholder) (text : List Char) : Prop :=
  ∃ before after, text = before ++ p.written ++ after ∧ p.comesAfter before = true

/-- A placeholder at the beginning of a text stands in it. -/
theorem Placeholder.stands_append (p : Placeholder) (rest : List Char) :
  p.Stands (p.written ++ rest)
  := by
  use [], rest, rfl
  rcases p with r | name
  · rfl
  · rfl

/-- A placeholder stands in a longer text, too, unless what comes before makes something else of
it. -/
theorem Placeholder.Stands.append {p : Placeholder} {text : List Char} (stands : p.Stands text)
    {front : List Char} (follows : p.written <+: text → p.comesAfter front = true) :
  p.Stands (front ++ text)
  := by
  obtain ⟨before, after, rfl, last⟩ := stands
  use front ++ before, after
  constructor
  · simp only [List.append_assoc]
  · rcases p with r | name
    · rfl
    · rcases List.eq_nil_or_concat before with rfl | ⟨before, c, rfl⟩
      · rw [List.append_nil]
        apply follows
        apply List.prefix_append
      · simpa [Placeholder.comesAfter] using last

/-- No placeholder ends with a dollar sign. -/
theorem Placeholder.getLast?_written (p : Placeholder) :
  p.written.getLast? = some '\x7d'
  := by
  rcases p with r | name
  · rw [Placeholder.written, Reference.written, List.getLast?_concat]
  · rw [Placeholder.written, writtenParameter, List.getLast?_concat]

/-- The name of a parameter may be the name of a variable. -/
theorem IsIdentifier.isProper {name : List Char} (identifier : IsIdentifier name) :
  (Reference.mk name none).IsProper
  := by
  constructor
  · rintro rfl
    cases identifier
  · intro c among
    have inName := identifier.isNameChar c among
    rw [Environment.isNameChar, Bool.and_eq_true, decide_eq_true_eq, decide_eq_true_eq]
    constructor
    · rintro rfl
      revert inName
      decide
    · rintro rfl
      revert inName
      decide
  · rintro default ⟨⟩

/-- With a dollar sign before it, a parameter is a reference. -/
theorem placeholder?_dollar {name : List Char} (identifier : IsIdentifier name)
    (rest : List Char) :
  placeholder? ('$' :: (writtenParameter name ++ rest)) = some (.variable ⟨name, none⟩, rest)
  := by
  apply placeholder?_eq_some.mpr
  constructor
  · simp [Placeholder.written, Reference.written, Reference.writtenDefault, writtenParameter]
  · apply identifier.isProper

/-- What is a piece of a text stands in it. -/
theorem stands_of_mem_pieces {p : Placeholder} {text : List Char}
    (among : .placeholder p ∈ pieces text) :
  p.IsProper ∧ p.Stands text
  := by
  induction text using pieces.induct with
  | case1 =>
      rw [pieces] at among
      cases among
  | case2 c cs p' rest h ih =>
      obtain ⟨whole, proper⟩ := placeholder?_eq_some.mp h
      rw [pieces_of_placeholder h] at among
      rw [whole]
      rcases List.mem_cons.mp among with same | among
      · cases same
        use proper
        apply p.stands_append
      · obtain ⟨proper', stands⟩ := ih among
        use proper'
        apply stands.append
        intro
        rcases p with r | name
        · rfl
        · rw [Placeholder.comesAfter, p'.getLast?_written]
          rfl
  | case3 c cs h ih =>
      rw [pieces_of_character h] at among
      rcases List.mem_cons.mp among with ⟨⟨⟩⟩ | among
      obtain ⟨proper, stands⟩ := ih among
      use proper
      rw [← List.singleton_append]
      apply stands.append
      rintro ⟨after, rfl⟩
      rcases p with r | name
      · rfl
      · -- A dollar sign before a parameter is no piece of its own.
        have other : c ≠ '$' := by
          rintro rfl
          rw [Placeholder.written, placeholder?_dollar proper] at h
          cases h
        simpa [Placeholder.comesAfter] using other

/-! ### Expanding piece by piece -/

section

variable (env : Environment)

/-- What expansion puts in place of a piece: the value of a variable, and all else as it is
written. -/
def Piece.plainText : Piece → List Char
  | .character c => [c]
  | .placeholder (.variable r) => env.valueOf r
  | .placeholder (.parameter name) => writtenParameter name

/-- Expanding a text is expanding the pieces that it is filled by. -/
theorem expand_eq_flatMap (text : List Char) :
  env.expand text = (pieces text).flatMap (Piece.plainText env)
  := by
  induction text using pieces.induct with
  | case1 => rw [Environment.expand, pieces, List.flatMap_nil]
  | case2 c cs p rest h ih =>
      obtain ⟨whole, proper⟩ := placeholder?_eq_some.mp h
      rw [pieces_of_placeholder h, List.flatMap_cons, ← ih, whole]
      rcases p with r | name
      · apply env.expand_written proper
      · apply expand_parameter env proper
  | case3 c cs h ih =>
      have character : Environment.reference? (c :: cs) = none := by
        rw [Option.eq_none_iff_forall_ne_some]
        rintro ⟨r, rest⟩ found
        rw [placeholder?, found] at h
        cases h
      rw [pieces_of_character h, List.flatMap_cons, ← ih,
        Environment.expand_of_character env character]
      rfl

/-! ### Where nothing needs quotes -/

/-- Nothing that is put into a text needs quotes, neither the values of the variables nor the
defaults that stand in the text, and no parameter that stands there is bound. -/
structure IsPlain (text : List Char) : Prop where
  values : ∀ entry ∈ env, Shell.needsQuoting entry.2.toList = false
  defaults : ∀ r : Reference, r.IsProper → (Placeholder.variable r).Stands text →
    ∀ default ∈ r.default, Shell.needsQuoting default = false
  unbound : ∀ name, IsIdentifier name → (Placeholder.parameter name).Stands text →
    Assoc.get? (String.ofList name) env = none

variable {env}

theorem quoteIfUnsafe_of_plain {value : List Char} (plain : Shell.needsQuoting value = false) :
  Shell.quoteIfUnsafe value = value
  := by
  rw [Shell.quoteIfUnsafe, plain]
  rfl

theorem IsPlain.needsQuoting_valueOf {text : List Char} (plain : IsPlain env text) {r : Reference}
    (proper : r.IsProper) (stands : (Placeholder.variable r).Stands text) :
  Shell.needsQuoting (env.valueOf r) = false
  := by
  rw [Environment.valueOf]
  split
  · next value found => apply plain.values _ (Assoc.mem_of_get? found)
  · have default := plain.defaults r proper stands
    rcases r with ⟨name, _ | text⟩
    · rfl
    · apply default text rfl

/-- Filling a text and expanding it come to the same, whatever is left open, nested or malformed in
it, when nothing needs quotes and no parameter is bound. -/
theorem fillText_eq_expandText {text : String} (plain : IsPlain env text.toList) :
  fillText env none text = env.expandText text
  := by
  rw [fillText, Environment.expandText, fill_eq_flatMap, expand_eq_flatMap]
  congr 1
  apply List.flatMap_congr
  rintro (c | r | name) among
  · rfl
  · obtain ⟨proper, stands⟩ := stands_of_mem_pieces among
    apply quoteIfUnsafe_of_plain
    apply plain.needsQuoting_valueOf proper stands
  · obtain ⟨identifier, stands⟩ := stands_of_mem_pieces among
    have free := plain.unbound name identifier stands
    simp only [Piece.text, substitute, free, Option.none_or, Option.bind_none]
    rfl

end

/-! ### Finding what stands in a text -/

/-- The placeholders that stand in a text. -/
def standing (text : List Char) : List Placeholder :=
  (List.range text.length).filterMap fun i =>
    ((placeholder? (text.drop i)).map Prod.fst).filter (Placeholder.comesAfter (text.take i))

theorem mem_standing {p : Placeholder} {text : List Char} :
  p ∈ standing text ↔ p.IsProper ∧ p.Stands text
  := by
  simp only [standing, List.mem_filterMap, List.mem_range, Option.filter_eq_some_iff,
    Option.map_eq_some_iff]
  constructor
  · rintro ⟨i, -, ⟨⟨p, rest⟩, found, rfl⟩, follows⟩
    obtain ⟨whole, proper⟩ := placeholder?_eq_some.mp found
    use proper, text.take i, rest
    constructor
    · rw [List.append_assoc, ← whole, List.take_append_drop]
    · apply follows
  · rintro ⟨proper, before, after, rfl, follows⟩
    use before.length
    have nonempty : p.written ≠ [] := by
      intro empty
      have last := p.getLast?_written
      rw [empty] at last
      cases last
    have found : placeholder? (p.written ++ after) = some (p, after) := by
      apply placeholder?_eq_some.mpr ⟨rfl, proper⟩
    rw [List.append_assoc, List.drop_left, List.take_left, found]
    refine ⟨?_, ⟨_, rfl, rfl⟩, follows⟩
    have := List.length_pos_iff.mpr nonempty
    simp only [List.length_append]
    omega

/-- A placeholder is plain: its default needs no quotes, and a parameter is not bound. -/
def Placeholder.isPlain (env : Environment) : Placeholder → Bool
  | .variable r => r.default.all fun default => !Shell.needsQuoting default
  | .parameter name => (Assoc.get? (String.ofList name) env).isNone

instance (env : Environment) (text : List Char) : Decidable (IsPlain env text) :=
  decidable_of_iff ((∀ entry ∈ env, Shell.needsQuoting entry.2.toList = false)
      ∧ ∀ p ∈ standing text, p.isPlain env = true) <| by
    constructor
    · rintro ⟨values, plain⟩
      constructor
      · apply values
      · intro r proper stands default among
        have := plain (.variable r) (mem_standing.mpr ⟨proper, stands⟩)
        rw [Placeholder.isPlain, Option.mem_def.mp among] at this
        simpa using this
      · intro name identifier stands
        have := plain (.parameter name) (mem_standing.mpr ⟨identifier, stands⟩)
        rwa [Placeholder.isPlain, Option.isNone_iff_eq_none] at this
    · rintro ⟨values, defaults, unbound⟩
      use values
      intro p among
      obtain ⟨proper, stands⟩ := mem_standing.mp among
      rcases p with r | name
      · simpa [Placeholder.isPlain, Option.all_eq_true] using defaults r proper stands
      · simpa [Placeholder.isPlain] using unbound name proper stands

/-- A reference with a value and one with a default, a parameter that is not bound, and braces that
are empty, nested and left open. -/
def nestedText : String :=
  "$\x7bX\x7d\x7by\x7d$\x7bY:-d\x7d$\x7b\x7d$\x7ba$\x7bX\x7d$\x7bX"

theorem fillText_eq_expandText_nestedText :
  IsPlain [("X", "v")] nestedText.toList ∧
    fillText [("X", "v")] none nestedText = Environment.expandText [("X", "v")] nestedText ∧
    Environment.expandText [("X", "v")] nestedText = "v\x7by\x7dd$\x7b\x7d$\x7bX"
  := by
  have plain : IsPlain [("X", "v")] nestedText.toList := by
    decide +kernel
  use plain, fillText_eq_expandText plain
  decide +kernel

end Toolshed.Template
