import Toolshed.Proofs.Environment.References
import Toolshed.Proofs.Template.Pieces

/-!
# Templates as they are written

A template is written as a row of segments: literal text, references to variables and parameters in
braces.  Literal text may hold stray dollar signs and braces, as long as they make no placeholder.

Main statements: filling what is written leaves literal text as it is and puts the quoted value, or
what stands in for it, in place of every other segment (`fill_written`); expansion does so for the
references only, and quotes nothing (`expand_written`).
-/

namespace Toolshed.Template

open Environment (Reference)
open Text (Stops)

/-! ### Segments -/

/-- The name of a parameter. -/
def IsIdentifier : List Char → Prop
  | [] => False
  | c :: rest => isNameStart c = true ∧ ∀ d ∈ rest, isNameChar d = true

/-- A parameter as it is written. -/
def writtenParameter (name : List Char) : List Char :=
  '\x7b' :: name ++ ['\x7d']

/-- No placeholder is written in a text. -/
structure IsLiteral (text : List Char) : Prop where
  noReference : ¬ ['$', '\x7b'] <:+: text
  noParameter : ∀ name, IsIdentifier name → ¬ writtenParameter name <:+: text

/-- A segment of a template. -/
inductive Segment where
  | literal (text : List Char)
  | variable (reference : Reference)
  | parameter (name : List Char)

namespace Segment

/-- A segment as it is written. -/
def written : Segment → List Char
  | .literal text => text
  | .variable reference => reference.written
  | .parameter name => writtenParameter name

/-- A segment that can be written. -/
def IsProper : Segment → Prop
  | .literal text => IsLiteral text
  | .variable reference => reference.IsProper
  | .parameter name => IsIdentifier name

/-- A segment can be written before another one: literal text is not followed by literal text, and a
dollar sign at its end is not followed by a parameter, with which it would make a reference. -/
def Fits : Segment → Segment → Prop
  | .literal _, .literal _ => False
  | .literal text, .parameter _ => text.getLast? ≠ some '$'
  | _, _ => True

/-- What a filled template has in place of a segment. -/
def value (env : Environment) (params : Option Environment) : Segment → List Char
  | .literal text => text
  | .variable reference =>
    match Assoc.get? (String.ofList reference.name) env with
    | some value => Shell.quoteIfUnsafe value.toList
    | none => Shell.quoteIfUnsafe (reference.default.getD [])
  | .parameter name =>
    match Assoc.get? (String.ofList name) env, params.bind (Assoc.get? (String.ofList name)) with
    | some value, _ => Shell.quoteIfUnsafe value.toList
    | none, some value => Shell.quoteIfUnsafe value.toList
    | none, none => writtenParameter name

/-- What an expanded text has in place of a segment. -/
def plainValue (env : Environment) : Segment → List Char
  | .literal text => text
  | .variable reference =>
    match Assoc.get? (String.ofList reference.name) env with
    | some value => value.toList
    | none => reference.default.getD []
  | .parameter name => writtenParameter name

end Segment

/-- A row of segments that can be written. -/
structure IsProper (row : List Segment) : Prop where
  each : ∀ s ∈ row, s.IsProper
  chain : row.IsChain Segment.Fits

/-- A row of segments as it is written. -/
def written (row : List Segment) : List Char :=
  row.flatMap Segment.written

/-! ### Placeholders in front -/

/-- A parameter is in front of a text exactly when the text begins as the parameter is written. -/
theorem parameter?_eq_some {cs name rest : List Char} :
  parameter? cs = some (name, rest) ↔ cs = writtenParameter name ++ rest ∧ IsIdentifier name
  := by
  constructor
  · intro h
    rw [parameter?.eq_def] at h
    split at h
    · next c text =>
        split at h
        · next first =>
            split at h
            · next after ends =>
                cases h
                constructor
                · have whole : text = text.takeWhile isNameChar ++ '\x7d' :: rest := by
                    rw [← ends, List.takeWhile_append_dropWhile]
                  simpa [writtenParameter] using whole
                · use first
                  intro d among
                  apply List.mem_takeWhile_imp among
            · cases h
        · cases h
    · cases h
  · rcases name with _ | ⟨c, name⟩
    · rintro ⟨-, ⟨⟩⟩
    · rintro ⟨rfl, first, others⟩
      have stops : Stops isNameChar ('\x7d' :: rest) := by
        simp [Stops, isNameChar]
      have whole : writtenParameter (c :: name) ++ rest
          = '\x7b' :: c :: (name ++ '\x7d' :: rest) := by
        simp [writtenParameter]
      rw [whole, parameter?, if_pos first, Text.dropWhile_append_stops others stops,
        Text.takeWhile_append_stops others stops]
      rfl

/-- A placeholder as it is written. -/
def Placeholder.written : Placeholder → List Char
  | .variable reference => reference.written
  | .parameter name => writtenParameter name

/-- A placeholder that can be written. -/
def Placeholder.IsProper : Placeholder → Prop
  | .variable reference => reference.IsProper
  | .parameter name => IsIdentifier name

/-- A placeholder is in front of a text exactly when the text begins as the placeholder is
written. -/
theorem placeholder?_eq_some {cs rest : List Char} {p : Placeholder} :
  placeholder? cs = some (p, rest) ↔ cs = p.written ++ rest ∧ p.IsProper
  := by
  constructor
  · intro h
    rw [placeholder?] at h
    split at h
    · next found =>
        cases h
        apply Environment.reference?_eq_some.mp found
    · obtain ⟨⟨name, rest'⟩, found, same⟩ := Option.map_eq_some_iff.mp h
      cases same
      apply parameter?_eq_some.mp found
  · rintro ⟨rfl, proper⟩
    rcases p with reference | name
    · rw [placeholder?, Placeholder.written, Environment.reference?_eq_some.mpr ⟨rfl, proper⟩]
    · rw [placeholder?, Placeholder.written, parameter?_eq_some.mpr ⟨rfl, proper⟩]
      rfl

/-- A text makes no placeholder with what follows: that does not begin as the text could go on. -/
def Closes (text rest : List Char) : Prop :=
  ∀ c ∈ rest.head?, c = '$' ∨ c = '\x7b' ∧ text.getLast? ≠ some '$'

theorem IsLiteral.of_cons {c : Char} {text : List Char} (literal : IsLiteral (c :: text)) :
  IsLiteral text
  := by
  constructor
  · intro among
    apply literal.noReference
    apply among.trans (List.suffix_cons c text).isInfix
  · intro name identifier among
    apply literal.noParameter name identifier
    apply among.trans (List.suffix_cons c text).isInfix

theorem Closes.of_cons {c : Char} {text rest : List Char} (closes : Closes (c :: text) rest) :
  Closes text rest
  := by
  intro d first
  rcases closes d first with dollar | ⟨brace, last⟩
  · exact .inl dollar
  · right
    use brace
    intro dollar
    apply last
    rw [List.getLast?_cons, dollar]
    rfl

theorem Closes.reference {text rest : List Char} (closes : Closes text rest) :
  Environment.Closes text rest
  := by
  intro last first
  rcases closes _ first with ⟨⟨⟩⟩ | ⟨-, other⟩
  apply other last

theorem IsIdentifier.isNameChar {name : List Char} (identifier : IsIdentifier name) :
  ∀ c ∈ name, isNameChar c = true
  := by
  rcases name with _ | ⟨first, others⟩
  · cases identifier
  · obtain ⟨start, rest⟩ := identifier
    intro c among
    rcases List.mem_cons.mp among with rfl | among
    · rw [isNameStart, Bool.or_eq_true] at start
      rw [Template.isNameChar, Char.isAlphanum, Bool.or_eq_true, Bool.or_eq_true]
      exact start.imp_left .inl
    · apply rest c among

/-- A parameter is written without a dollar sign. -/
theorem IsIdentifier.dollar_not_mem {name : List Char} (identifier : IsIdentifier name) :
  '$' ∉ writtenParameter name
  := by
  intro among
  rcases List.mem_append.mp among with among | last
  · rcases List.mem_cons.mp among with brace | among
    · cases brace
    · have := identifier.isNameChar '$' among
      revert this
      decide
  · cases List.mem_singleton.mp last

/-- No parameter is written at the beginning of literal text. -/
theorem IsLiteral.parameter?_eq_none {c : Char} {text rest : List Char}
    (literal : IsLiteral (c :: text)) (closes : Closes (c :: text) rest) :
  parameter? (c :: text ++ rest) = none
  := by
  rw [Option.eq_none_iff_forall_ne_some]
  rintro ⟨name, after⟩ found
  obtain ⟨same, identifier⟩ := parameter?_eq_some.mp found
  rcases List.append_eq_append_iff.mp same with ⟨between, whole, follows⟩ | ⟨between, whole, -⟩
  · rcases between with _ | ⟨d, between⟩
    · apply literal.noParameter name identifier
      simp only [whole, List.append_nil, List.infix_refl]
    · -- The parameter goes on beyond the text, with a character that nothing after it begins with.
      have inside : d ∈ name ++ ['\x7d'] := by
        rw [writtenParameter, List.cons_append, List.cons_append, List.cons.injEq] at whole
        rw [whole.2]
        simp
      have begins : d = '$' ∨ d = '\x7b' := by
        rcases closes d (by rw [follows]; rfl) with dollar | ⟨brace, -⟩
        · exact .inl dollar
        · exact .inr brace
      rcases List.mem_append.mp inside with among | last
      · have := identifier.isNameChar d among
        rcases begins with rfl | rfl
        · revert this
          decide
        · revert this
          decide
      · obtain rfl := List.mem_singleton.mp last
        revert begins
        decide
  · apply literal.noParameter name identifier
    rw [whole]
    apply (List.prefix_append _ _).isInfix

theorem IsLiteral.placeholder?_eq_none {c : Char} {text rest : List Char}
    (literal : IsLiteral (c :: text)) (closes : Closes (c :: text) rest) :
  placeholder? (c :: text ++ rest) = none
  := by
  rw [placeholder?, Environment.reference?_eq_none literal.noReference closes.reference,
    literal.parameter?_eq_none closes]
  rfl

/-! ### Filling -/

section

variable (env : Environment) (params : Option Environment)

/-- Literal text stays as it is. -/
theorem fill_literal {text rest : List Char} (literal : IsLiteral text)
    (closes : Closes text rest) :
  fill env params (text ++ rest) = text ++ fill env params rest
  := by
  induction text with
  | nil => rfl
  | cons c text ih =>
      have character := literal.placeholder?_eq_none closes
      rw [List.cons_append] at character ⊢
      rw [fill_of_character env params character, ih literal.of_cons closes.of_cons]
      rfl

/-- A reference gives way to the quoted value. -/
theorem fill_reference {reference : Reference} (proper : reference.IsProper) (rest : List Char) :
  fill env params (reference.written ++ rest)
    = (Segment.variable reference).value env params ++ fill env params rest
  := by
  have front : placeholder? (reference.written ++ rest) = some (.variable reference, rest) := by
    exact placeholder?_eq_some.mpr ⟨rfl, proper⟩
  have value : substitute env params (.variable reference)
      = (Segment.variable reference).value env params := by
    rw [substitute, Environment.valueOf, Segment.value]
    rcases Assoc.get? (String.ofList reference.name) env with _ | value
    · rfl
    · rfl
  rw [← value]
  apply fill_of_placeholder env params front

/-- A parameter gives way to the quoted value, or stays as it is. -/
theorem fill_parameter {name : List Char} (identifier : IsIdentifier name) (rest : List Char) :
  fill env params (writtenParameter name ++ rest)
    = (Segment.parameter name).value env params ++ fill env params rest
  := by
  have front : placeholder? (writtenParameter name ++ rest) = some (.parameter name, rest) := by
    exact placeholder?_eq_some.mpr ⟨rfl, identifier⟩
  have value : substitute env params (.parameter name)
      = (Segment.parameter name).value env params := by
    rw [substitute, Segment.value]
    rcases Assoc.get? (String.ofList name) env with _ | value
    · rcases params.bind (Assoc.get? (String.ofList name)) with _ | value
      · rfl
      · rfl
    · rfl
  rw [← value]
  apply fill_of_placeholder env params front

end

/-- What is written after a segment closes it. -/
theorem closes_of_fits {text : List Char} {row : List Segment}
    (proper : IsProper (.literal text :: row)) :
  Closes text (written row)
  := by
  rcases row with _ | ⟨⟨other⟩ | ⟨reference⟩ | ⟨name⟩, row⟩
  · rintro c ⟨⟩
  · cases (List.isChain_cons_cons.mp proper.chain).1
  · intro c first
    left
    symm
    simpa [written, Segment.written, Reference.written] using first
  · intro c first
    right
    constructor
    · symm
      simpa [written, Segment.written, writtenParameter] using first
    · apply (List.isChain_cons_cons.mp proper.chain).1

theorem IsProper.of_cons {s : Segment} {row : List Segment} (proper : IsProper (s :: row)) :
  s.IsProper ∧ IsProper row
  := by
  obtain ⟨first, others⟩ := List.forall_mem_cons.mp proper.each
  use first, others
  apply proper.chain.of_cons

/-- Filling what is written fills every segment in its place. -/
theorem fill_written (env : Environment) (params : Option Environment) {row : List Segment}
    (proper : IsProper row) :
  fill env params (written row) = row.flatMap (Segment.value env params)
  := by
  induction row with
  | nil => rw [written, List.flatMap_nil, fill, List.flatMap_nil]
  | cons s row ih =>
      obtain ⟨first, others⟩ := proper.of_cons
      rw [written, List.flatMap_cons, ← written, List.flatMap_cons, ← ih others]
      rcases s with text | reference | name
      · apply fill_literal env params first (closes_of_fits proper)
      · apply fill_reference env params first
      · apply fill_parameter env params first

/-- A parameter is not expanded. -/
theorem expand_parameter (env : Environment) {name : List Char} (identifier : IsIdentifier name)
    (rest : List Char) :
  env.expand (writtenParameter name ++ rest) = writtenParameter name ++ env.expand rest
  := by
  have noDollar := identifier.dollar_not_mem
  apply env.expand_append
  · intro among
    apply noDollar (among.subset List.mem_cons_self)
  · intro last
    exfalso
    apply noDollar (List.mem_of_getLast? last)

/-- Expanding what is written puts the values of the variables in place of the references, and
leaves everything else as it is. -/
theorem expand_written (env : Environment) {row : List Segment} (proper : IsProper row) :
  env.expand (written row) = row.flatMap (Segment.plainValue env)
  := by
  induction row with
  | nil => rw [written, List.flatMap_nil, Environment.expand, List.flatMap_nil]
  | cons s row ih =>
      obtain ⟨first, others⟩ := proper.of_cons
      rw [written, List.flatMap_cons, ← written, List.flatMap_cons, ← ih others]
      rcases s with text | reference | name
      · apply env.expand_append first.noReference (closes_of_fits proper).reference
      · rw [Segment.written, env.expand_written first]
        rfl
      · apply expand_parameter env first

end Toolshed.Template
