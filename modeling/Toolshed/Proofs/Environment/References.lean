import Toolshed.Environment.Expansion
import Toolshed.Proofs.Text.Runs

/-!
# References as they are written

A reference is read exactly where one is written: `reference?` finds a reference in front of a
text if and only if the text begins with the way in which that reference is written.
-/

namespace Toolshed.Environment

open Text (Stops)

/-- What is written after the name of a reference. -/
def Reference.writtenDefault (r : Reference) : List Char :=
  match r.default with
  | none => []
  | some default => ':' :: '-' :: default

/-- A reference as it is written. -/
def Reference.written (r : Reference) : List Char :=
  '$' :: '\x7b' :: r.name ++ r.writtenDefault ++ ['\x7d']

/-- A reference that can be written: its name is not empty and ends where it should, and so does its
default. -/
structure Reference.IsProper (r : Reference) : Prop where
  named : r.name ≠ []
  name : ∀ c ∈ r.name, isNameChar c = true
  default : ∀ default ∈ r.default, '\x7d' ∉ default

/-- What follows a name is a default that is written there, or nothing, and the end. -/
theorem afterName?_eq_some {name cs rest : List Char} {r : Reference} :
  afterName? name cs = some (r, rest)
    ↔ r.name = name ∧ cs = r.writtenDefault ++ '\x7d' :: rest
      ∧ ∀ default ∈ r.default, '\x7d' ∉ default
  := by
  constructor
  · intro h
    rw [afterName?.eq_def] at h
    split at h
    · cases h
      simp [Reference.writtenDefault]
    · obtain ⟨⟨default, rest'⟩, cut, same⟩ := Option.map_eq_some_iff.mp h
      cases same
      obtain ⟨rfl, free⟩ := Text.cutAt?_eq_some.mp cut
      simp [Reference.writtenDefault, free]
    · cases h
  · obtain ⟨name', _ | default⟩ := r
    · rintro ⟨rfl, rfl, -⟩
      rfl
    · rintro ⟨rfl, rfl, proper⟩
      apply Option.map_eq_some_iff.mpr
      use (default, rest)
      constructor
      · apply Text.cutAt?_eq_some.mpr
        use rfl, proper default rfl
      · rfl

/-- No name goes on with what is written after it. -/
theorem stops_writtenDefault (r : Reference) (rest : List Char) :
  Stops isNameChar (r.writtenDefault ++ '\x7d' :: rest)
  := by
  obtain ⟨name, _ | default⟩ := r
  · simp [Stops, Reference.writtenDefault, isNameChar]
  · simp [Stops, Reference.writtenDefault, isNameChar]

/-- A reference is in front of a text exactly when the text begins as the reference is written. -/
theorem reference?_eq_some {cs rest : List Char} {r : Reference} :
  reference? cs = some (r, rest) ↔ cs = r.written ++ rest ∧ r.IsProper
  := by
  constructor
  · intro h
    rw [reference?.eq_def] at h
    split at h
    · next text =>
        split at h
        · cases h
        · next named =>
            obtain ⟨name, after, default⟩ := afterName?_eq_some.mp h
            have whole : text = r.name ++ (r.writtenDefault ++ '\x7d' :: rest) := by
              rw [name, ← after, List.takeWhile_append_dropWhile]
            constructor
            · simp [Reference.written, whole]
            · refine ⟨?_, ?_, default⟩
              · rw [name]
                simpa using named
              · intro c among
                rw [name] at among
                apply List.mem_takeWhile_imp among
    · cases h
  · rintro ⟨rfl, proper⟩
    have whole : r.written ++ rest
        = '$' :: '\x7b' :: (r.name ++ (r.writtenDefault ++ '\x7d' :: rest)) := by
      simp [Reference.written]
    rw [whole, reference?, Text.takeWhile_append_stops proper.name (stops_writtenDefault r rest),
      Text.dropWhile_append_stops proper.name (stops_writtenDefault r rest), if_neg]
    · apply afterName?_eq_some.mpr
      use rfl, rfl, proper.default
    · rw [List.isEmpty_iff]
      apply proper.named

/-! ### Expansion -/

section

variable (env : Environment) {c : Char} {cs rest : List Char} {r : Reference}

theorem expand_of_reference (h : reference? (c :: cs) = some (r, rest)) :
  env.expand (c :: cs) = env.valueOf r ++ env.expand rest
  := by
  rw [expand]
  split
  · next found =>
      cases h.symm.trans found
      rfl
  · next found => cases h.symm.trans found

theorem expand_of_character (h : reference? (c :: cs) = none) :
  env.expand (c :: cs) = c :: env.expand cs
  := by
  rw [expand]
  split
  · next found => cases h.symm.trans found
  · rfl

/-- A reference gives way to its value, which is not looked at again. -/
theorem expand_written (proper : r.IsProper) (rest : List Char) :
  env.expand (r.written ++ rest) = env.valueOf r ++ env.expand rest
  := by
  apply expand_of_reference
  apply reference?_eq_some.mpr ⟨rfl, proper⟩

end

/-- A text makes no reference with what follows: it does not end as a reference begins, or what
follows does not go on so. -/
def Closes (text rest : List Char) : Prop :=
  text.getLast? = some '$' → rest.head? ≠ some '\x7b'

theorem Closes.of_cons {c : Char} {text rest : List Char} (closes : Closes (c :: text) rest) :
  Closes text rest
  := by
  intro dollar
  apply closes
  rw [List.getLast?_cons, dollar]
  rfl

/-- Without a dollar sign before a brace, and closed, a text begins with no reference. -/
theorem reference?_eq_none {c : Char} {text rest : List Char}
    (plain : ¬ ['$', '\x7b'] <:+: c :: text) (closes : Closes (c :: text) rest) :
  reference? (c :: text ++ rest) = none
  := by
  rw [Option.eq_none_iff_forall_ne_some]
  rintro ⟨r, after⟩ found
  obtain ⟨same, -⟩ := reference?_eq_some.mp found
  rw [Reference.written] at same
  simp only [List.cons_append, List.cons.injEq] at same
  obtain ⟨rfl, same⟩ := same
  rcases text with _ | ⟨d, text⟩
  · apply closes rfl
    rw [List.nil_append] at same
    rw [same]
    rfl
  · obtain ⟨rfl, -⟩ := List.cons.inj same
    apply plain
    apply List.IsPrefix.isInfix
    use text
    rfl

/-- A text in which no reference is written stays as it is. -/
theorem expand_append (env : Environment) {text rest : List Char}
    (plain : ¬ ['$', '\x7b'] <:+: text) (closes : Closes text rest) :
  env.expand (text ++ rest) = text ++ env.expand rest
  := by
  induction text with
  | nil => rfl
  | cons c text ih =>
      have character := reference?_eq_none plain closes
      rw [List.cons_append] at character ⊢
      rw [expand_of_character env character, ih _ closes.of_cons]
      · rfl
      · intro among
        apply plain (among.trans (List.suffix_cons c text).isInfix)

end Toolshed.Environment
