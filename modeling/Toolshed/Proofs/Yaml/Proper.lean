import Toolshed.Frontmatter
import Toolshed.Proofs.Json.Proper

/-!
# Documents are read as proper values

The numbers of scalars are proper, and the members of a mapping are put together without a repeated
key.  A reader of values is taken apart into its steps; what it gives follows from what they give.
-/

namespace Toolshed.Yaml

open Json

/-! ### Scalars -/

theorem isProper_of_exactNumber? {n : Int} {v : Value} (h : exactNumber? n = some v) :
  v.IsProper
  := by
  rw [exactNumber?] at h
  split at h
  · next bounds =>
      cases h
      apply Value.IsProper.number (n := .int n) bounds
  · cases h

theorem isFinite_of_real? {negative : Bool} {cs : List Char} {x : Binary64}
    (h : Decimal.real? negative cs = some x) :
  x.isFinite = true
  := by
  rw [Decimal.real?] at h
  split at h
  next fraction others _ =>
  obtain ⟨⟨exponent, rest⟩, -, h⟩ := Option.bind_eq_some_iff.mp h
  dsimp only at h
  split at h
  · cases h
  · split at h
    · next finite =>
        cases h
        apply finite
    · cases h

theorem isProper_of_real? {cs : List Char} {v : Value} (h : real? cs = some v) :
  v.IsProper
  := by
  rw [real?] at h
  split at h
  · cases h
    apply Value.IsProper.null
  · obtain ⟨x, finite, rfl⟩ := Option.map_eq_some_iff.mp h
    apply Value.IsProper.number (n := .real x) (isFinite_of_real? finite)

theorem isProper_of_plainValue? {cs : List Char} {v : Value} (h : plainValue? cs = some v) :
  v.IsProper
  := by
  rw [plainValue?] at h
  split at h
  · cases h
    apply Value.IsProper.null
  · split at h
    · cases h
      apply Value.IsProper.bool
    · apply isProper_of_exactNumber? h
    · dsimp only at h
      cases h
      split
      · apply Value.IsProper.string
      · cases found : real? cs with
        | none => apply Value.IsProper.string
        | some v => apply isProper_of_real? found

theorem Kind.isProper_of_value? {kind : Kind} {cs : List Char} {v : Value}
    (h : kind.value? cs = some v) :
  v.IsProper
  := by
  cases kind with
  | bool =>
      obtain ⟨b, -, rfl⟩ := Option.map_eq_some_iff.mp h
      apply Value.IsProper.bool
  | int =>
      obtain ⟨n, -, exact⟩ := Option.bind_eq_some_iff.mp h
      apply isProper_of_exactNumber? exact
  | float => apply isProper_of_real? h
  | null =>
      rw [Kind.value?] at h
      split at h
      · cases h
        apply Value.IsProper.null
      · cases h

theorem isProper_of_scalarValue? {tag : Option (List Char)} {text : List Char} {isPlain : Bool}
    {v : Value} (h : scalarValue? tag text isPlain = some v) :
  v.IsProper
  := by
  unfold scalarValue? at h
  split at h
  · split at h
    · apply isProper_of_plainValue? h
    · cases h
      apply Value.IsProper.string
  · split at h
    · apply Kind.isProper_of_value? h
    · cases h
      apply Value.IsProper.string

/-! ### Readers -/

/-- Whatever a reader gives has a property. -/
structure Reads.Gives {α : Type} (P : α → Prop) (reads : Reads α) : Prop where
  holds : ∀ {followed x after}, reads.run followed = some (x, after) → P x

namespace Reads

variable {α β : Type} {P : α → Prop} {Q : β → Prop}

theorem gives_pure {x : α} (holds : P x) :
  Gives P (pure x)
  := by
  constructor
  intro followed y after h
  cases h
  apply holds

theorem gives_failure :
  Gives P failure
  := by
  constructor
  intro followed y after h
  cases h

theorem gives_lift {found : Option α} (each : ∀ x, found = some x → P x) :
  Gives P (liftM found)
  := by
  constructor
  intro followed y after h
  cases found with
  | none => cases h
  | some x =>
      cases h
      apply each _ rfl

theorem Gives.bind {reads : Reads α} {next : α → Reads β} (first : reads.Gives P)
    (others : ∀ x, P x → (next x).Gives Q) :
  (reads >>= next).Gives Q
  := by
  constructor
  intro followed y after h
  obtain ⟨⟨x, between⟩, here, h⟩ := Option.bind_eq_some_iff.mp h
  apply (others x (first.holds here)).holds h

theorem gives_true (reads : Reads α) :
  reads.Gives fun _ => True
  := by
  constructor
  intro followed x after h
  trivial

/-- Given what each item gives, the list of all of them is known. -/
theorem gives_mapM {reads : β → Reads α} {items : List β} (each : ∀ x ∈ items, (reads x).Gives P) :
  Gives (fun found => ∀ y ∈ found, P y) (items.mapM reads)
  := by
  induction items with
  | nil => exact gives_pure nofun
  | cons x items ih =>
      obtain ⟨first, others⟩ := List.forall_mem_cons.mp each
      rw [List.mapM_cons]
      apply first.bind
      intro y here
      apply (ih others).bind
      intro found among
      apply gives_pure
      apply List.forall_mem_cons.mpr ⟨here, among⟩

end Reads

/-! ### Values -/

section

variable (marks : Marks)

theorem Marks.gives_valueOf {inner : Option (Node → Reads Value)}
    (each : ∀ read, inner = some read → ∀ node, (read node).Gives Value.IsProper) (node : Node) :
  (marks.valueOf inner node).Gives Value.IsProper
  := by
  cases node with
  | «alias» mark => exact Reads.gives_failure
  | scalar p text isPlain =>
      rw [Marks.valueOf]
      split
      · exact Reads.gives_failure
      · apply Reads.gives_lift
        intro v
        apply isProper_of_scalarValue?
  | sequence p items =>
      rw [Marks.valueOf]
      apply (Reads.gives_lift each).bind
      intro read proper
      split
      · exact Reads.gives_failure
      · apply (Reads.gives_mapM fun x _ => proper x).bind
        intro found among
        apply Reads.gives_pure (Value.IsProper.array among)
  | mapping p entries =>
      rw [Marks.valueOf]
      apply (Reads.gives_lift each).bind
      intro read proper
      split
      · exact Reads.gives_failure
      · have member : ∀ entry ∈ entries, Reads.Gives (fun m : String × Value => m.2.IsProper)
            (do
              let key ← marks.keyText entry.1
              return (key, ← read entry.2)) := by
          intro entry _
          apply (Reads.gives_true _).bind
          intro key _
          apply (proper entry.2).bind
          intro v holds
          apply Reads.gives_pure
          apply holds
        apply (Reads.gives_mapM member).bind
        intro found among
        apply Reads.gives_pure (Value.isProper_ofEntries among)

theorem Marks.gives_value (depth : Nat) (node : Node) :
  (marks.value depth node).Gives Value.IsProper
  := by
  induction depth generalizing node with
  | zero =>
      rw [Marks.value]
      apply (Reads.gives_true _).bind
      intro target _
      apply marks.gives_valueOf
      nofun
  | succ depth ih =>
      rw [Marks.value]
      apply (Reads.gives_true _).bind
      intro target _
      apply marks.gives_valueOf
      rintro read ⟨⟩
      apply ih

end

/-- The value of a text is proper. -/
theorem isProper_of_parse? {text : List Char} {v : Value} (h : parse? text = some v) :
  v.IsProper
  := by
  simp only [parse?, Option.bind_eq_bind, Option.bind_eq_some_iff] at h
  obtain ⟨tokens, -, document, -, h⟩ := h
  split at h
  · cases h
    apply Value.IsProper.null
  · obtain ⟨⟨w, after⟩, reads, h⟩ := Option.bind_eq_some_iff.mp h
    cases h
    apply (Marks.gives_value _ _ _).holds reads

end Toolshed.Yaml
