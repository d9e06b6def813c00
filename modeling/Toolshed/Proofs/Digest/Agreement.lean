import Toolshed.Proofs.Directive.Identity
import Toolshed.Proofs.Frontmatter.Identity

/-!
# Declared and identifying fields

The fields that identify an item are read by rules of their own, which are not those that read the
fields that it declares.  For a directive both give the same name and version if these stand
directly in its tag, and for a knowledge entry they give the same mapping if nothing stands before
its block, the line that closes it ends, and the blank lines and the carriage return around it do
not matter to its members.
-/

namespace Toolshed.Integrity

open Text

/-- What a directive declares as its name or version identifies it if and only if that is the value
of the last assignment in the first tag that has one.  It stands at a place where all plain values
are shared if and only if they stand there directly, and then any value is if and only if it is
kept.  What a knowledge entry declares identifies it if and only if those are the members of its
block by the looser rules: in a regular entry, of the core of its block if it is tight, and none
otherwise. -/
theorem identity_eq_fields_iff (content : List Char) :
  (∀ name ∈ ["name", "version"], ∀ v, Assoc.get? name (Directive.fields content) = some v →
      v ≠ .string "" →
      ∃ (s : Directive.Site) (value : List Char), s.header.name = name.toList
        ∧ content = s.text value
        ∧ v = .string (String.ofList value)
        ∧ (Assoc.get? name (Directive.identity content) = some v
          ↔ Directive.IsLooseValue name.toList content value)
        ∧ s.IsRead name ∧ (s.IsShared name ↔ s.IsDirect)
        ∧ (s.IsDirect →
          (Assoc.get? name (Directive.identity content) = some v ↔ s.IsKept value)))
    ∧ ∀ fields, Frontmatter.fields content = .ok fields →
      (Frontmatter.identity content = fields
        ↔ (∃ block, Frontmatter.IsLooseBlock content block ∧ Frontmatter.members block = fields)
          ∨ (∀ block, ¬ Frontmatter.IsLooseBlock content block) ∧ fields = [])
      ∧ (Frontmatter.IsRegular content → (Frontmatter.split content).1 = none →
        Frontmatter.identity content = fields)
      ∧ ∀ (e : Frontmatter.Enclosure) (block body : List Char), content = e.compose block body →
        e.Separates block body →
        (Frontmatter.identity content = fields
          ↔ (e.IsTight → Frontmatter.members (Frontmatter.core block ++ e.closing.lineEnd.returns)
              = Frontmatter.members block)
            ∧ (¬ e.IsTight → fields = []))
  := by
  constructor
  · intro name among v declared nonempty
    have other : name ∉ ["description", "category"] := by
      simp only [List.mem_cons, List.not_mem_nil, or_false] at among
      rcases among with rfl | rfl <;> decide
    obtain ⟨s, value, named, rfl, free, rfl, read⟩ := Directive.exists_site other declared
    rw [Directive.get?_identity_eq_some_iff among, ← named]
    refine ⟨s, value, rfl, rfl, rfl, Directive.identifier?_iff_isLooseValue s.header.isName, read,
      s.isShared_iff among named read, ?_⟩
    intro direct
    apply s.identifier?_iff_isKept direct _ free
    rintro rfl
    apply nonempty rfl
  · intro fields ok
    have declared := Frontmatter.members_of_fields ok
    use Frontmatter.identity_eq_iff
    constructor
    · intro regular unfenced
      rw [Frontmatter.identity_of_split regular unfenced, declared, unfenced]
      rfl
    · rintro e block body rfl separates
      have parted : Frontmatter.split (e.compose block body) = (some block, body) := by
        apply Frontmatter.split_eq_some_iff.mpr ⟨e, rfl, separates.fits, separates.ends⟩
      rw [Frontmatter.identity_compose_iff separates, declared, parted]
      rfl

/-- A directive with blanks around the equals sign of its name, an entry without a block, and one
with a block that is closed where the text ends. -/
theorem identity_eq_fields_iff_gaps :
  (∃ (s : Directive.Site) (value : List Char), s.header.name = "name".toList
      ∧ "<directive name = \"deploy\">".toList = s.text value
      ∧ Json.Value.string "deploy" = .string (String.ofList value)
      ∧ (Assoc.get? "name" (Directive.identity "<directive name = \"deploy\">".toList)
          = some (.string "deploy")
        ↔ Directive.IsLooseValue "name".toList "<directive name = \"deploy\">".toList value)
      ∧ s.IsRead "name" ∧ (s.IsShared "name" ↔ s.IsDirect)
      ∧ (s.IsDirect →
        (Assoc.get? "name" (Directive.identity "<directive name = \"deploy\">".toList)
          = some (.string "deploy") ↔ s.IsKept value)))
    ∧ Frontmatter.identity "id".toList = []
    ∧ Frontmatter.identity "---\nid: a\n---".toList ≠ [("id", .string "a")]
  := by
  have isGap : Frontmatter.IsGap [] := by
    intro c among
    cases among
  have fence : Frontmatter.IsFence ['-', '-', '-'] := ⟨[], isGap, .feed, rfl⟩
  refine ⟨?_, ?_, ?_⟩
  · apply (identity_eq_fields_iff "<directive name = \"deploy\">".toList).1 "name" (by decide)
      (.string "deploy") rfl
    intro empty
    exact absurd (Json.Value.string.inj empty) (by decide)
  · apply ((identity_eq_fields_iff "id".toList).2 [] rfl).2.1
    · intro ws among
      have lines : cutAll '\n' "id".toList = ["id".toList] := by
        decide
      rw [lines, List.mem_singleton] at among
      cases (List.cons.inj among).1
    · rfl
  · intro same
    have ok : Frontmatter.fields "---\nid: a\n---".toList = .ok [("id", .string "a")] := by
      with_unfolding_all rfl
    let e : Frontmatter.Enclosure :=
      ⟨[], [], .feed, ⟨.feed, [], none, isGap⟩, by simp, isGap⟩
    have separates : e.Separates "id: a".toList [] := by
      constructor
      · intro
        rfl
      · apply e.closing.ends_of_unfenced
        · have lines : (cutAll '\n' "id: a".toList).tail = [] := by
            decide
          rw [lines]
          nofun
        · decide
      · intro ws among
        have lines : cutAll '\n' (e.compose "id: a".toList [])
            = [['-', '-', '-'], "id: a".toList, ['-', '-', '-']] := by
          rfl
        rw [lines] at among
        simp only [List.mem_cons, List.not_mem_nil, or_false] at among
        rcases among with same | same | same
        · rw [same]
          exact fun _ => fence
        · cases (List.cons.inj same).1
        · rw [same]
          exact fun _ => fence
      · intro blanks
        cases blanks 'i' (by decide)
    have agree := ((identity_eq_fields_iff _).2 _ ok).2.2 e "id: a".toList [] rfl separates
    cases (agree.mp same).2 fun tight => tight.2 rfl

end Toolshed.Integrity
