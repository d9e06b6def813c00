import Toolshed.Search.Filter
import Mathlib.Data.List.Infix
import Mathlib.Tactic.Use

/-!
# When filters give an answer

An item passes its filters if it passes each of them.  There is no answer when the date of an item
is cut to the ten bytes of a bound and no character ends there.
-/

namespace Toolshed.Filter

open Json

/-! ### Cutting a text -/

theorem byteLength_cons (c : Char) (cs : List Char) :
  byteLength (c :: cs) = c.utf8Size + byteLength cs
  := by
  simp [byteLength]

/-- The front of a text that takes a number of bytes is its prefix of that length. -/
theorem takeBytes?_eq_some_iff {n : Nat} {cs front : List Char} :
  takeBytes? n cs = some front ↔ front <+: cs ∧ byteLength front = n
  := by
  induction cs generalizing n front with
  | nil =>
      rw [List.prefix_nil]
      rcases n with _ | n
      · constructor
        · intro same
          cases same
          use rfl
          rfl
        · rintro ⟨rfl, _⟩
          rfl
      · constructor
        · intro missing
          cases missing
        · rintro ⟨rfl, length⟩
          cases length
  | cons c cs ih =>
      have positive := c.utf8Size_pos
      rcases n with _ | n
      · constructor
        · intro same
          cases same
          use List.nil_prefix
          rfl
        · rintro ⟨inside, length⟩
          rcases front with _ | ⟨d, front⟩
          · rfl
          · rw [byteLength_cons] at length
            have := d.utf8Size_pos
            omega
      · rw [takeBytes?]
        split
        · next fits =>
            rw [Option.map_eq_some_iff]
            constructor
            · rintro ⟨rest, taken, rfl⟩
              obtain ⟨inside, length⟩ := ih.mp taken
              rw [byteLength_cons, length]
              use (List.prefix_cons_inj c).mpr inside
              omega
            · rintro ⟨inside, length⟩
              rcases front with _ | ⟨d, rest⟩
              · cases length
              · obtain ⟨rfl, within⟩ := List.cons_prefix_cons.mp inside
                rw [byteLength_cons] at length
                use rest, ih.mpr ⟨within, by omega⟩
        · next long =>
            constructor
            · intro missing
              cases missing
            · rintro ⟨inside, length⟩
              rcases front with _ | ⟨d, rest⟩
              · cases length
              · obtain ⟨rfl, _⟩ := List.cons_prefix_cons.mp inside
                rw [byteLength_cons] at length
                omega

/-- A date is cut to the length of a bound, at a place where no character ends. -/
def IsCutInside (date bound : List Char) : Prop :=
  byteLength bound = 10 ∧ 10 < byteLength date ∧ ∀ front, front <+: date → byteLength front ≠ 10

theorem comparedDate?_eq_none_iff {date bound : List Char} :
  comparedDate? date bound = none ↔ IsCutInside date bound
  := by
  rw [comparedDate?, IsCutInside, ← and_assoc]
  split
  · next short =>
      rw [Option.eq_none_iff_forall_ne_some]
      simp only [ne_eq, takeBytes?_eq_some_iff, not_and, short, true_and]
  · next other => simp [other]

/-! ### Filters without an answer -/

/-- A filter bounds a date that cannot be cut to the length of its bound. -/
def BreaksOn (item : Item) (filter : String × Value) : Prop :=
  (filter.1 = "date_from" ∨ filter.1 = "date_to") ∧ ∃ date bound,
    (item "created_at").bind Value.scalar? = some date ∧ filter.2.scalar? = some bound
      ∧ IsCutInside (normalDate date) (normalDate bound)

theorem boundsDate?_eq_none_iff {item : Item} {bound : Value}
    {related : List Char → List Char → Bool} :
  boundsDate? item bound related = none ↔ ∃ date text,
    (item "created_at").bind Value.scalar? = some date ∧ bound.scalar? = some text
      ∧ IsCutInside (normalDate date) (normalDate text)
  := by
  rw [boundsDate?]
  split
  · next date text dated bounded =>
      dsimp only
      rw [dated, bounded]
      split
      · next blank =>
          constructor
          · intro missing
            cases missing
          · rintro ⟨_, _, ⟨⟩, ⟨⟩, short, long, _⟩
            rw [Bool.or_eq_true, List.isEmpty_iff, List.isEmpty_iff] at blank
            rcases blank with blank | blank
            · rw [blank] at long
              cases long
            · rw [blank] at short
              cases short
      · rw [Option.map_eq_none_iff, comparedDate?_eq_none_iff]
        constructor
        · intro cut
          use date, text
        · rintro ⟨_, _, ⟨⟩, ⟨⟩, cut⟩
          apply cut
  · next other =>
      constructor
      · intro missing
        cases missing
      · rintro ⟨date, text, dated, bounded, _⟩
        cases other date text dated bounded

theorem passesOne?_eq_none_iff {item : Item} {name : String} {expected : Value} :
  passesOne? item name expected = none ↔ BreaksOn item (name, expected)
  := by
  rw [passesOne?, BreaksOn]
  split
  · next same => simp only [same, true_or, true_and, boundsDate?_eq_none_iff]
  · next other =>
      split
      · next same => simp only [same, or_true, true_and, boundsDate?_eq_none_iff]
      · next other' =>
          constructor
          · intro missing
            split at missing <;> cases missing
          · rintro ⟨same | same, _⟩
            · cases other same
            · cases other' same

/-! ### All filters -/

variable {item : Item} {filters : Fields}

theorem matches?_eq_true_iff :
  matches? item filters = some true
    ↔ ∀ filter ∈ filters, passesOne? item filter.1 filter.2 = some true
  := by
  induction filters with
  | nil => simp [matches?]
  | cons filter filters ih =>
      obtain ⟨name, expected⟩ := filter
      rw [matches?, List.forall_mem_cons, ← ih]
      rcases passesOne? item name expected with _ | _ | _
      · simp
      · simp
      · simp

theorem matches?_singleton (item : Item) (name : String) (expected : Value) :
  matches? item [(name, expected)] = passesOne? item name expected
  := by
  rw [matches?]
  rcases passesOne? item name expected with _ | _ | _
  · rfl
  · rfl
  · rfl

/-- Filters break off at one of them: the item passes those before it. -/
def BreakOff (item : Item) (filters : Fields) : Prop :=
  ∃ before filter after, filters = before ++ filter :: after
    ∧ (∀ filter ∈ before, passesOne? item filter.1 filter.2 = some true) ∧ BreaksOn item filter

theorem matches?_eq_none_iff :
  matches? item filters = none ↔ BreakOff item filters
  := by
  induction filters with
  | nil => simp [matches?, BreakOff]
  | cons filter filters ih =>
      obtain ⟨name, expected⟩ := filter
      rw [matches?]
      split
      · next passed =>
          rw [ih]
          constructor
          · rintro ⟨before, filter, after, rfl, passed', breaks⟩
            use (name, expected) :: before, filter, after, rfl
            use List.forall_mem_cons.mpr ⟨passed, passed'⟩
          · rintro ⟨_ | ⟨first, before⟩, filter, after, split, passed', breaks⟩
            · cases split
              rw [passesOne?_eq_none_iff.mpr breaks] at passed
              cases passed
            · cases split
              use before, filter, after, rfl
              use (List.forall_mem_cons.mp passed').2
      · next other =>
          rw [passesOne?_eq_none_iff]
          constructor
          · intro breaks
            use [], (name, expected), filters, rfl
            use List.forall_mem_nil _
          · rintro ⟨_ | ⟨first, before⟩, filter, after, split, passed, breaks⟩
            · cases split
              apply breaks
            · cases split
              cases other (List.forall_mem_cons.mp passed).1

end Toolshed.Filter
