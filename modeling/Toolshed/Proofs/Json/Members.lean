import Toolshed.Proofs.Assoc
import Toolshed.Proofs.Json.Canonical

/-!
# Members under keys

An object without a repeated key is what is under its keys: two such objects are equal up to the
order of members if and only if each key has equal values in both, or is in neither.
-/

namespace Toolshed.Json.Value

variable {xs ys : Fields}

theorem rel_get?_of_forall₂ (members : List.Forall₂ AlikeMember xs ys) (key : String) :
  Option.Rel Alike (Assoc.get? key xs) (Assoc.get? key ys)
  := by
  induction members with
  | nil => apply Option.Rel.none
  | cons first _ ih =>
      obtain ⟨k, value⟩ := first
      rw [Assoc.get?, Assoc.get?]
      split
      · apply Option.Rel.some value
      · apply ih

/-- The members of an object with the values that their keys have in another one. -/
def counterparts (xs ys : Fields) : Fields :=
  xs.map fun m => (m.1, (Assoc.get? m.1 ys).getD .null)

theorem keys_counterparts (xs ys : Fields) :
  Assoc.keys (counterparts xs ys) = Assoc.keys xs
  := by
  rw [Assoc.keys, counterparts, List.map_map]
  rfl

/-- Two objects without repeated keys are equal up to the order of members if and only if what is
under each key is. -/
theorem alike_object_iff_get? (distinct : (Assoc.keys xs).Nodup)
    (distinct' : (Assoc.keys ys).Nodup) :
  Alike (.object xs) (.object ys)
    ↔ ∀ key, Option.Rel Alike (Assoc.get? key xs) (Assoc.get? key ys)
  := by
  rw [alike_object]
  constructor
  · rintro ⟨zs, members, order⟩ key
    rw [Assoc.get?_eq_of_perm order.symm distinct']
    apply rel_get?_of_forall₂ members
  · intro same
    have found : ∀ m ∈ xs, ∃ y, Assoc.get? m.1 ys = some y ∧ Alike m.2 y := by
      intro m among
      have rel := same m.1
      rw [(Assoc.get?_eq_some_iff distinct).mpr among] at rel
      generalize Assoc.get? m.1 ys = other at rel
      cases rel with
      | some alike => exact ⟨_, rfl, alike⟩
    refine ⟨counterparts xs ys, ?_, ?_⟩
    · rw [counterparts, List.forall₂_map_right_iff, List.forall₂_same]
      intro m among
      obtain ⟨y, here, alike⟩ := found m among
      rw [alikeMember_iff, here]
      exact ⟨rfl, alike⟩
    · have once : (counterparts xs ys).Nodup := by
        apply Assoc.nodup_of_nodup_keys
        rw [keys_counterparts]
        apply distinct
      rw [List.perm_ext_iff_of_nodup once (Assoc.nodup_of_nodup_keys distinct')]
      rintro ⟨key, y⟩
      rw [← Assoc.get?_eq_some_iff distinct', counterparts, List.mem_map]
      constructor
      · rintro ⟨m, among, same⟩
        obtain ⟨y, here, -⟩ := found m among
        rw [here, Prod.mk.injEq] at same
        rw [← same.1, here, ← same.2]
        rfl
      · intro here
        have rel := same key
        rw [here] at rel
        generalize inFirst : Assoc.get? key xs = other at rel
        cases rel with
        | @some x _ alike =>
            refine ⟨(key, x), (Assoc.get?_eq_some_iff distinct).mp inFirst, ?_⟩
            rw [here]
            rfl

/-- Equal values up to the order of members are the same if one is a scalar. -/
theorem alike_iff_eq_of_scalar {v w : Value} (scalar : v.scalar?.isSome = true) :
  Alike v w ↔ v = w
  := by
  constructor
  · intro alike
    cases alike with
    | null | bool | number | string => rfl
    | array _ => cases scalar
    | object _ _ => cases scalar
  · rintro rfl
    cases v with
    | null | array _ | object _ => cases scalar
    | bool b => apply Alike.bool
    | number n => apply Alike.number
    | string s => apply Alike.string

theorem rel_alike_iff_eq_of_scalar {found other : Option Value}
    (scalar : ∀ v, found = some v → v.scalar?.isSome = true) :
  Option.Rel Alike found other ↔ found = other
  := by
  constructor
  · intro rel
    cases rel with
    | none => rfl
    | some alike => rw [(alike_iff_eq_of_scalar (scalar _ rfl)).mp alike]
  · rintro rfl
    cases found with
    | none => apply Option.Rel.none
    | some v => apply Option.Rel.some ((alike_iff_eq_of_scalar (scalar v rfl)).mpr rfl)

/-! ### First members -/

theorem exists_plainMembers_append (key : String) (x : Value) (rest : List (String × Value)) :
  ∃ others, plainMembers ((key, x) :: rest) = '"' :: plainString key ++ '"' :: others
  := by
  cases rest with
  | nil =>
      rw [plainMembers_singleton]
      exact ⟨_, rfl⟩
  | cons m rest =>
      rw [plainMembers_cons_cons, List.append_assoc]
      exact ⟨_, rfl⟩

/-- The canonical text of an object begins with the least key. -/
theorem exists_canonical_object {members rest : List (String × Value)} {key : String} {x : Value}
    (first : sortedMembers members = (key, x) :: rest) :
  ∃ others, (object members).canonical = '\x7b' :: '"' :: plainString key ++ '"' :: others
  := by
  obtain ⟨others, text⟩ := exists_plainMembers_append key x rest
  have whole : (object members).canonical = (object (sortedMembers members)).plain := rfl
  rw [whole, plain_object, first, text]
  simp only [List.cons_append, List.append_assoc]
  exact ⟨_, rfl⟩

end Toolshed.Json.Value
