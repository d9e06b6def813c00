import Toolshed.Proofs.Json.Reading
import Mathlib.Data.List.Perm.Basic
import Mathlib.Data.List.Sort
import Mathlib.Data.String.Basic

/-!
# Canonical texts

The members of an object in the order of their keys are the same for two lists of members if and
only if one list is the other one in some order.  So two values have the same canonical text if and
only if they are equal up to the order of the members of objects.
-/

namespace Toolshed.Json.Value

mutual

/-- Two values are equal up to the order of the members of objects, at every depth.  Numbers are
equal if they are represented in the same way: an integer is no double precision number, and the
two zeros are different.  A canonical text writes the representation, `1` and `1.0`, `0.0` and
`-0.0`, and so it tells apart zeros that `Value.same` does not. -/
inductive Alike : Value → Value → Prop where
  | null : Alike .null .null
  | bool (b : Bool) : Alike (.bool b) (.bool b)
  | number (n : Number) : Alike (.number n) (.number n)
  | string (s : String) : Alike (.string s) (.string s)
  | array {xs ys : List Value} (items : List.Forall₂ Alike xs ys) : Alike (.array xs) (.array ys)
  | object {xs ys zs : List (String × Value)} (members : List.Forall₂ AlikeMember xs zs)
      (order : zs.Perm ys) : Alike (.object xs) (.object ys)

/-- Two members have the same key and equal values. -/
inductive AlikeMember : String × Value → String × Value → Prop where
  | intro (key : String) {x y : Value} (value : Alike x y) : AlikeMember (key, x) (key, y)

end

theorem alike_array {xs ys : List Value} :
  Alike (.array xs) (.array ys) ↔ List.Forall₂ Alike xs ys
  := by
  constructor
  · intro alike
    cases alike with
    | array items => apply items
  · apply Alike.array

theorem alike_object {xs ys : List (String × Value)} :
  Alike (.object xs) (.object ys) ↔ ∃ zs, List.Forall₂ AlikeMember xs zs ∧ zs.Perm ys
  := by
  constructor
  · intro alike
    cases alike with
    | object members order => exact ⟨_, members, order⟩
  · rintro ⟨zs, members, order⟩
    apply Alike.object members order

theorem alikeMember_iff {m n : String × Value} :
  AlikeMember m n ↔ m.1 = n.1 ∧ Alike m.2 n.2
  := by
  obtain ⟨k, x⟩ := m
  obtain ⟨l, y⟩ := n
  constructor
  · intro alike
    cases alike with
    | intro _ value => exact ⟨rfl, value⟩
  · rintro ⟨rfl, value⟩
    apply AlikeMember.intro k value

/-! ### Order of the keys -/

/-- A member with the members of objects in its value in the order of their keys. -/
def sortedMember (m : String × Value) : String × Value :=
  (m.1, m.2.sorted)

theorem sortedItems_eq_map (items : List Value) :
  sortedItems items = items.map sorted
  := by
  induction items with
  | nil => rfl
  | cons x items ih =>
      rw [sortedItems, ih]
      rfl

section

variable {α : Type} {key : String} {value : α} {members : List (String × α)}

theorem insertByKey_perm :
  (insertByKey key value members).Perm ((key, value) :: members)
  := by
  induction members with
  | nil => apply List.Perm.refl
  | cons m members ih =>
      obtain ⟨k, v⟩ := m
      rw [insertByKey]
      split
      · apply List.Perm.refl
      · apply List.Perm.trans (List.Perm.cons _ ih)
        apply List.Perm.swap

/-- The members are in the order of their keys, which are different. -/
def InOrder (members : List (String × α)) : Prop :=
  members.Pairwise fun m n => m.1 < n.1

theorem inOrder_insertByKey (order : InOrder members) (new : key ∉ members.map Prod.fst) :
  InOrder (insertByKey key value members)
  := by
  induction members with
  | nil => apply List.pairwise_singleton
  | cons m members ih =>
      obtain ⟨k, v⟩ := m
      obtain ⟨first, others⟩ := List.pairwise_cons.mp order
      rw [List.map_cons, List.mem_cons, not_or] at new
      rw [insertByKey]
      split
      · next less =>
          apply List.pairwise_cons.mpr
          refine ⟨?_, order⟩
          rw [List.forall_mem_cons]
          refine ⟨less, ?_⟩
          intro n among
          apply lt_trans less (first n among)
      · next notLess =>
          apply List.pairwise_cons.mpr
          refine ⟨?_, ih others new.2⟩
          intro n among
          rcases List.mem_cons.mp (insertByKey_perm.mem_iff.mp among) with rfl | among
          · apply lt_of_le_of_ne (not_lt.mp notLess) (Ne.symm new.1)
          · apply first n among

/-- Members in the order of their keys are determined by which members they are. -/
theorem eq_of_inOrder {others : List (String × α)} (order : InOrder members)
    (order' : InOrder others) (same : members.Perm others) :
  members = others
  := by
  apply same.eq_of_pairwise _ order order'
  intro m n _ _ less less'
  cases lt_asymm less less'

end

theorem sortedMembers_perm (members : List (String × Value)) :
  (sortedMembers members).Perm (members.map sortedMember)
  := by
  induction members with
  | nil => apply List.Perm.refl
  | cons m members ih =>
      obtain ⟨k, x⟩ := m
      rw [sortedMembers]
      apply insertByKey_perm.trans
      apply List.Perm.cons _ ih

theorem keys_sortedMembers_perm (members : List (String × Value)) :
  ((sortedMembers members).map Prod.fst).Perm (members.map Prod.fst)
  := by
  apply ((sortedMembers_perm members).map Prod.fst).trans
  rw [List.map_map]
  apply List.Perm.refl

theorem inOrder_sortedMembers {members : List (String × Value)}
    (distinct : (members.map Prod.fst).Nodup) :
  InOrder (sortedMembers members)
  := by
  induction members with
  | nil => apply List.Pairwise.nil
  | cons m members ih =>
      obtain ⟨k, x⟩ := m
      obtain ⟨new, distinct⟩ := List.nodup_cons.mp distinct
      rw [sortedMembers]
      apply inOrder_insertByKey (ih distinct)
      rw [(keys_sortedMembers_perm members).mem_iff]
      apply new

/-- Members in the order of their keys are the same if and only if the members are the same in some
order. -/
theorem sortedMembers_eq_iff {xs ys : List (String × Value)} (distinct : (xs.map Prod.fst).Nodup)
    (distinct' : (ys.map Prod.fst).Nodup) :
  sortedMembers xs = sortedMembers ys
    ↔ ∃ zs : List (String × Value), xs.map sortedMember = zs.map sortedMember ∧ zs.Perm ys
  := by
  have some_order : (∃ zs : List (String × Value),
        xs.map sortedMember = zs.map sortedMember ∧ zs.Perm ys)
      = (xs.map sortedMember).Perm (ys.map sortedMember) :=
    congrFun₂ (List.eq_map_comp_perm sortedMember) (xs.map sortedMember) ys
  rw [some_order]
  constructor
  · intro same
    apply (sortedMembers_perm xs).symm.trans
    rw [same]
    apply sortedMembers_perm
  · intro perm
    apply eq_of_inOrder (inOrder_sortedMembers distinct) (inOrder_sortedMembers distinct')
    apply (sortedMembers_perm xs).trans
    apply perm.trans (sortedMembers_perm ys).symm

/-! ### Values in the order of their keys -/

theorem IsProper.isProper_sorted {v : Value} (proper : v.IsProper) :
  v.sorted.IsProper
  := by
  induction proper with
  | null => apply IsProper.null
  | bool b => apply IsProper.bool
  | number proper => apply IsProper.number proper
  | string s => apply IsProper.string
  | @array items each ih =>
      apply IsProper.array
      rw [sortedItems_eq_map]
      apply List.forall_mem_map.mpr ih
  | @object members distinct each ih =>
      apply IsProper.object
      · rw [(keys_sortedMembers_perm members).nodup_iff]
        apply distinct
      · intro m among
        obtain ⟨n, among', rfl⟩ :=
          List.mem_map.mp ((sortedMembers_perm members).mem_iff.mp among)
        apply ih n among'

/-- Two lists have the same images if and only if their members have them one by one. -/
theorem map_eq_map_iff_forall₂ {α β : Type} {f : α → β} {related : α → α → Prop} {xs ys : List α}
    (h : ∀ x ∈ xs, ∀ y ∈ ys, f x = f y ↔ related x y) :
  xs.map f = ys.map f ↔ List.Forall₂ related xs ys
  := by
  induction xs generalizing ys with
  | nil => simp
  | cons x xs ih =>
      cases ys with
      | nil => simp
      | cons y ys =>
          rw [List.map_cons, List.map_cons, List.cons.injEq, List.forall₂_cons,
            h x List.mem_cons_self y List.mem_cons_self, ih]
          intro z among w among'
          apply h z (List.mem_cons_of_mem _ among) w (List.mem_cons_of_mem _ among')

/-- Two values are the same with the members of objects in the order of their keys if and only if
they are equal up to the order of the members. -/
theorem IsProper.sorted_eq_iff {v w : Value} (proper : v.IsProper) (proper' : w.IsProper) :
  v.sorted = w.sorted ↔ v.Alike w
  := by
  induction proper generalizing w with
  | null =>
      cases proper' with
      | null => exact iff_of_true rfl .null
      | _ => exact iff_of_false nofun nofun
  | bool b =>
      cases proper' with
      | bool b' =>
          constructor
          · intro same
            cases same
            apply Alike.bool
          · intro alike
            cases alike
            rfl
      | _ => exact iff_of_false nofun nofun
  | number proper =>
      cases proper' with
      | number proper' =>
          constructor
          · intro same
            cases same
            apply Alike.number
          · intro alike
            cases alike
            rfl
      | _ => exact iff_of_false nofun nofun
  | string s =>
      cases proper' with
      | string s' =>
          constructor
          · intro same
            cases same
            apply Alike.string
          · intro alike
            cases alike
            rfl
      | _ => exact iff_of_false nofun nofun
  | @array items each ih =>
      cases proper' with
      | @array items' each' =>
          rw [alike_array, sorted, sorted, array.injEq, sortedItems_eq_map, sortedItems_eq_map]
          apply map_eq_map_iff_forall₂
          intro x among y among'
          apply ih x among (each' y among')
      | _ => exact iff_of_false nofun nofun
  | @object members distinct each ih =>
      cases proper' with
      | @object members' distinct' each' =>
          rw [alike_object, sorted, sorted, object.injEq, sortedMembers_eq_iff distinct distinct']
          apply exists_congr
          intro others
          apply and_congr_left
          intro perm
          apply map_eq_map_iff_forall₂
          intro m among n among'
          rw [alikeMember_iff, sortedMember, sortedMember, Prod.mk.injEq]
          apply and_congr_right
          intro _
          apply ih m among (each' n (perm.mem_iff.mp among'))
      | _ => exact iff_of_false nofun nofun

/-- Two values have the same canonical text if and only if they are equal up to the order of the
members of objects. -/
theorem canonical_eq_iff_alike {v w : Value} (proper : v.IsProper) (proper' : w.IsProper) :
  v.canonical = w.canonical ↔ v.Alike w
  := by
  rw [← proper.sorted_eq_iff proper']
  constructor
  · intro same
    apply proper.isProper_sorted.eq_of_plain_eq proper'.isProper_sorted same
  · intro same
    rw [canonical, canonical, same]

/-- Two objects whose members, and whose inner object's members, are in different orders. -/
theorem canonical_eq_iff_alike_of_swapped :
  let list := Value.array [.number (.int (-1)), .number (.real ⟨0x3FF8000000000000⟩)]
  let v := Value.object [("b", list), ("é", .object [("y", .null), ("x", .string "\\u00e9𝄞")])]
  let w := Value.object [("é", .object [("x", .string "\\u00e9𝄞"), ("y", .null)]), ("b", list)]
  v.IsProper ∧ w.IsProper ∧ v ≠ w ∧ v.canonical = w.canonical
  := by
  intro list v w
  have properList : list.IsProper := by
    apply IsProper.array
    simp only [List.forall_mem_cons]
    exact ⟨.number ⟨by decide, by decide⟩, .number rfl, nofun⟩
  have proper : v.IsProper := by
    apply IsProper.object (by decide)
    simp only [List.forall_mem_cons]
    refine ⟨properList, IsProper.object (by decide) ?_, nofun⟩
    simp only [List.forall_mem_cons]
    exact ⟨.null, .string _, nofun⟩
  have proper' : w.IsProper := by
    apply IsProper.object (by decide)
    simp only [List.forall_mem_cons]
    refine ⟨IsProper.object (by decide) ?_, properList, nofun⟩
    simp only [List.forall_mem_cons]
    exact ⟨.string _, .null, nofun⟩
  have alike : v.Alike w := by
    apply Alike.object _ (List.Perm.swap _ _ _)
    apply List.Forall₂.cons
    · apply AlikeMember.intro
      exact .array (.cons (.number _) (.cons (.number _) .nil))
    · apply List.Forall₂.cons _ List.Forall₂.nil
      apply AlikeMember.intro
      apply Alike.object _ (List.Perm.swap _ _ _)
      exact .cons (.intro "y" .null) (.cons (.intro "x" (.string _)) .nil)
  refine ⟨proper, proper', ?_, ?_⟩
  · intro same
    have first : "b" = "é" := (Prod.mk.inj (List.cons.inj (object.inj same)).1).1
    revert first
    decide
  · apply (canonical_eq_iff_alike proper proper').mpr alike

/-- The two zeros are equal as numbers, but not in canonical text. -/
example :
  (Value.number (.real ⟨0⟩)).same (.number (.real ⟨0x8000000000000000⟩)) = true
    ∧ (Value.number (.real ⟨0⟩)).canonical
      ≠ (Value.number (.real ⟨0x8000000000000000⟩)).canonical
  := by
  decide

end Toolshed.Json.Value
