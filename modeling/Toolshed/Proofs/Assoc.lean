import Toolshed.Assoc
import Mathlib.Data.List.Induction
import Mathlib.Data.List.Nodup

/-!
# What is under a key

An insertion changes what is under its key and nothing else.  So the association list of some
entries has under every key what the last entry with that key has.
-/

namespace Toolshed.Assoc

variable {α : Type}

/-- The value of the last entry with a key. -/
def last? (key : String) (entries : List (String × α)) : Option α :=
  (entries.filterMap fun (k, v) => if k = key then some v else none).getLast?

theorem get?_insert (key : String) (value : α) (xs : Assoc α) (other : String) :
  get? other (insert key value xs) = if key = other then some value else get? other xs
  := by
  induction xs with
  | nil => rfl
  | cons entry xs ih =>
      obtain ⟨k, v⟩ := entry
      rw [insert]
      split
      · next same =>
          rw [get?, get?, same]
          split
          · rfl
          · rfl
      · next different =>
          rw [get?, get?, ih]
          split
          · next same =>
              rw [if_neg]
              rintro rfl
              apply different same
          · rfl

theorem insertAll_concat (entries : List (String × α)) (key : String) (value : α) (xs : Assoc α) :
  insertAll (entries ++ [(key, value)]) xs = insert key value (insertAll entries xs)
  := by
  rw [insertAll, List.foldl_append]
  rfl

theorem get?_insertAll (entries : List (String × α)) (xs : Assoc α) (key : String) :
  get? key (insertAll entries xs) = (last? key entries).or (get? key xs)
  := by
  induction entries using List.reverseRecOn with
  | nil => rfl
  | append_singleton entries entry ih =>
      obtain ⟨k, v⟩ := entry
      rw [insertAll_concat, get?_insert, ih, last?, last?, List.filterMap_append]
      split
      · next same => simp [same]
      · next different => simp [different]

/-- The association list of some entries has what the last entry with a key has. -/
theorem get?_ofEntries (entries : List (String × α)) (key : String) :
  get? key (ofEntries entries) = last? key entries
  := by
  rw [ofEntries, get?_insertAll, get?, Option.or_none]

/-- A key that no entry has is the key of no last one. -/
theorem last?_eq_none {key : String} {entries : List (String × α)}
    (missing : key ∉ entries.map Prod.fst) :
  last? key entries = none
  := by
  rw [last?, List.getLast?_eq_none_iff, List.filterMap_eq_nil_iff]
  rintro ⟨k, v⟩ among
  apply if_neg
  rintro rfl
  apply missing (List.mem_map_of_mem among)

/-- The last entry with a key has no other one behind it. -/
theorem last?_eq_some_iff {key : String} {entries : List (String × α)} {value : α} :
  last? key entries = some value ↔ ∃ front back, entries = front ++ (key, value) :: back
    ∧ key ∉ back.map Prod.fst
  := by
  constructor
  · intro found
    obtain ⟨others, values⟩ := List.getLast?_eq_some_iff.mp found
    obtain ⟨front, rest, rfl, -, later⟩ := List.filterMap_eq_append_iff.mp values
    obtain ⟨passed, ⟨k, v⟩, back, rfl, -, here, unmatched⟩ := List.filterMap_eq_cons_iff.mp later
    obtain ⟨rfl, same⟩ := Option.ite_none_right_eq_some.mp here
    cases same
    use front ++ passed, back, List.append_assoc front passed _ |>.symm
    intro among
    obtain ⟨⟨k', v'⟩, inBack, rfl⟩ := List.mem_map.mp among
    have passed' := List.filterMap_eq_nil_iff.mp unmatched _ inBack
    simp at passed'
  · rintro ⟨front, back, rfl, missing⟩
    have unmatched := last?_eq_none missing
    rw [last?, List.getLast?_eq_none_iff] at unmatched
    simp [last?, unmatched]

theorem last?_append (entries others : List (String × α)) (key : String) :
  last? key (entries ++ others) = (last? key others).or (last? key entries)
  := by
  rw [last?, last?, last?, List.filterMap_append, List.getLast?_append]

theorem last?_map {β : Type} (f : α → β) (entries : List (String × α)) (key : String) :
  last? key (entries.map fun (k, v) => (k, f v)) = (last? key entries).map f
  := by
  rw [last?, last?, List.filterMap_map, ← List.getLast?_map, List.map_filterMap]
  congr 2
  funext entry
  rw [Function.comp_apply, apply_ite (Option.map f)]
  rfl

/-! ### Keys -/

theorem keys_cons (key : String) (value : α) (xs : Assoc α) :
  keys ((key, value) :: xs) = key :: keys xs
  := by
  rfl

/-- Something is under a key if it is among the keys. -/
theorem isSome_get? (key : String) (xs : Assoc α) :
  (get? key xs).isSome = true ↔ key ∈ keys xs
  := by
  induction xs with
  | nil => simp [get?, keys]
  | cons entry xs ih =>
      obtain ⟨k, v⟩ := entry
      rw [get?, keys_cons, List.mem_cons, ← ih]
      split
      · next same => simp [same]
      · next different => simp [Ne.symm different]

theorem get?_map {β : Type} (f : String → α → β) (key : String) (xs : Assoc α) :
  get? key (xs.map fun (k, v) => (k, f k v)) = (get? key xs).map (f key)
  := by
  induction xs with
  | nil => rfl
  | cons entry xs ih =>
      obtain ⟨k, v⟩ := entry
      rw [List.map_cons, get?, get?, ih]
      split
      · next same => rw [same, Option.map_some]
      · rfl

/-- The value of a name among those of the names that have one. -/
theorem get?_filterMap (value? : String → Option α) (names : List String) (name : String) :
  get? name (names.filterMap fun n => (value? n).map fun v => (n, v))
    = if name ∈ names then value? name else none
  := by
  induction names with
  | nil => rfl
  | cons n names ih =>
      rw [List.filterMap_cons]
      rcases found : value? n with _ | v
      · simp only [Option.map_none, ih, List.mem_cons]
        by_cases same : name = n
        · simp [same, found]
        · simp [same]
      · simp only [Option.map_some, get?, ih, List.mem_cons]
        by_cases same : n = name
        · simp [← same, found]
        · simp [same, Ne.symm same]

/-- An insertion adds its key behind the others, unless it is among them. -/
theorem keys_insert (key : String) (value : α) (xs : Assoc α) :
  keys (insert key value xs) = if key ∈ keys xs then keys xs else keys xs ++ [key]
  := by
  induction xs with
  | nil => rfl
  | cons entry xs ih =>
      obtain ⟨k, v⟩ := entry
      rw [insert]
      split
      · next same =>
          rw [keys_cons, keys_cons, same, if_pos List.mem_cons_self]
      · next different =>
          have other : key ∈ k :: keys xs ↔ key ∈ keys xs := by
            simp [Ne.symm different]
          rw [keys_cons, keys_cons, ih]
          by_cases among : key ∈ keys xs
          · rw [if_pos among, if_pos (other.mpr among)]
          · rw [if_neg among, if_neg (among ∘ other.mp), List.cons_append]

theorem insert_of_not_mem {key : String} {xs : Assoc α} (new : key ∉ keys xs) (value : α) :
  insert key value xs = xs ++ [(key, value)]
  := by
  induction xs with
  | nil => rfl
  | cons entry xs ih =>
      obtain ⟨k, v⟩ := entry
      rw [keys_cons, List.mem_cons, not_or] at new
      rw [insert, if_neg (Ne.symm new.1), ih new.2, List.cons_append]

theorem nodup_keys_concat {xs : Assoc α} {key : String} {value : α} :
  (keys (xs ++ [(key, value)])).Nodup ↔ key ∉ keys xs ∧ (keys xs).Nodup
  := by
  rw [keys, List.map_append, List.map_singleton, ← List.concat_eq_append, List.nodup_concat]
  rfl

/-- Entries without repeated keys add those of their keys that are new, in order. -/
theorem keys_insertAll {entries : List (String × α)} (distinct : (keys entries).Nodup)
    (xs : Assoc α) :
  keys (insertAll entries xs) = keys xs ++ (keys entries).filter (· ∉ keys xs)
  := by
  induction entries using List.reverseRecOn with
  | nil => exact (List.append_nil _).symm
  | append_singleton entries entry ih =>
      obtain ⟨k, v⟩ := entry
      obtain ⟨new, distinct⟩ := nodup_keys_concat.mp distinct
      have whole : keys (entries ++ [(k, v)]) = keys entries ++ [k] := List.map_append
      rw [insertAll_concat, keys_insert, ih distinct, whole, List.filter_append]
      by_cases old : k ∈ keys xs
      · simp [old]
      · simp [old, new]

/-- An association list is that of its entries. -/
theorem insertAll_nil {xs : Assoc α} (distinct : (keys xs).Nodup) :
  insertAll xs [] = xs
  := by
  induction xs using List.reverseRecOn with
  | nil => rfl
  | append_singleton xs entry ih =>
      obtain ⟨k, v⟩ := entry
      obtain ⟨new, distinct⟩ := nodup_keys_concat.mp distinct
      rw [insertAll_concat, ih distinct, insert_of_not_mem new]

theorem nodup_keys_insertAll (entries : List (String × α)) {xs : Assoc α}
    (distinct : (keys xs).Nodup) :
  (keys (insertAll entries xs)).Nodup
  := by
  rw [insertAll]
  induction entries generalizing xs with
  | nil => apply distinct
  | cons entry entries ih =>
      apply ih
      rw [keys_insert]
      split
      · apply distinct
      · next new =>
          rw [← List.concat_eq_append]
          apply distinct.concat new

/-! ### Entries -/

theorem mem_of_get? {key : String} {xs : Assoc α} {value : α} (h : get? key xs = some value) :
  (key, value) ∈ xs
  := by
  induction xs with
  | nil => cases h
  | cons first xs ih =>
      obtain ⟨k, v⟩ := first
      rw [get?] at h
      split at h
      · next same =>
          cases h
          rw [same]
          apply List.mem_cons_self
      · apply List.mem_cons_of_mem _ (ih h)

theorem mem_insert {key : String} {value : α} {xs : Assoc α} {entry : String × α}
    (h : entry ∈ insert key value xs) :
  entry = (key, value) ∨ entry ∈ xs
  := by
  induction xs with
  | nil => exact .inl (List.mem_singleton.mp h)
  | cons first xs ih =>
      obtain ⟨k, v⟩ := first
      rw [insert] at h
      split at h
      · next same =>
          subst same
          rcases List.mem_cons.mp h with here | among
          · exact .inl here
          · exact .inr (List.mem_cons_of_mem _ among)
      · rcases List.mem_cons.mp h with here | among
        · exact .inr (List.mem_cons.mpr (.inl here))
        · exact (ih among).imp_right (List.mem_cons_of_mem _)

/-- Nothing is in an association list but what was in it and what was inserted. -/
theorem mem_insertAll {entries : List (String × α)} {xs : Assoc α} {entry : String × α}
    (h : entry ∈ insertAll entries xs) :
  entry ∈ entries ∨ entry ∈ xs
  := by
  rw [insertAll] at h
  induction entries generalizing xs with
  | nil => exact .inr h
  | cons first entries ih =>
      rcases ih h with among | among
      · exact .inl (List.mem_cons_of_mem _ among)
      · rcases mem_insert among with rfl | among
        · exact .inl List.mem_cons_self
        · exact .inr among

/-! ### Lists without repeated keys -/

theorem last?_cons (entry : String × α) (entries : List (String × α)) (key : String) :
  last? key (entry :: entries) = (last? key entries).or (get? key [entry])
  := by
  rw [← get?_ofEntries, ofEntries, insertAll, List.foldl_cons, ← insertAll, get?_insertAll]
  rfl

/-- Without repeated keys, the last entry with a key is the only one. -/
theorem last?_eq_get? {xs : Assoc α} (distinct : (keys xs).Nodup) (key : String) :
  last? key xs = get? key xs
  := by
  induction xs with
  | nil => rfl
  | cons entry xs ih =>
      obtain ⟨k, v⟩ := entry
      obtain ⟨new, distinct⟩ := List.nodup_cons.mp distinct
      rw [last?_cons, ih distinct]
      change (get? key xs).or (if k = key then some v else none)
        = if k = key then some v else get? key xs
      split
      · next same =>
          rw [← keys, ← isSome_get?, same, Option.not_isSome_iff_eq_none] at new
          rw [new]
          rfl
      · apply Option.or_none

/-- It makes no difference whether entries are made an association list first. -/
theorem get?_insertAll_ofEntries (entries : List (String × α)) (xs : Assoc α) (key : String) :
  get? key (insertAll (ofEntries entries) xs) = get? key (insertAll entries xs)
  := by
  have distinct : (keys (ofEntries entries)).Nodup := by
    apply nodup_keys_insertAll
    apply List.nodup_nil
  rw [get?_insertAll, get?_insertAll, last?_eq_get? distinct, get?_ofEntries]

/-- Without repeated keys, a key has the value that it is listed with. -/
theorem get?_eq_some_iff {xs : Assoc α} (distinct : (keys xs).Nodup) {key : String} {value : α} :
  get? key xs = some value ↔ (key, value) ∈ xs
  := by
  induction xs with
  | nil => simp [get?]
  | cons entry xs ih =>
      obtain ⟨k, v⟩ := entry
      obtain ⟨new, distinct⟩ := List.nodup_cons.mp distinct
      rw [get?, List.mem_cons, Prod.mk.injEq, ← ih distinct]
      split
      · next same =>
          subst same
          rw [← keys, ← isSome_get?, Option.not_isSome_iff_eq_none] at new
          simp [new, eq_comm]
      · next different => simp [Ne.symm different]

theorem nodup_of_nodup_keys {xs : Assoc α} (distinct : (keys xs).Nodup) :
  xs.Nodup
  := List.Nodup.of_map _ distinct

/-- Without repeated keys, the order of the entries makes no difference. -/
theorem get?_eq_of_perm {xs ys : Assoc α} (perm : xs.Perm ys) (distinct : (keys xs).Nodup)
    (key : String) :
  get? key xs = get? key ys
  := by
  have distinct' : (keys ys).Nodup := (perm.map Prod.fst).nodup_iff.mp distinct
  apply Option.ext
  intro value
  rw [get?_eq_some_iff distinct, get?_eq_some_iff distinct', perm.mem_iff]

/-! ### Layers -/

/-- Of layers put one over the other, the last one that has a key gives its value. -/
theorem get?_foldl_insertAll (layers : List (List (String × α))) (xs : Assoc α) (key : String) :
  get? key (layers.foldl (fun merged layer => insertAll layer merged) xs)
    = (layers.reverse.findSome? (last? key)).or (get? key xs)
  := by
  induction layers generalizing xs with
  | nil => rfl
  | cons layer layers ih =>
      rw [List.foldl_cons, ih, get?_insertAll, List.reverse_cons, List.findSome?_append,
        List.findSome?_singleton, Option.or_assoc]

/-- Layers put one over the other are their entries inserted one after another. -/
theorem foldl_insertAll (layers : List (List (String × α))) (xs : Assoc α) :
  layers.foldl (fun merged layer => insertAll layer merged) xs = insertAll layers.flatten xs
  := by
  induction layers generalizing xs with
  | nil => rfl
  | cons layer layers ih =>
      rw [List.foldl_cons, ih, List.flatten_cons, insertAll, insertAll, insertAll,
        List.foldl_append]

end Toolshed.Assoc
