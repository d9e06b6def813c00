import Toolshed.Proofs.Assoc
import Toolshed.Proofs.Json.Reading

/-!
# What is read is proper

The numbers that are read are integers that 64 bits hold or finite numbers, and merging leaves no
key twice.  So every value that a text is read as is proper.
-/

namespace Toolshed.Json

variable {convert : Conversion}

/-! ### Numbers -/

theorem isProper_of_exactInt? {negative : Bool} {n : Nat} {number : Number}
    (h : exactInt? negative n = some number) :
  number.IsProper
  := by
  have least : Nat.pow 2 63 = 9223372036854775808 := rfl
  have most : Nat.pow 2 64 = 18446744073709551616 := rfl
  rw [exactInt?, least, most] at h
  split at h
  · split at h
    · cases h
      rw [Number.IsProper]
      omega
    · cases h
  · split at h
    · cases h
      rw [Number.IsProper]
      omega
    · cases h

theorem isProper_of_ofParts? {negative isReal : Bool} {whole fraction : List Char}
    {exponent : Option Int} {number : Number}
    (h : ofParts? convert negative isReal whole fraction exponent = some number) :
  number.IsProper
  := by
  rw [ofParts?] at h
  split at h
  · next exact =>
      cases h
      split at exact
      · cases exact
      · apply isProper_of_exactInt? exact
  · dsimp only at h
    split at h
    · next finite =>
        cases h
        apply finite
    · cases h

theorem isProper_of_readNumber {cs rest : List Char} {number : Number}
    (h : readNumber convert cs = some (number, rest)) :
  number.IsProper
  := by
  simp only [readNumber, Option.bind_eq_bind, Option.bind_eq_some_iff, Option.pure_def] at h
  obtain ⟨_, -, _, -, _, -, number, parts, same⟩ := h
  cases same
  apply isProper_of_ofParts? parts

/-! ### Merged values -/

namespace Value

theorem mergedItems_eq_map (items : List Value) :
  mergedItems items = items.map merged
  := by
  induction items with
  | nil => rfl
  | cons x items ih =>
      rw [mergedItems, ih]
      rfl

theorem mergedMembers_eq_map (members : List (String × Value)) :
  mergedMembers members = members.map fun (k, x) => (k, x.merged)
  := by
  induction members with
  | nil => rfl
  | cons m members ih =>
      obtain ⟨k, x⟩ := m
      rw [mergedMembers, ih]
      rfl

/-- The association list of members with proper values makes a proper object. -/
theorem isProper_ofEntries {entries : List (String × Value)}
    (each : ∀ m ∈ entries, m.2.IsProper) :
  (object (Assoc.ofEntries entries)).IsProper
  := by
  apply IsProper.object
  · apply Assoc.nodup_keys_insertAll
    apply List.nodup_nil
  · intro m among
    rcases Assoc.mem_insertAll among with among | ⟨⟨⟩⟩
    apply each m among

theorem isProper_merged_array {items : List Value} (each : ∀ x ∈ items, x.merged.IsProper) :
  (array items).merged.IsProper
  := by
  rw [merged, mergedItems_eq_map]
  apply IsProper.array
  rwa [List.forall_mem_map]

theorem isProper_merged_object {members : List (String × Value)}
    (each : ∀ m ∈ members, m.2.merged.IsProper) :
  (object members).merged.IsProper
  := by
  rw [merged, mergedMembers_eq_map]
  apply isProper_ofEntries
  rwa [List.forall_mem_map]

end Value

/-! ### Readers -/

section

variable {P : Value → Prop} {item : Reads Value}
  (each : ∀ {cs x rest}, item cs = some (x, rest) → P x)

include each

theorem forall_of_readItems {fuel : Nat} {cs rest : List Char} {xs : List Value}
    (h : readItems item fuel cs = some (xs, rest)) :
  ∀ x ∈ xs, P x
  := by
  induction fuel generalizing cs xs with
  | zero => cases h
  | succ fuel ih =>
      rw [readItems] at h
      obtain ⟨⟨x, cs⟩, first, h⟩ := Option.bind_eq_some_iff.mp h
      dsimp only at h
      split at h
      · obtain ⟨⟨xs, rest⟩, others, h⟩ := Option.bind_eq_some_iff.mp h
        cases h
        rw [List.forall_mem_cons]
        exact ⟨each first, ih others⟩
      · cases h
        rw [List.forall_mem_singleton]
        apply each first
      · cases h

theorem forall_of_readMembers {fuel : Nat} {cs rest : List Char} {xs : List (String × Value)}
    (h : readMembers item fuel cs = some (xs, rest)) :
  ∀ m ∈ xs, P m.2
  := by
  induction fuel generalizing cs xs with
  | zero => cases h
  | succ fuel ih =>
      rw [readMembers] at h
      split at h
      · obtain ⟨⟨key, cs⟩, -, h⟩ := Option.bind_eq_some_iff.mp h
        dsimp only at h
        split at h
        · obtain ⟨⟨x, cs⟩, first, h⟩ := Option.bind_eq_some_iff.mp h
          dsimp only at h
          split at h
          · obtain ⟨⟨xs, rest⟩, others, h⟩ := Option.bind_eq_some_iff.mp h
            cases h
            rw [List.forall_mem_cons]
            exact ⟨each first, ih others⟩
          · cases h
            rw [List.forall_mem_singleton]
            apply each first
          · cases h
        · cases h
      · cases h

end

theorem isProper_of_readValueBy {depth : Nat} {cs rest : List Char} {v : Value}
    (h : readValueBy convert depth cs = some (v, rest)) :
  v.merged.IsProper
  := by
  induction depth generalizing cs rest v with
  | zero => cases h
  | succ depth ih =>
      rw [readValueBy] at h
      split at h
      · cases h
        apply Value.IsProper.null
      · cases h
        apply Value.IsProper.bool
      · cases h
        apply Value.IsProper.bool
      · obtain ⟨⟨s, rest⟩, -, h⟩ := Option.bind_eq_some_iff.mp h
        cases h
        apply Value.IsProper.string
      · split at h
        · cases h
        · split at h
          · cases h
            apply Value.isProper_merged_array
            apply List.forall_mem_nil
          · obtain ⟨⟨xs, rest⟩, items, h⟩ := Option.bind_eq_some_iff.mp h
            cases h
            apply Value.isProper_merged_array (forall_of_readItems ih items)
      · split at h
        · cases h
        · split at h
          · cases h
            apply Value.isProper_merged_object
            apply List.forall_mem_nil
          · obtain ⟨⟨xs, rest⟩, members, h⟩ := Option.bind_eq_some_iff.mp h
            cases h
            apply Value.isProper_merged_object (forall_of_readMembers ih members)
      · obtain ⟨⟨n, rest⟩, number, h⟩ := Option.bind_eq_some_iff.mp h
        cases h
        apply Value.IsProper.number (isProper_of_readNumber number)

/-- The value of a text is proper. -/
theorem isProper_of_parse? {cs : List Char} {v : Value} (h : parse? cs = some v) :
  v.IsProper
  := by
  obtain ⟨w, members, rfl⟩ := Option.map_eq_some_iff.mp h
  obtain ⟨⟨w, rest⟩, reads, members⟩ := Option.bind_eq_some_iff.mp members
  dsimp only at members
  split at members
  · cases members
    apply isProper_of_readValueBy reads
  · cases members

end Toolshed.Json
