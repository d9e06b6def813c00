import Toolshed.Cache
import Mathlib.Tactic.Use

/-!
# What a cache holds

Every operation of a cache is described by the entries that it leaves.  Only an insertion brings a
new entry, and a value that is found comes from an entry with the fingerprint that was asked for.
-/

namespace Toolshed.Cache

variable {α : Type} {c : Cache α} {now : Nat} {key : String} {current : Option Fingerprint}

theorem mem_without {entries : List (CacheEntry α)} {e : CacheEntry α} :
  e ∈ without key entries ↔ e ∈ entries ∧ e.key ≠ key
  := by
  rw [without, List.mem_filter, decide_eq_true_iff]

/-- The entry of a key is among the entries. -/
theorem mem_of_find? {e : CacheEntry α} (found : c.find? key = some e) :
  e ∈ c.entries ∧ e.key = key
  := by
  constructor
  · apply List.mem_of_find?_eq_some found
  · simpa using List.find?_some found

/-- The file of a fresh entry has the fingerprint that is kept. -/
theorem fingerprint_of_isFresh {e : CacheEntry α} (fresh : c.isFresh now current e = true) :
  current = some e.fingerprint
  := by
  rw [isFresh, Bool.and_eq_true, decide_eq_true_iff, decide_eq_true_iff] at fresh
  apply fresh.2

theorem peek?_eq_some {value : α} (stored : c.peek? key = some value) :
  ∃ e, c.find? key = some e ∧ e.value = value
  := by
  rw [peek?] at stored
  apply Option.map_eq_some_iff.mp stored

/-- An entry after an insertion is the new one, or an old one of another key. -/
theorem mem_insert {value : α} {fingerprint : Fingerprint} {e : CacheEntry α}
    (h : e ∈ (c.insert now key value fingerprint).entries) :
  (e ∈ c.entries ∧ e.key ≠ key) ∨ e = ⟨key, value, fingerprint, now⟩
  := by
  rcases List.mem_append.mp h with old | new
  · left
    apply mem_without.mp
    apply List.mem_of_mem_drop old
  · right
    apply List.mem_singleton.mp new

theorem mem_erase {e : CacheEntry α} :
  e ∈ (c.erase key).entries ↔ e ∈ c.entries ∧ e.key ≠ key
  := by
  apply mem_without

/-- A lookup finds an entry that is fresh, or it finds none and leaves none for its key. -/
theorem get_cases (c : Cache α) (now : Nat) (key : String) (current : Option Fingerprint) :
  (∃ e, c.find? key = some e ∧ current = some e.fingerprint ∧ now - e.inserted ≤ c.lifetime
      ∧ c.get now key current = (some e.value, { c with hits := c.hits + 1 }))
    ∨ ∃ c', c.get now key current = (none, c') ∧ c'.lifetime = c.lifetime
      ∧ ∀ e ∈ c'.entries, e ∈ c.entries ∧ e.key ≠ key
  := by
  rw [get]
  rcases stored : c.find? key with _ | e
  · right
    refine ⟨_, rfl, rfl, ?_⟩
    intro e among
    use among
    simpa using List.find?_eq_none.mp stored e among
  · dsimp only
    split
    · next fresh =>
        left
        rw [isFresh, Bool.and_eq_true, decide_eq_true_iff, decide_eq_true_iff] at fresh
        exact ⟨e, rfl, fresh.2, fresh.1, rfl⟩
    · right
      refine ⟨_, rfl, rfl, ?_⟩
      intro e among
      apply mem_without.mp among

/-- A lookup brings no new entry. -/
theorem mem_of_mem_get {e : CacheEntry α} (h : e ∈ (c.get now key current).2.entries) :
  e ∈ c.entries
  := by
  rcases c.get_cases now key current with ⟨_, _, _, _, hit⟩ | ⟨c', miss, _, fewer⟩
  · rw [hit] at h
    apply h
  · rw [miss] at h
    apply (fewer e h).1

/-- A value that is found is that of the entry of the key, whose fingerprint is the current one. -/
theorem get_eq_some {value : α} (found : (c.get now key current).1 = some value) :
  ∃ e, c.find? key = some e ∧ e.value = value ∧ current = some e.fingerprint
  := by
  rcases c.get_cases now key current with ⟨e, stored, same, _, hit⟩ | ⟨c', miss, _, _⟩
  · rw [hit] at found
    exact ⟨e, stored, Option.some.inj found, same⟩
  · rw [miss] at found
    cases found

/-! ### Keys -/

/-- An entry is determined by its key. -/
def Unambiguous (c : Cache α) : Prop :=
  ∀ e ∈ c.entries, ∀ e' ∈ c.entries, e.key = e'.key → e = e'

namespace Unambiguous

theorem of_subset {c' : Cache α} (h : c.Unambiguous) (fewer : ∀ e ∈ c'.entries, e ∈ c.entries) :
  c'.Unambiguous
  := by
  intro e among e' among' same
  apply h e (fewer e among) e' (fewer e' among') same

theorem insert (h : c.Unambiguous) (now : Nat) (key : String) (value : α)
    (fingerprint : Fingerprint) :
  (c.insert now key value fingerprint).Unambiguous
  := by
  intro e among e' among' same
  rcases mem_insert among with ⟨old, other⟩ | rfl
  · rcases mem_insert among' with ⟨old', _⟩ | rfl
    · apply h e old e' old' same
    · cases other same
  · rcases mem_insert among' with ⟨_, other⟩ | rfl
    · cases other same.symm
    · rfl

end Unambiguous

end Toolshed.Cache
