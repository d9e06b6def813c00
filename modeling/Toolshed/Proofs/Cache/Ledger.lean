import Toolshed.Proofs.Cache.Entries
import Mathlib.Data.Finset.Card
import Mathlib.Logic.Function.Basic

/-!
# What a cache is for

A ledger records what happened to a cache: the last insertion of every key, ever, and which keys
were not removed since then.  It knows nothing of a list of entries.  A key is removed when it is
erased, when everything is cleared, when it is looked up in vain, and when room is needed and no
present key was inserted longer ago.

Main statement: along every run a cache keeps exactly what its ledger calls present, in the order
of the last insertions, and every lookup finds exactly what the ledger tells (`run_refines`).
-/

namespace Toolshed.Cache

/-- What happens to a cache. -/
inductive Event (α : Type) where
  | wait (time : Nat)
  | get (key : String) (current : Option Fingerprint)
  | peek (key : String)
  | insert (key : String) (value : α) (fingerprint : Fingerprint)
  | erase (key : String)
  | clear

/-- The event is a lookup, which is counted as a hit or as a miss. -/
def Event.isGet {α : Type} : Event α → Bool
  | .get _ _ => true
  | _ => false

/-! ### Runs -/

/-- A cache and the time. -/
structure Timed (α : Type) where
  now : Nat
  cache : Cache α

namespace Timed

variable {α : Type}

/-- The cache after an event. -/
def step (s : Timed α) : Event α → Timed α
  | .wait time => { s with now := s.now + time }
  | .get key current => { s with cache := (s.cache.get s.now key current).2 }
  | .peek _ => s
  | .insert key value fingerprint =>
    { s with cache := s.cache.insert s.now key value fingerprint }
  | .erase key => { s with cache := s.cache.erase key }
  | .clear => { s with cache := s.cache.clear }

/-- The cache after a run of events. -/
def run (lifetime capacity : Nat) (events : List (Event α)) : Timed α :=
  events.foldl step ⟨0, .empty lifetime capacity⟩

/-- A lookup is counted once, and nothing else is. -/
theorem lookups_step (s : Timed α) (event : Event α) :
  (s.step event).cache.hits + (s.step event).cache.misses
    = s.cache.hits + s.cache.misses + if event.isGet then 1 else 0
  := by
  cases event with
  | get key current =>
      dsimp only [step, Event.isGet]
      rw [get]
      split
      · rfl
      · split
        · apply Nat.add_right_comm
        · rfl
  | _ => rfl

/-- Hits and misses together are as many as lookups. -/
theorem lookups_run (lifetime capacity : Nat) (events : List (Event α)) :
  (run lifetime capacity events).cache.hits + (run lifetime capacity events).cache.misses
    = events.countP Event.isGet
  := by
  induction events using List.reverseRecOn with
  | nil => rfl
  | append_singleton events event ih =>
      rw [run, List.foldl_append, ← run, List.countP_append, ← ih, List.countP_singleton]
      apply lookups_step

end Timed

/-! ### Ledgers -/

/-- An insertion of a key: what was stored, when, and how many insertions there were before. -/
structure Insertion (α : Type) where
  value : α
  fingerprint : Fingerprint
  time : Nat
  number : Nat

/-- What happened to a cache with given bounds. -/
structure Ledger (α : Type) where
  lifetime : Nat
  capacity : Nat
  now : Nat
  /-- The number of insertions. -/
  insertions : Nat
  /-- The last insertion of a key, whatever became of it. -/
  last? : String → Option (Insertion α)
  /-- The keys that were not removed since their last insertion. -/
  present : Finset String
  /-- The number of keys that were removed to make room. -/
  crowdedOut : Nat

namespace Ledger

variable {α : Type}

/-- The ledger before anything happens. -/
def start (lifetime capacity : Nat) : Ledger α :=
  ⟨lifetime, max capacity 1, 0, 0, fun _ => none, ∅, 0⟩

/-- The number of the last insertion of a key. -/
def number (l : Ledger α) (key : String) : Nat :=
  ((l.last? key).map Insertion.number).getD 0

/-- The insertion that a lookup of a key finds: the last one, as long as the key was not removed
since, its file has the fingerprint that it had, and the insertion is not too long ago. -/
def found? (l : Ledger α) (key : String) (current : Option Fingerprint) : Option (Insertion α) :=
  (l.last? key).filter fun i =>
    key ∈ l.present ∧ current = some i.fingerprint ∧ l.now - i.time ≤ l.lifetime

/-- The present keys whose last insertion is the oldest. -/
def oldest (l : Ledger α) : Finset String :=
  l.present.filter fun key => ∀ other ∈ l.present, l.number key ≤ l.number other

/-- The keys that have to go for a key: none if that is present or there is room for one more. -/
def inTheWay (l : Ledger α) (key : String) : Finset String :=
  if key ∈ l.present ∨ l.present.card < l.capacity then ∅ else l.oldest

/-- The ledger after an insertion. -/
def insert (l : Ledger α) (key : String) (value : α) (fingerprint : Fingerprint) : Ledger α :=
  { l with
    insertions := l.insertions + 1
    last? := Function.update l.last? key (some ⟨value, fingerprint, l.now, l.insertions⟩)
    present := Insert.insert key (l.present \ l.inTheWay key)
    crowdedOut := l.crowdedOut + (l.inTheWay key).card }

/-- The ledger after the removal of a key. -/
def erase (l : Ledger α) (key : String) : Ledger α :=
  { l with present := l.present.erase key }

/-- The ledger after an event. -/
def step (l : Ledger α) : Event α → Ledger α
  | .wait time => { l with now := l.now + time }
  | .get key current => if (l.found? key current).isSome then l else l.erase key
  | .peek _ => l
  | .insert key value fingerprint => l.insert key value fingerprint
  | .erase key => l.erase key
  | .clear => { l with present := ∅ }

/-- The ledger of a run of events. -/
def run (lifetime capacity : Nat) (events : List (Event α)) : Ledger α :=
  events.foldl step (start lifetime capacity)

/-- The bounds stay as they are. -/
theorem step_bounds (l : Ledger α) (event : Event α) :
  (l.step event).lifetime = l.lifetime ∧ (l.step event).capacity = l.capacity
  := by
  cases event with
  | get key current =>
      rw [step]
      split
      · exact ⟨rfl, rfl⟩
      · exact ⟨rfl, rfl⟩
  | _ => exact ⟨rfl, rfl⟩

theorem run_bounds (lifetime capacity : Nat) (events : List (Event α)) :
  (run lifetime capacity events).lifetime = lifetime
    ∧ (run lifetime capacity events).capacity = max capacity 1
  := by
  apply List.foldlRecOn events step
    (motive := fun l => l.lifetime = lifetime ∧ l.capacity = max capacity 1)
  · exact ⟨rfl, rfl⟩
  · intro l bounds event _
    obtain ⟨same, same'⟩ := l.step_bounds event
    rw [same, same']
    apply bounds

theorem found?_eq_some {l : Ledger α} {key : String} {current : Option Fingerprint}
    {i : Insertion α} :
  l.found? key current = some i ↔ l.last? key = some i ∧ key ∈ l.present
    ∧ current = some i.fingerprint ∧ l.now - i.time ≤ l.lifetime
  := by
  rw [found?, Option.filter_eq_some_iff, decide_eq_true_iff]

theorem last?_insert_self (l : Ledger α) (key : String) (value : α) (fingerprint : Fingerprint) :
  (l.insert key value fingerprint).last? key = some ⟨value, fingerprint, l.now, l.insertions⟩
  := by
  apply Function.update_self

theorem last?_insert_of_ne (l : Ledger α) {key other : String} (value : α)
    (fingerprint : Fingerprint) (h : other ≠ key) :
  (l.insert key value fingerprint).last? other = l.last? other
  := by
  apply Function.update_of_ne h

theorem number_insert_self (l : Ledger α) (key : String) (value : α) (fingerprint : Fingerprint) :
  (l.insert key value fingerprint).number key = l.insertions
  := by
  rw [number, last?_insert_self]
  rfl

theorem number_insert_of_ne (l : Ledger α) {key other : String} (value : α)
    (fingerprint : Fingerprint) (h : other ≠ key) :
  (l.insert key value fingerprint).number other = l.number other
  := by
  rw [number, last?_insert_of_ne l value fingerprint h]
  rfl

end Ledger

/-! ### What a cache keeps -/

variable {α : Type}

/-- The entry that an insertion makes. -/
def Insertion.entry (i : Insertion α) (key : String) : CacheEntry α :=
  ⟨key, i.value, i.fingerprint, i.time⟩

/-- A cache keeps what a ledger calls present, in the order of the last insertions. -/
structure Keeps (l : Ledger α) (s : Timed α) : Prop where
  now : s.now = l.now
  lifetime : s.cache.lifetime = l.lifetime
  capacity : s.cache.capacity = l.capacity
  room : 1 ≤ l.capacity
  within : s.cache.size ≤ l.capacity
  entries : ∀ e ∈ s.cache.entries, ∃ i, l.last? e.key = some i ∧ e = i.entry e.key
  present : ∀ key, key ∈ l.present ↔ ∃ e ∈ s.cache.entries, e.key = key
  ordered : s.cache.entries.Pairwise fun e e' => l.number e.key < l.number e'.key
  counted : ∀ e ∈ s.cache.entries, l.number e.key < l.insertions
  evictions : s.cache.evictions = l.crowdedOut

namespace Keeps

variable {l : Ledger α} {s : Timed α} {key : String} {current : Option Fingerprint}

theorem start (lifetime capacity : Nat) :
  Keeps (Ledger.start lifetime capacity) (⟨0, .empty lifetime capacity⟩ : Timed α)
  := by
  constructor
  · rfl
  · rfl
  · rfl
  · apply Nat.le_max_right
  · apply Nat.zero_le
  · intro e h
    cases h
  · intro key
    simp [Ledger.start, Cache.empty]
  · apply List.Pairwise.nil
  · intro e h
    cases h
  · rfl

/-- No key is kept twice. -/
theorem nodup (keeps : Keeps l s) :
  (s.cache.entries.map CacheEntry.key).Nodup
  := by
  rw [List.Nodup, List.pairwise_map]
  apply keeps.ordered.imp
  intro e e' older same
  rw [same] at older
  apply Nat.lt_irrefl _ older

/-- There are as many entries as keys that are present. -/
theorem card_present (keeps : Keeps l s) :
  l.present.card = s.cache.size
  := by
  have : l.present = (s.cache.entries.map CacheEntry.key).toFinset := by
    ext key
    rw [keeps.present, List.mem_toFinset, List.mem_map]
  rw [this, List.toFinset_card_of_nodup keeps.nodup, List.length_map]
  rfl

theorem without_of_not_mem (keeps : Keeps l s) (absent : key ∉ l.present) :
  without key s.cache.entries = s.cache.entries
  := by
  rw [without, List.filter_eq_self]
  intro e h
  rw [decide_eq_true_iff]
  rintro rfl
  apply absent
  apply (keeps.present e.key).mpr
  use e, h

/-! ### Lookups -/

theorem find?_eq_none (keeps : Keeps l s) :
  s.cache.find? key = none ↔ key ∉ l.present
  := by
  rw [find?, List.find?_eq_none, keeps.present]
  simp

/-- The entry of a key is what its last insertion made. -/
theorem find?_eq_some (keeps : Keeps l s) {e : CacheEntry α} (found : s.cache.find? key = some e) :
  ∃ i, l.last? key = some i ∧ key ∈ l.present ∧ e = i.entry key
  := by
  obtain ⟨among, same⟩ := mem_of_find? found
  obtain ⟨i, last, stored⟩ := keeps.entries e among
  rw [same] at last stored
  refine ⟨i, last, ?_, stored⟩
  apply (keeps.present key).mpr
  use e, among

/-- A lookup that finds an insertion is a hit, and leaves the entries as they are. -/
theorem get_of_found (keeps : Keeps l s) {i : Insertion α}
    (found : l.found? key current = some i) :
  s.cache.get s.now key current = (some i.value, { s.cache with hits := s.cache.hits + 1 })
  := by
  obtain ⟨last, present, same, young⟩ := Ledger.found?_eq_some.mp found
  rw [get]
  rcases h : s.cache.find? key with _ | e
  · exact absurd present (keeps.find?_eq_none.mp h)
  · obtain ⟨i', last', -, rfl⟩ := keeps.find?_eq_some h
    obtain rfl := Option.some.inj (last.symm.trans last')
    have fresh : s.cache.isFresh s.now current (i.entry key) = true := by
      simp [isFresh, Insertion.entry, same, keeps.now, keeps.lifetime, young]
    dsimp only
    rw [if_pos fresh]
    rfl

/-- A lookup that finds no insertion is a miss, and drops the entry of the key. -/
theorem get_of_not_found (keeps : Keeps l s) (missing : l.found? key current = none) :
  s.cache.get s.now key current
    = (none, { s.cache with
        entries := without key s.cache.entries, misses := s.cache.misses + 1 })
  := by
  rw [get]
  rcases h : s.cache.find? key with _ | e
  · rw [keeps.without_of_not_mem (keeps.find?_eq_none.mp h)]
  · obtain ⟨i, last, present, rfl⟩ := keeps.find?_eq_some h
    have stale : ¬ s.cache.isFresh s.now current (i.entry key) = true := by
      intro fresh
      simp only [isFresh, Insertion.entry, Bool.and_eq_true, decide_eq_true_eq, keeps.now,
        keeps.lifetime] at fresh
      have found := Ledger.found?_eq_some.mpr ⟨last, present, of_decide_eq_true fresh.2, fresh.1⟩
      rw [missing] at found
      cases found
    dsimp only
    rw [if_neg stale]

/-- A lookup finds what the last insertion of the key stored, if it is present and as fresh as it
has to be. -/
theorem get_eq_some_iff (keeps : Keeps l s) (value : α) :
  (s.cache.get s.now key current).1 = some value ↔
    ∃ i, l.last? key = some i ∧ i.value = value ∧ current = some i.fingerprint
      ∧ l.now - i.time ≤ l.lifetime ∧ key ∈ l.present
  := by
  rcases h : l.found? key current with _ | i
  · rw [keeps.get_of_not_found h]
    constructor
    · rintro ⟨⟩
    · rintro ⟨i, last, -, same, young, present⟩
      rw [Ledger.found?_eq_some.mpr ⟨last, present, same, young⟩] at h
      cases h
  · obtain ⟨last, present, same, young⟩ := Ledger.found?_eq_some.mp h
    rw [keeps.get_of_found h]
    constructor
    · intro found
      use i, last, Option.some.inj found, same, young
    · rintro ⟨i', last', stored, -⟩
      obtain rfl := Option.some.inj (last.symm.trans last')
      rw [stored]

/-- A lookup leaves the entries as they are if it finds a value, and else drops the entry of the
key. -/
theorem entries_get (keeps : Keeps l s) :
  (s.cache.get s.now key current).2.entries
    = if (s.cache.get s.now key current).1.isSome then s.cache.entries
      else without key s.cache.entries
  := by
  rcases h : l.found? key current with _ | i
  · rw [keeps.get_of_not_found h]
    rfl
  · rw [keeps.get_of_found h]
    rfl

/-- What is stored for a key is what its last insertion stored, as long as it is present. -/
theorem peek?_eq (keeps : Keeps l s) :
  s.cache.peek? key = if key ∈ l.present then (l.last? key).map Insertion.value else none
  := by
  rw [peek?]
  rcases h : s.cache.find? key with _ | e
  · rw [if_neg (keeps.find?_eq_none.mp h)]
    rfl
  · obtain ⟨i, last, present, rfl⟩ := keeps.find?_eq_some h
    rw [if_pos present, last]
    rfl

/-! ### Insertions -/

/-- A key that is present, or not the first beyond the capacity, fits beside the others. -/
theorem length_without_lt (keeps : Keeps l s)
    (room : key ∈ l.present ∨ s.cache.size < s.cache.capacity) :
  (without key s.cache.entries).length < s.cache.capacity
  := by
  rcases room with present | room
  · obtain ⟨e, among, rfl⟩ := (keeps.present key).mp present
    apply Nat.lt_of_lt_of_le _ (keeps.within.trans_eq keeps.capacity.symm)
    apply List.length_filter_lt_length_iff_exists.mpr
    use e, among
    simp
  · apply Nat.lt_of_le_of_lt (List.length_filter_le _ _) room

/-- A key that fits beside the others is put behind them, and none of them goes. -/
theorem insert_of_room (keeps : Keeps l s) {value : α} {fingerprint : Fingerprint}
    (room : key ∈ l.present ∨ s.cache.size < s.cache.capacity) :
  s.cache.insert s.now key value fingerprint
    = { s.cache with
        entries := without key s.cache.entries ++ [⟨key, value, fingerprint, s.now⟩] }
  := by
  have fits := keeps.length_without_lt room
  have surplus : (without key s.cache.entries).length + 1 - s.cache.capacity = 0 := by omega
  rw [Cache.insert]
  simp only [surplus, List.drop_zero, Nat.add_zero]

/-- The entry that was inserted first makes room for a key that is not present. -/
theorem insert_of_full (keeps : Keeps l s) (value : α) (fingerprint : Fingerprint)
    (absent : key ∉ l.present) (full : s.cache.size = s.cache.capacity) :
  ∃ first rest, s.cache.entries = first :: rest ∧
    s.cache.insert s.now key value fingerprint
      = { s.cache with
          entries := rest ++ [⟨key, value, fingerprint, s.now⟩]
          evictions := s.cache.evictions + 1 }
  := by
  rcases h : s.cache.entries with _ | ⟨first, rest⟩
  · have room := keeps.room
    rw [← keeps.capacity, ← full, size, h] at room
    cases room
  · use first, rest, rfl
    have surplus : (without key s.cache.entries).length + 1 - s.cache.capacity = 1 := by
      rw [keeps.without_of_not_mem absent, ← full, size]
      omega
    rw [Cache.insert]
    simp only [surplus]
    rw [keeps.without_of_not_mem absent, h]
    rfl

/-- The first entry is the one whose last insertion is the oldest. -/
theorem oldest_eq (keeps : Keeps l s) {first : CacheEntry α} {rest : List (CacheEntry α)}
    (h : s.cache.entries = first :: rest) :
  l.oldest = {first.key}
  := by
  have ordered := keeps.ordered
  rw [h, List.pairwise_cons] at ordered
  have isPresent (e : CacheEntry α) (among : e ∈ first :: rest) : e.key ∈ l.present := by
    apply (keeps.present e.key).mpr
    use e
    rw [h]
    use among
  ext key
  rw [Ledger.oldest, Finset.mem_filter, Finset.mem_singleton]
  constructor
  · rintro ⟨present, least⟩
    obtain ⟨e, among, rfl⟩ := (keeps.present key).mp present
    rw [h, List.mem_cons] at among
    rcases among with rfl | among
    · rfl
    · have older := ordered.1 e among
      have younger := least first.key (isPresent first List.mem_cons_self)
      omega
  · rintro rfl
    use isPresent first List.mem_cons_self
    intro other present
    obtain ⟨e, among, rfl⟩ := (keeps.present other).mp present
    rw [h, List.mem_cons] at among
    rcases among with rfl | among
    · apply Nat.le_refl
    · apply (ordered.1 e among).le

/-! ### Steps -/

/-- Removing the entry of a key removes the key. -/
theorem erase (keeps : Keeps l s) (key : String) (hits misses : Nat) :
  Keeps (l.erase key)
    ⟨s.now, { s.cache with entries := without key s.cache.entries, hits, misses }⟩
  := by
  constructor
  · apply keeps.now
  · apply keeps.lifetime
  · apply keeps.capacity
  · apply keeps.room
  · apply (List.length_filter_le _ _).trans keeps.within
  · intro e h
    apply keeps.entries e (mem_without.mp h).1
  · intro other
    rw [Ledger.erase, Finset.mem_erase, keeps.present]
    constructor
    · rintro ⟨different, e, among, rfl⟩
      use e, mem_without.mpr ⟨among, different⟩
    · rintro ⟨e, among, rfl⟩
      obtain ⟨among, different⟩ := mem_without.mp among
      use different, e, among
  · apply keeps.ordered.filter
  · intro e h
    apply keeps.counted e (mem_without.mp h).1
  · apply keeps.evictions

/-- Putting an entry behind those that are not in its way inserts its key. -/
theorem append (keeps : Keeps l s) {value : α} {fingerprint : Fingerprint}
    {kept : List (CacheEntry α)} {evictions : Nat} (among : kept.Sublist s.cache.entries)
    (fits : kept.length + 1 ≤ l.capacity)
    (h : ∀ e ∈ s.cache.entries, e ∈ kept ↔ e.key ≠ key ∧ e.key ∉ l.inTheWay key)
    (gone : evictions = s.cache.evictions + (l.inTheWay key).card) :
  Keeps (l.insert key value fingerprint)
    ⟨s.now, { s.cache with
      entries := kept ++ [⟨key, value, fingerprint, s.now⟩], evictions }⟩
  := by
  have different (e : CacheEntry α) (old : e ∈ kept) : e.key ≠ key :=
    ((h e (among.subset old)).mp old).1
  have number (e : CacheEntry α) (old : e ∈ kept) :
      (l.insert key value fingerprint).number e.key = l.number e.key :=
    l.number_insert_of_ne value fingerprint (different e old)
  constructor
  · apply keeps.now
  · apply keeps.lifetime
  · apply keeps.capacity
  · apply keeps.room
  · rw [size, List.length_append]
    apply fits
  · intro e member
    rcases List.mem_append.mp member with old | new
    · rw [l.last?_insert_of_ne value fingerprint (different e old)]
      apply keeps.entries e (among.subset old)
    · obtain rfl := List.mem_singleton.mp new
      use ⟨value, fingerprint, l.now, l.insertions⟩, l.last?_insert_self key value fingerprint
      rw [keeps.now]
      rfl
  · intro other
    dsimp only [Ledger.insert]
    rw [Finset.mem_insert, Finset.mem_sdiff, keeps.present]
    constructor
    · rintro (rfl | ⟨⟨e, member, rfl⟩, stays⟩)
      · use ⟨other, value, fingerprint, s.now⟩
        simp
      · by_cases same : e.key = key
        · use ⟨key, value, fingerprint, s.now⟩
          simp [same]
        · use e
          simp [(h e member).mpr ⟨same, stays⟩]
    · rintro ⟨e, member, rfl⟩
      rcases List.mem_append.mp member with old | new
      · right
        obtain ⟨_, stays⟩ := (h e (among.subset old)).mp old
        exact ⟨⟨e, among.subset old, rfl⟩, stays⟩
      · left
        rw [List.mem_singleton.mp new]
  · rw [List.pairwise_append]
    refine ⟨?_, List.pairwise_singleton _ _, ?_⟩
    · apply (keeps.ordered.sublist among).imp_of_mem
      intro e e' old old' older
      rw [number e old, number e' old']
      apply older
    · intro e old e' new
      rw [List.mem_singleton.mp new, number e old, l.number_insert_self]
      apply keeps.counted e (among.subset old)
  · intro e member
    dsimp only [Ledger.insert]
    rcases List.mem_append.mp member with old | new
    · have := keeps.counted e (among.subset old)
      have same := number e old
      dsimp only [Ledger.insert] at same
      omega
    · have same := l.number_insert_self key value fingerprint
      rw [List.mem_singleton.mp new]
      dsimp only [Ledger.insert] at same ⊢
      omega
  · dsimp only [Ledger.insert]
    rw [gone, keeps.evictions]

/-- An insertion keeps the new key, and removes what is in its way. -/
theorem insert (keeps : Keeps l s) (key : String) (value : α) (fingerprint : Fingerprint) :
  Keeps (l.insert key value fingerprint)
    ⟨s.now, s.cache.insert s.now key value fingerprint⟩
  := by
  by_cases room : key ∈ l.present ∨ s.cache.size < s.cache.capacity
  · have nothing : l.inTheWay key = ∅ := by
      rw [Ledger.inTheWay, if_pos]
      rwa [keeps.card_present, ← keeps.capacity]
    rw [keeps.insert_of_room room]
    apply keeps.append
    · apply List.filter_sublist
    · rw [← keeps.capacity]
      apply keeps.length_without_lt room
    · intro e among
      simp [mem_without, among, nothing]
    · rw [nothing]
      rfl
  · obtain ⟨absent, full⟩ := not_or.mp room
    have full : s.cache.size = s.cache.capacity := by
      have := keeps.within
      rw [← keeps.capacity] at this
      omega
    obtain ⟨first, rest, entries, inserted⟩ :=
      keeps.insert_of_full value fingerprint absent full
    have oldest : l.inTheWay key = {first.key} := by
      rw [Ledger.inTheWay, if_neg, keeps.oldest_eq entries]
      rwa [keeps.card_present, ← keeps.capacity]
    have unique := keeps.nodup
    rw [entries, List.map_cons, List.nodup_cons, List.mem_map] at unique
    rw [inserted]
    apply keeps.append
    · rw [entries]
      apply List.sublist_cons_self
    · rw [← keeps.capacity, ← full, Cache.size, entries]
      rfl
    · intro e among
      rw [oldest, Finset.mem_singleton]
      have present : e.key ∈ l.present := (keeps.present e.key).mpr ⟨e, among, rfl⟩
      rw [entries, List.mem_cons] at among
      constructor
      · intro old
        constructor
        · rintro rfl
          apply absent present
        · intro same
          apply unique.1 ⟨e, old, same⟩
      · rintro ⟨_, different⟩
        apply among.resolve_left
        rintro rfl
        apply different rfl
    · rw [oldest]
      rfl

/-- Whatever happens, a cache keeps what its ledger calls present. -/
theorem step (keeps : Keeps l s) (event : Event α) :
  Keeps (l.step event) (s.step event)
  := by
  cases event with
  | wait time =>
      refine ⟨?_, keeps.lifetime, keeps.capacity, keeps.room, keeps.within, keeps.entries,
        keeps.present, keeps.ordered, keeps.counted, keeps.evictions⟩
      dsimp only [Ledger.step, Timed.step]
      rw [keeps.now]
  | get key current =>
      rw [Ledger.step, Timed.step]
      rcases h : l.found? key current with _ | i
      · rw [keeps.get_of_not_found h]
        apply keeps.erase
      · rw [keeps.get_of_found h]
        exact ⟨keeps.now, keeps.lifetime, keeps.capacity, keeps.room, keeps.within, keeps.entries,
          keeps.present, keeps.ordered, keeps.counted, keeps.evictions⟩
  | peek key => apply keeps
  | insert key value fingerprint => apply keeps.insert
  | erase key => apply keeps.erase
  | clear =>
      refine ⟨keeps.now, keeps.lifetime, keeps.capacity, keeps.room, ?_, ?_, ?_, ?_, ?_,
        keeps.evictions⟩
      · apply Nat.zero_le
      · intro e h
        cases h
      · intro key
        simp [Ledger.step, Timed.step, clear]
      · apply List.Pairwise.nil
      · intro e h
        cases h

/-- Along every run a cache keeps what its ledger calls present. -/
theorem run (lifetime capacity : Nat) (events : List (Event α)) :
  Keeps (Ledger.run lifetime capacity events) (Timed.run lifetime capacity events)
  := by
  rw [Ledger.run, Timed.run]
  have keeps := start (α := α) lifetime capacity
  generalize Ledger.start lifetime capacity = l at keeps
  generalize (⟨0, .empty lifetime capacity⟩ : Timed α) = s at keeps
  induction events generalizing l s with
  | nil => apply keeps
  | cons event events ih => apply ih _ _ (keeps.step event)

end Keeps

/-! ### Every run -/

/-- Along every run a cache agrees with its ledger.  It keeps what is present, never more than it
has room for and no key twice, in the order of the last insertions.  A lookup finds a value exactly
when the last insertion of the key stored it, with the fingerprint that is asked for and no longer
ago than the lifetime, and the key was not removed since; it leaves the entries as they are, or
drops the entry of the key.  An insertion removes nothing when the key is present or there is room,
and else the one entry whose last insertion is the oldest.  What is counted is what happened. -/
theorem run_refines {α : Type} (lifetime capacity : Nat) (events : List (Event α)) :
  let l := Ledger.run lifetime capacity events
  let s := Timed.run lifetime capacity events
  s.cache.size ≤ max capacity 1
    ∧ (s.cache.entries.map CacheEntry.key).Nodup
    ∧ (∀ key, key ∈ l.present ↔ ∃ e ∈ s.cache.entries, e.key = key)
    ∧ (s.cache.entries.Pairwise fun e e' => l.number e.key < l.number e'.key)
    ∧ (∀ key current,
        (∀ value, (s.cache.get s.now key current).1 = some value ↔
          ∃ i, l.last? key = some i ∧ i.value = value ∧ current = some i.fingerprint
            ∧ l.now - i.time ≤ lifetime ∧ key ∈ l.present)
        ∧ (s.cache.get s.now key current).2.entries
          = if (s.cache.get s.now key current).1.isSome then s.cache.entries
            else without key s.cache.entries)
    ∧ (∀ key, s.cache.peek? key
        = if key ∈ l.present then (l.last? key).map Insertion.value else none)
    ∧ (∀ key value fingerprint,
        (key ∈ l.present ∨ s.cache.size < max capacity 1 →
          s.cache.insert s.now key value fingerprint
            = { s.cache with
                entries := without key s.cache.entries ++ [⟨key, value, fingerprint, s.now⟩] })
        ∧ (key ∉ l.present → s.cache.size = max capacity 1 →
          ∃ first rest, s.cache.entries = first :: rest
            ∧ (∀ e ∈ rest, l.number first.key < l.number e.key)
            ∧ s.cache.insert s.now key value fingerprint
              = { s.cache with
                  entries := rest ++ [⟨key, value, fingerprint, s.now⟩]
                  evictions := s.cache.evictions + 1 }))
    ∧ s.cache.hits + s.cache.misses = events.countP Event.isGet
    ∧ s.cache.evictions = l.crowdedOut
  := by
  have keeps := Keeps.run lifetime capacity events
  have lookups := Timed.lookups_run lifetime capacity events
  obtain ⟨lifetime_eq, capacity_eq⟩ := Ledger.run_bounds (α := α) lifetime capacity events
  generalize Ledger.run lifetime capacity events = l at keeps lifetime_eq capacity_eq ⊢
  generalize Timed.run lifetime capacity events = s at keeps lookups ⊢
  dsimp only
  rw [← lifetime_eq, ← capacity_eq]
  refine ⟨keeps.within, keeps.nodup, keeps.present, keeps.ordered, ?_, fun _ => keeps.peek?_eq, ?_,
    lookups, keeps.evictions⟩
  · intro key current
    constructor
    · apply keeps.get_eq_some_iff
    · apply keeps.entries_get
  · intro key value fingerprint
    rw [← keeps.capacity]
    constructor
    · apply keeps.insert_of_room
    · intro absent full
      obtain ⟨first, rest, entries, inserted⟩ := keeps.insert_of_full value fingerprint absent full
      have ordered := keeps.ordered
      rw [entries, List.pairwise_cons] at ordered
      use first, rest, entries, ordered.1, inserted

end Toolshed.Cache
