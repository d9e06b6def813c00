import Toolshed.Decimal.Binary64

/-!
# Caches

A cache keeps what was derived from files, with the fingerprint that a file had then.  A value is
found as long as its file keeps that fingerprint and the value is not too old; one that fails this
is dropped.  A full cache drops the entry that was inserted first.
-/

namespace Toolshed

/-- The time of the last change of a file, and its size. -/
structure Fingerprint where
  modified : Int
  size : Nat
deriving DecidableEq, Inhabited

/-- What a cache keeps of a key. -/
structure CacheEntry (α : Type) where
  key : String
  value : α
  fingerprint : Fingerprint
  /-- The time at which the entry was inserted. -/
  inserted : Nat

/-- A cache: its bounds, its entries in the order of insertion, and what it has counted. -/
structure Cache (α : Type) where
  /-- The age up to which an entry is fresh. -/
  lifetime : Nat
  capacity : Nat
  entries : List (CacheEntry α)
  hits : Nat
  misses : Nat
  evictions : Nat

namespace Cache

variable {α : Type}

/-- The cache without entries; it has room for one at least. -/
def empty (lifetime capacity : Nat) : Cache α :=
  ⟨lifetime, max capacity 1, [], 0, 0, 0⟩

/-- The number of entries. -/
def size (c : Cache α) : Nat :=
  c.entries.length

/-- The entry of a key. -/
def find? (c : Cache α) (key : String) : Option (CacheEntry α) :=
  c.entries.find? fun e => e.key = key

/-- The stored value of a key, whatever became of its file. -/
def peek? (c : Cache α) (key : String) : Option α :=
  (c.find? key).map CacheEntry.value

/-- An entry is young enough, and its file has the fingerprint it had then. -/
def isFresh (c : Cache α) (now : Nat) (current : Option Fingerprint) (e : CacheEntry α) : Bool :=
  decide (now - e.inserted ≤ c.lifetime) && current = some e.fingerprint

/-- The entries without those of a key. -/
def without (key : String) (entries : List (CacheEntry α)) : List (CacheEntry α) :=
  entries.filter fun e => e.key ≠ key

/-- The value of a key whose file has the given fingerprint now; an entry that is not fresh is
dropped. -/
def get (c : Cache α) (now : Nat) (key : String) (current : Option Fingerprint) :
    Option α × Cache α :=
  match c.find? key with
  | none => (none, { c with misses := c.misses + 1 })
  | some e =>
    if c.isFresh now current e then (some e.value, { c with hits := c.hits + 1 })
    else (none, { c with entries := without key c.entries, misses := c.misses + 1 })

/-- A new value for a key, as the last entry; the first ones make room for it. -/
def insert (c : Cache α) (now : Nat) (key : String) (value : α) (fingerprint : Fingerprint) :
    Cache α :=
  let others := without key c.entries
  let surplus := others.length + 1 - c.capacity
  { c with
    entries := others.drop surplus ++ [⟨key, value, fingerprint, now⟩]
    evictions := c.evictions + surplus }

/-- The cache without a key. -/
def erase (c : Cache α) (key : String) : Cache α :=
  { c with entries := without key c.entries }

/-- The cache without entries, with what it has counted. -/
def clear (c : Cache α) : Cache α :=
  { c with entries := [] }

/-- The share of the lookups that found a value. -/
def hitRatio (c : Cache α) : Binary64 :=
  Binary64.ofRatio false c.hits (max (c.hits + c.misses) 1)

end Cache

end Toolshed
