/-!
# Association lists in insertion order

An association list keeps its keys in the order of their first insertion; inserting a key again
replaces its value where it stands.
-/

namespace Toolshed

/-- Values by name, in insertion order. -/
abbrev Assoc (α : Type) := List (String × α)

namespace Assoc

variable {α : Type}

/-- The value of a key. -/
def get? (key : String) : Assoc α → Option α
  | [] => none
  | (k, v) :: rest => if k = key then some v else get? key rest

/-- A key with a new value: in its place if it is present, else at the end. -/
def insert (key : String) (value : α) : Assoc α → Assoc α
  | [] => [(key, value)]
  | (k, v) :: rest => if k = key then (k, value) :: rest else (k, v) :: insert key value rest

/-- The list without a key. -/
def erase (key : String) (xs : Assoc α) : Assoc α :=
  xs.filter fun (k, _) => k ≠ key

/-- The entries inserted one after another. -/
def insertAll (entries : List (String × α)) (xs : Assoc α) : Assoc α :=
  entries.foldl (fun acc (k, v) => insert k v acc) xs

/-- The association list of a list of entries. -/
def ofEntries (entries : List (String × α)) : Assoc α :=
  insertAll entries []

/-- The keys in order. -/
def keys (xs : Assoc α) : List String :=
  xs.map Prod.fst

end Assoc

end Toolshed
