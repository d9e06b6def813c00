import Toolshed.Settings
import Toolshed.Digest.Identity
import Toolshed.Host

/-!
# Verifying items

The hash of an item file is compared with an expected one.  A hash is kept as long as the file keeps
its fingerprint, and only for the kind of item that the file was taken for.
-/

namespace Toolshed.Integrity

/-- A hash, and the kind of item that it was computed for. -/
structure StoredHash where
  kind : ItemKind
  hash : String
deriving DecidableEq, Inhabited

/-- The hashes computed before, by the absolute paths of the files. -/
structure HashStore where
  hashes : Cache StoredHash

/-- What verifying a file reports. -/
structure Verification where
  isValid : Bool
  expected : Option String
  actual : Option String
  error : Option FileFault
  /-- The hash was computed before. -/
  isCached : Bool
deriving DecidableEq, Inhabited

namespace Verification

/-- The report on a file with a given hash. -/
def ofHash (expected : Option String) (actual : String) (isCached : Bool) : Verification :=
  ⟨satisfies expected actual, expected, some actual, none, isCached⟩

/-- The report on a file that cannot be read. -/
def ofFault (expected : Option String) (fault : FileFault) : Verification :=
  ⟨false, expected, none, some fault, false⟩

end Verification

/-- The hash of the item in a file. -/
def hashFile (files : FileTree) (kind : ItemKind) (path : String) : Except FileFault String :=
  (files.read path).map (hashItem kind path)

namespace HashStore

/-- The store before anything is computed. -/
def empty (settings : Settings) : HashStore :=
  ⟨.empty settings.lifetime settings.capacity⟩

/-- The store without anything that it kept. -/
def clear (store : HashStore) : HashStore :=
  { store with hashes := store.hashes.clear }

/-- A hash is kept for a file. -/
def holds (store : HashStore) (path : String) : Bool :=
  (store.hashes.find? (Path.absolute path)).isSome

/-- The store without the hash of a file. -/
def invalidate (store : HashStore) (path : String) : HashStore :=
  { store with hashes := store.hashes.erase (Path.absolute path) }

/-- The report on a file whose hash is computed. -/
def verifyAnew (host : Host) (path : String) (kind : ItemKind) (expected : Option String)
    (store : HashStore) : Verification × HashStore :=
  match hashFile host.files kind path with
  | .error fault => (.ofFault expected fault, store)
  | .ok actual =>
    let report := Verification.ofHash expected actual false
    match host.files.fingerprint? path with
    | some fingerprint =>
      (report, { store with
        hashes := store.hashes.insert host.now (Path.absolute path) ⟨kind, actual⟩ fingerprint })
    | none => (report, store)

/-- The report on a file; a hash that is kept for the same kind of item is used. -/
def verify (host : Host) (path : String) (kind : ItemKind) (expected : Option String)
    (store : HashStore) : Verification × HashStore :=
  match store.hashes.get host.now (Path.absolute path) (host.files.fingerprint? path) with
  | (some stored, hashes) =>
    if stored.kind = kind then (.ofHash expected stored.hash true, { store with hashes })
    else verifyAnew host path kind expected { store with hashes }
  | (none, hashes) => verifyAnew host path kind expected { store with hashes }

end HashStore

end Toolshed.Integrity
