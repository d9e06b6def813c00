import Toolshed.Digest.Verification
import Toolshed.Proofs.Cache.Entries
import Toolshed.Proofs.Files.Lookup

/-!
# What verifying does

The hash of a file depends on its content, and on the names of its path.  A file is verified by a
hash that is kept, or its hash is computed; it is kept then, unless the file cannot be read.
-/

namespace Toolshed.Integrity

/-! ### Hashes of files -/

theorem toOption_hashFile (files : FileTree) (kind : ItemKind) (path : String) :
  (hashFile files kind path).toOption
    = ((files.content? path).bind String.fromUTF8?).map (hashItem kind path)
  := by
  rw [← FileTree.toOption_read, hashFile]
  rcases files.read path with fault | text
  · rfl
  · rfl

/-- The hash of an item depends on the names of its path only. -/
theorem hashItem_congr {path path' : String} (same : Path.names path = Path.names path')
    (kind : ItemKind) (content : String) :
  hashItem kind path content = hashItem kind path' content
  := by
  have last : Path.fileName? path = Path.fileName? path' := by
    rw [Path.fileName?, same, Path.fileName?]
  have stem : Path.stem? path = Path.stem? path' := by
    rw [Path.stem?, last, Path.stem?]
  have format : Format.ofToolPath? path = Format.ofToolPath? path' := by
    rw [Format.ofToolPath?, Path.extension?, last, Format.ofToolPath?, Path.extension?]
  cases kind with
  | tool => simp only [hashItem, toolIdentity, stem, format]
  | directive => simp only [hashItem, stem]
  | knowledge => simp only [hashItem, stem]

/-- A file with the fingerprint that a file with the same absolute path had has its hashes. -/
theorem toOption_hashFile_eq {trees : List FileTree} (tell : FingerprintsTell trees)
    {tree other : FileTree} (ht : tree ∈ trees) (ho : other ∈ trees) {path path' : String}
    (same : Path.absolute path = Path.absolute path') {fingerprint : Fingerprint}
    (now : tree.fingerprint? path = some fingerprint)
    (before : other.fingerprint? path' = some fingerprint) (kind : ItemKind) :
  (hashFile tree kind path).toOption = (hashFile other kind path').toOption
  := by
  have names : Path.names path = Path.names path' := by
    rw [← Path.names_absolute, same, Path.names_absolute]
  have items : hashItem kind path = hashItem kind path' := by
    funext content
    apply hashItem_congr names
  rw [toOption_hashFile, toOption_hashFile, tell.content?_eq_of_absolute ht ho same now before,
    items]

/-- A file that has a hash for one kind of items has one for each. -/
theorem hashFile_ne_error {files : FileTree} {kind : ItemKind} {path hash : String}
    (h : (hashFile files kind path).toOption = some hash) (other : ItemKind) (fault : FileFault) :
  hashFile files other path ≠ .error fault
  := by
  intro fails
  rw [hashFile] at h fails
  rcases read : files.read path with fault' | text
  · rw [read] at h
    cases h
  · rw [read] at fails
    cases fails

/-- A file that has a hash has a fingerprint. -/
theorem fingerprint?_of_hashFile {files : FileTree} {kind : ItemKind} {path hash : String}
    (h : hashFile files kind path = .ok hash) :
  ∃ fingerprint, files.fingerprint? path = some fingerprint
  := by
  rw [← Option.ne_none_iff_exists']
  intro missing
  have hashed := toOption_hashFile files kind path
  rw [h, FileTree.content?_of_fingerprint? missing] at hashed
  cases hashed

/-! ### Reports -/

namespace HashStore

variable {host : Host} {path : String} {kind : ItemKind} {expected : Option String}
  {store : HashStore}

/-- A file whose hash is computed cannot be read, or its hash is kept from then on. -/
theorem verifyAnew_cases (host : Host) (path : String) (kind : ItemKind)
    (expected : Option String) (store : HashStore) :
  (∃ fault, hashFile host.files kind path = .error fault
      ∧ store.verifyAnew host path kind expected = (.ofFault expected fault, store))
    ∨ ∃ hash fingerprint, hashFile host.files kind path = .ok hash
      ∧ host.files.fingerprint? path = some fingerprint
      ∧ store.verifyAnew host path kind expected = (.ofHash expected hash false,
        ⟨store.hashes.insert host.now (Path.absolute path) ⟨kind, hash⟩ fingerprint⟩)
  := by
  rw [verifyAnew]
  rcases computed : hashFile host.files kind path with fault | hash
  · left
    exact ⟨fault, rfl, rfl⟩
  · right
    obtain ⟨fingerprint, h⟩ := fingerprint?_of_hashFile computed
    refine ⟨hash, fingerprint, rfl, h, ?_⟩
    rw [h]

/-- What is reported on a file whose hash is computed does not depend on what is kept. -/
theorem verifyAnew_report (store other : HashStore) :
  (store.verifyAnew host path kind expected).1 = (other.verifyAnew host path kind expected).1
  := by
  rcases store.verifyAnew_cases host path kind expected with
    ⟨fault, fails, h⟩ | ⟨hash, fingerprint, computed, _, h⟩
  · rcases other.verifyAnew_cases host path kind expected with
      ⟨fault', fails', h'⟩ | ⟨hash', _, computed', _, h'⟩
    · rw [h, h', Except.error.inj (fails.symm.trans fails')]
    · cases fails.symm.trans computed'
  · rcases other.verifyAnew_cases host path kind expected with
      ⟨fault', fails', h'⟩ | ⟨hash', _, computed', _, h'⟩
    · cases computed.symm.trans fails'
    · rw [h, h', Except.ok.inj (computed.symm.trans computed')]

theorem isCached_verifyAnew (store : HashStore) :
  (store.verifyAnew host path kind expected).1.isCached = false
  := by
  rcases store.verifyAnew_cases host path kind expected with ⟨_, _, h⟩ | ⟨_, _, _, _, h⟩
  · rw [h]
    rfl
  · rw [h]
    rfl

/-- The report on a file that has a hash is the one on that hash. -/
theorem verifyAnew_of_hash {hash : String}
    (h : (hashFile host.files kind path).toOption = some hash) (store : HashStore) :
  (store.verifyAnew host path kind expected).1 = .ofHash expected hash false
  := by
  rcases store.verifyAnew_cases host path kind expected with
    ⟨fault, fails, _⟩ | ⟨hash', _, computed, _, anew⟩
  · cases hashFile_ne_error h kind fault fails
  · rw [computed] at h
    rw [anew, ← Option.some.inj h]

/-- The store is another one that has forgotten hashes, and keeps none of a kind for a path, unless
for another kind of items and with a given fingerprint. -/
structure Forgets (store store' : HashStore) (key : String) (kind : ItemKind)
    (current : Option Fingerprint) : Prop where
  lifetime : store'.hashes.lifetime = store.hashes.lifetime
  fewer : ∀ e ∈ store'.hashes.entries, e ∈ store.hashes.entries
  other : ∀ e ∈ store'.hashes.entries, e.key = key →
    e.value.kind ≠ kind ∧ current = some e.fingerprint

/-- A file is verified by a fresh hash that is kept for its kind, or its hash is computed. -/
theorem verify_cases (host : Host) (path : String) (kind : ItemKind) (expected : Option String)
    (once : store.hashes.Unambiguous) :
  (∃ e ∈ store.hashes.entries, e.key = Path.absolute path ∧ e.value.kind = kind
      ∧ host.files.fingerprint? path = some e.fingerprint
      ∧ host.now - e.inserted ≤ store.hashes.lifetime
      ∧ store.verify host path kind expected = (.ofHash expected e.value.hash true,
        ⟨{ store.hashes with hits := store.hashes.hits + 1 }⟩))
    ∨ ∃ store', Forgets store store' (Path.absolute path) kind (host.files.fingerprint? path)
      ∧ store.verify host path kind expected = store'.verifyAnew host path kind expected
  := by
  rw [verify]
  rcases store.hashes.get_cases host.now (Path.absolute path) (host.files.fingerprint? path) with
    ⟨e, stored, same, young, hit⟩ | ⟨hashes, miss, lifetime, fewer⟩
  · obtain ⟨among, key⟩ := Cache.mem_of_find? stored
    rw [hit]
    dsimp only
    split
    · next kinds =>
        left
        exact ⟨e, among, key, kinds, same, young, rfl⟩
    · next kinds =>
        right
        refine ⟨⟨{ store.hashes with hits := store.hashes.hits + 1 }⟩, ⟨rfl, ?_, ?_⟩, rfl⟩
        · intro e' among'
          apply among'
        · intro e' among' key'
          obtain rfl := once e' among' e among (key'.trans key.symm)
          use kinds
  · right
    rw [miss]
    refine ⟨⟨hashes⟩, ⟨lifetime, ?_, ?_⟩, rfl⟩
    · intro e among
      apply (fewer e among).1
    · intro e among key
      cases (fewer e among).2 key

/-- A store that keeps nothing computes every hash. -/
theorem verify_empty (settings : Settings) (store : HashStore) :
  ((empty settings).verify host path kind expected).1
    = (store.verifyAnew host path kind expected).1
  := by
  have once : (empty settings).hashes.Unambiguous := by
    intro e among
    cases among
  rcases verify_cases host path kind expected once with ⟨e, among, _⟩ | ⟨store', _, anew⟩
  · cases among
  · rw [anew, verifyAnew_report]

end HashStore

end Toolshed.Integrity
