import Toolshed.Proofs.Cache.Entries
import Toolshed.Proofs.Chain.Walk

/-!
# Reading through the cache of manifests

A builder reads manifests through a cache.  As long as fingerprints tell, what it reads is what the
files hold, and the same is so for all that it derives from there: the resolution of tools, and the
walks.  Reading changes nothing but the manifests that are kept.
-/

namespace Toolshed.Chain.Builder

/-! ### What reading changes -/

/-- A builder differs from another one in the manifests that it keeps only. -/
structure OnlyReads (b b' : Builder) : Prop where
  settings : b'.settings = b.settings
  chains : b'.chains = b.chains

namespace OnlyReads

theorem refl (b : Builder) :
  OnlyReads b b
  := by
  constructor
  · rfl
  · rfl

theorem trans {b b' b'' : Builder} (first : OnlyReads b b') (second : OnlyReads b' b'') :
  OnlyReads b b''
  := by
  constructor
  · rw [second.settings, first.settings]
  · rw [second.chains, first.chains]

end OnlyReads

theorem manifest?_onlyReads (host : Host) (path : String) (b : Builder) :
  OnlyReads b (b.manifest? host path).2
  := by
  rw [manifest?]
  split
  · constructor <;> rfl
  · split
    · constructor <;> rfl
    · split
      · constructor <;> rfl
      · constructor <;> rfl

theorem resolveAmong_onlyReads (host : Host) (candidates : List Candidate)
    (skipped : List SeenFile) (b : Builder) :
  OnlyReads b (resolveAmong host skipped candidates b).2
  := by
  induction candidates generalizing skipped b with
  | nil => apply OnlyReads.refl
  | cons candidate candidates ih =>
      have first := manifest?_onlyReads host candidate.path b
      rw [resolveAmong]
      split
      · next h =>
          rw [h] at first
          apply first
      · next h =>
          rw [h] at first
          apply first.trans (ih _ _)

theorem resolve_onlyReads (host : Host) (item : String) (b : Builder) :
  OnlyReads b (b.resolve host item).2
  := by
  apply resolveAmong_onlyReads

theorem follow_onlyReads (host : Host) (root : String) (room : Nat) (walked : Walked)
    (item : String) (b : Builder) :
  OnlyReads b (follow host root room walked item b).2
  := by
  induction room generalizing walked item b with
  | zero =>
      rw [follow]
      split
      · apply OnlyReads.refl
      · apply OnlyReads.refl
  | succ room ih =>
      have first := resolve_onlyReads host item b
      rw [follow]
      split
      · apply OnlyReads.refl
      · dsimp only
        split
        · next h =>
            rw [h] at first
            apply first
        · next h =>
            rw [h] at first
            split
            · apply first
            · apply first.trans (ih _ _ _)

/-! ### What is read -/

/-- In each of some trees, a file with the fingerprint that is kept for it holds the manifest that
is kept for it. -/
def Faithful (trees : List FileTree) (manifests : Cache Manifest) : Prop :=
  ∀ e ∈ manifests.entries, ∀ tree ∈ trees, tree.fingerprint? e.key = some e.fingerprint →
    Manifest.inFile? tree e.key = some e.value

/-- Reading gives the plain result, and what is kept then is faithful. -/
structure Tells {α : Type} (trees : List FileTree) (plain : α) (read : α × Builder) : Prop where
  result : read.1 = plain
  faithful : Faithful trees read.2.manifests

variable {trees : List FileTree} {host : Host}

theorem Faithful.get {manifests : Cache Manifest} (faithful : Faithful trees manifests)
    (now : Nat) (key : String) (current : Option Fingerprint) :
  Faithful trees (manifests.get now key current).2
  := by
  intro e h
  apply faithful e (Cache.mem_of_mem_get h)

/-- A manifest that was read from a file may be kept. -/
theorem Faithful.insert (tell : FingerprintsTell trees) (here : host.files ∈ trees)
    {manifests : Cache Manifest} (faithful : Faithful trees manifests) {path : String}
    {manifest : Manifest} {fingerprint : Fingerprint}
    (stamped : host.files.fingerprint? path = some fingerprint)
    (loads : Manifest.inFile? host.files path = some manifest) :
  Faithful trees (manifests.insert host.now path manifest fingerprint)
  := by
  intro e h tree ht same
  rcases Cache.mem_insert h with ⟨old, _⟩ | rfl
  · apply faithful e old tree ht same
  · rw [← loads]
    apply tell.inFile?_eq ht here
    rw [same, stamped]

/-- What is found in the cache is what the file holds. -/
theorem Faithful.get_eq_some (here : host.files ∈ trees) {manifests : Cache Manifest}
    (faithful : Faithful trees manifests) {path : String} {manifest : Manifest}
    (found : (manifests.get host.now path (host.files.fingerprint? path)).1 = some manifest) :
  Manifest.inFile? host.files path = some manifest
  := by
  obtain ⟨e, stored, value, current⟩ := Cache.get_eq_some found
  obtain ⟨kept, key⟩ := Cache.mem_of_find? stored
  rw [← key, ← value]
  apply faithful e kept _ here
  rw [key, current]

variable (tell : FingerprintsTell trees) (here : host.files ∈ trees)

include tell here

theorem manifest?_tells (path : String) {b : Builder} (faithful : Faithful trees b.manifests) :
  Tells trees (Manifest.inFile? host.files path) (b.manifest? host path)
  := by
  have after := faithful.get host.now path (host.files.fingerprint? path)
  rw [manifest?]
  split
  · next manifest manifests h =>
      rw [h] at after
      constructor
      · symm
        apply faithful.get_eq_some here
        rw [h]
      · apply after
  · next manifests h =>
      rw [h] at after
      split
      · next failure failed =>
          constructor
          · rw [Manifest.inFile?, failed]
            rfl
          · apply after
      · next manifest loads =>
          have inFile : Manifest.inFile? host.files path = some manifest := by
            rw [Manifest.inFile?, loads]
            rfl
          split
          · constructor
            · rw [inFile]
            · apply after
          · next fingerprint stamped =>
              constructor
              · rw [inFile]
              · apply after.insert tell here stamped inFile

theorem resolveAmong_tells (candidates : List Candidate) (skipped : List SeenFile) {b : Builder}
    (faithful : Faithful trees b.manifests) :
  Tells trees (firstLoading? host.files skipped candidates) (resolveAmong host skipped candidates b)
  := by
  induction candidates generalizing skipped b with
  | nil =>
      constructor
      · rfl
      · apply faithful
  | cons candidate candidates ih =>
      have first := manifest?_tells tell here candidate.path faithful
      rw [resolveAmong, firstLoading?, ← first.result]
      rcases h : b.manifest? host candidate.path with ⟨_ | manifest, b'⟩
      · rw [h] at first
        apply ih _ first.faithful
      · rw [h] at first
        constructor
        · rfl
        · apply first.faithful

theorem resolve_tells (item : String) {b : Builder} (faithful : Faithful trees b.manifests) :
  Tells trees (resolved? b.settings host.files item) (b.resolve host item)
  := by
  apply resolveAmong_tells tell here _ _ faithful

theorem follow_tells (root : String) (room : Nat) (walked : Walked) (item : String) {b : Builder}
    (faithful : Faithful trees b.manifests) :
  Tells trees (walkBy (resolved? b.settings host.files) root room walked item)
    (follow host root room walked item b)
  := by
  induction room generalizing walked item b with
  | zero =>
      rw [follow, walkBy]
      split
      · constructor
        · rfl
        · apply faithful
      · constructor
        · rfl
        · apply faithful
  | succ room ih =>
      have first := resolve_tells tell here item faithful
      have reads := resolve_onlyReads host item b
      rw [follow, walkBy]
      split
      · constructor
        · rfl
        · apply faithful
      · rw [← first.result]
        rcases h : b.resolve host item with ⟨_ | found, b'⟩
        · rw [h] at first
          constructor
          · rfl
          · apply first.faithful
        · rw [h] at first reads
          rw [← reads.settings]
          dsimp only
          rcases found.manifest.executor with _ | next
          · constructor
            · rfl
            · apply first.faithful
          · apply ih _ _ first.faithful

end Toolshed.Chain.Builder
