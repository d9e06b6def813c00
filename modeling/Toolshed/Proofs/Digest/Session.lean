import Toolshed.Proofs.Digest.Verification
import Mathlib.Data.List.Induction
import Mathlib.Tactic.Use

/-!
# Verifying along a run

A session verifies files while time passes and files come, change and go.  Whatever it keeps was
computed at some moment of its run, and nothing that happened since has done away with it.  Along
every run in which fingerprints tell, a report is the same as if nothing were kept.
-/

namespace Toolshed.Integrity

/-- What happens in a session. -/
inductive Event where
  /-- The files are others from now on. -/
  | change (files : FileTree)
  | wait (time : Nat)
  | verify (path : String) (kind : ItemKind) (expected : Option String)
  | invalidate (path : String)
  | clear

/-- The files that come with an event. -/
def Event.files? : Event → Option FileTree
  | .change files => some files
  | _ => none

/-- A machine, and the hashes that are kept of its files. -/
structure Session where
  host : Host
  store : HashStore

namespace Session

/-- The report on a file. -/
def report (s : Session) (path : String) (kind : ItemKind) (expected : Option String) :
    Verification :=
  (s.store.verify s.host path kind expected).1

/-- The session after an event. -/
def step (s : Session) : Event → Session
  | .change files => { s with host := { s.host with files } }
  | .wait time => { s with host := { s.host with now := s.host.now + time } }
  | .verify path kind expected => { s with store := (s.store.verify s.host path kind expected).2 }
  | .invalidate path => { s with store := s.store.invalidate path }
  | .clear => { s with store := s.store.clear }

/-- The session after a run of events, which begins with nothing kept. -/
def run (settings : Settings) (host : Host) (events : List Event) : Session :=
  events.foldl step ⟨host, .empty settings⟩

/-- The files that there are at the start of a run or later. -/
def trees (host : Host) (events : List Event) : List FileTree :=
  host.files :: events.filterMap Event.files?

/-- An event does not do away with what is kept of a path for a kind of items: it does not
invalidate the path or clear the store, and it does not verify the path for another kind, unless in
vain. -/
def Spares (s : Session) (key : String) (kind : ItemKind) : Event → Prop
  | .invalidate path => Path.absolute path ≠ key
  | .clear => False
  | .verify path other expected =>
    Path.absolute path = key → (s.report path other expected).error = none → other = kind
  | .change _ => True
  | .wait _ => True

/-- No event of a run does away with what is kept of a path for a kind of items. -/
def SparesAll (s : Session) (key : String) (kind : ItemKind) : List Event → Prop
  | [] => True
  | event :: after => s.Spares key kind event ∧ (s.step event).SparesAll key kind after

theorem SparesAll.concat {s : Session} {key : String} {kind : ItemKind} {after : List Event}
    (spared : s.SparesAll key kind after) {event : Event}
    (h : (after.foldl step s).Spares key kind event) :
  s.SparesAll key kind (after ++ [event])
  := by
  induction after generalizing s with
  | nil => exact ⟨h, trivial⟩
  | cons first after ih =>
      obtain ⟨now, later⟩ := spared
      use now
      apply ih later h

variable {settings : Settings} {host : Host} {events : List Event}

theorem run_concat (settings : Settings) (host : Host) (events : List Event) (event : Event) :
  run settings host (events ++ [event]) = (run settings host events).step event
  := by
  rw [run, List.foldl_append]
  rfl

/-! ### Files, bounds and keys along a run -/

theorem mem_trees_append {before after : List Event} {files : FileTree}
    (among : files ∈ trees host before) :
  files ∈ trees host (before ++ after)
  := by
  rw [trees, List.filterMap_append]
  apply List.mem_append_left _ among

theorem files_mem_trees (settings : Settings) (host : Host) (events : List Event) :
  (run settings host events).host.files ∈ trees host events
  := by
  induction events using List.reverseRecOn with
  | nil => apply List.mem_singleton_self
  | append_singleton events event ih =>
      rw [run_concat]
      cases event with
      | change files =>
          rw [trees, List.filterMap_append]
          apply List.mem_cons_of_mem
          apply List.mem_append_right
          apply List.mem_singleton_self
      | _ => apply mem_trees_append ih

/-- The lifetime stays as it is, and each path is kept once. -/
structure Sound (settings : Settings) (s : Session) : Prop where
  lifetime : s.store.hashes.lifetime = settings.lifetime
  once : s.store.hashes.Unambiguous

theorem Sound.step {s : Session} (sound : Sound settings s) (event : Event) :
  Sound settings (s.step event)
  := by
  cases event with
  | change files => exact ⟨sound.lifetime, sound.once⟩
  | wait time => exact ⟨sound.lifetime, sound.once⟩
  | verify path kind expected =>
      rw [Session.step]
      rcases HashStore.verify_cases s.host path kind expected sound.once with
        ⟨e, _, _, _, _, _, hit⟩ | ⟨store', forgets, anew⟩
      · rw [hit]
        exact ⟨sound.lifetime, sound.once⟩
      · have lifetime := forgets.lifetime.trans sound.lifetime
        have once := sound.once.of_subset forgets.fewer
        rw [anew]
        rcases store'.verifyAnew_cases s.host path kind expected with
          ⟨_, _, h⟩ | ⟨hash, fingerprint, _, _, h⟩
        · rw [h]
          exact ⟨lifetime, once⟩
        · rw [h]
          use lifetime
          apply once.insert
  | invalidate path =>
      use sound.lifetime
      apply sound.once.of_subset
      intro e among
      apply (Cache.mem_erase.mp among).1
  | clear =>
      use sound.lifetime
      intro e among
      cases among

theorem sound_run (settings : Settings) (host : Host) (events : List Event) :
  Sound settings (run settings host events)
  := by
  apply List.foldlRecOn events step (motive := Sound settings)
  · use rfl
    intro e among
    cases among
  · intro s sound event _
    apply sound.step

/-! ### Where hashes come from -/

/-- A hash was computed in a run, when the time, the fingerprint of the file and its content were
those that are kept with it, and no event since then has done away with it. -/
def ComputedIn (settings : Settings) (host : Host) (events : List Event)
    (e : CacheEntry StoredHash) : Prop :=
  ∃ before path expected after,
    events = before ++ .verify path e.value.kind expected :: after
      ∧ Path.absolute path = e.key
      ∧ (run settings host before).host.now = e.inserted
      ∧ (run settings host before).host.files.fingerprint? path = some e.fingerprint
      ∧ hashFile (run settings host before).host.files e.value.kind path = .ok e.value.hash
      ∧ (run settings host before).report path e.value.kind expected
        = .ofHash expected e.value.hash false
      ∧ (run settings host (before ++ [.verify path e.value.kind expected])).SparesAll e.key
        e.value.kind after

namespace ComputedIn

variable {e : CacheEntry StoredHash}

theorem concat (computed : ComputedIn settings host events e) {event : Event}
    (spared : (run settings host events).Spares e.key e.value.kind event) :
  ComputedIn settings host (events ++ [event]) e
  := by
  obtain ⟨before, path, expected, after, rfl, key, time, fingerprint, hash, reported, spares⟩ :=
    computed
  refine ⟨before, path, expected, after ++ [event], ?_, key, time, fingerprint, hash, reported, ?_⟩
  · rw [List.append_assoc, List.cons_append]
  · apply spares.concat
    rw [run, ← List.foldl_append, List.append_assoc]
    apply spared

/-- A file whose fingerprint is the one that is kept has the hash that is kept. -/
theorem toOption_hashFile (computed : ComputedIn settings host events e)
    (tell : FingerprintsTell (trees host events)) {path : String}
    (key : e.key = Path.absolute path)
    (same : (run settings host events).host.files.fingerprint? path = some e.fingerprint) :
  (hashFile (run settings host events).host.files e.value.kind path).toOption
    = some e.value.hash
  := by
  obtain ⟨before, path', expected, after, split, key', _, fingerprint, hash, _, _⟩ := computed
  have here := files_mem_trees settings host events
  have there : (run settings host before).host.files ∈ trees host events := by
    rw [split]
    apply mem_trees_append
    apply files_mem_trees
  rw [toOption_hashFile_eq tell here there (key.symm.trans key'.symm) same fingerprint, hash]
  rfl

end ComputedIn

/-- What is kept after an event was computed then or before. -/
theorem computedIn_step
    (kept : ∀ e ∈ (run settings host events).store.hashes.entries,
      ComputedIn settings host events e) (event : Event) :
  ∀ e ∈ ((run settings host events).step event).store.hashes.entries,
    ComputedIn settings host (events ++ [event]) e
  := by
  have sound := sound_run settings host events
  intro e among
  cases event with
  | change files =>
      apply (kept e among).concat
      trivial
  | wait time =>
      apply (kept e among).concat
      trivial
  | verify path kind expected =>
      rw [step] at among
      rcases HashStore.verify_cases _ path kind expected sound.once with
        ⟨found, stored, key, kinds, _, _, hit⟩ | ⟨store', forgets, anew⟩
      · rw [hit] at among
        apply (kept e among).concat
        intro same _
        rw [sound.once e among found stored (same.symm.trans key.symm), kinds]
      · have old (among : e ∈ store'.hashes.entries) := kept e (forgets.fewer e among)
        rw [anew] at among
        rcases store'.verifyAnew_cases _ path kind expected with
          ⟨fault, _, h⟩ | ⟨hash, fingerprint, computed, current, h⟩
        · rw [h] at among
          apply (old among).concat
          intro _ fine
          rw [report, anew, h] at fine
          cases fine
        · rw [h] at among
          rcases Cache.mem_insert among with ⟨among, other⟩ | rfl
          · apply (old among).concat
            intro same
            cases other same.symm
          · refine ⟨events, path, expected, [], rfl, rfl, rfl, current, computed, ?_, trivial⟩
            rw [report, anew, h]
  | invalidate path =>
      obtain ⟨among, other⟩ := Cache.mem_erase.mp among
      apply (kept e among).concat
      intro same
      apply other same.symm
  | clear => cases among

/-- Whatever is kept after a run was computed in it. -/
theorem computedIn_run (settings : Settings) (host : Host) (events : List Event) :
  ∀ e ∈ (run settings host events).store.hashes.entries, ComputedIn settings host events e
  := by
  induction events using List.reverseRecOn with
  | nil =>
      intro e among
      cases among
  | append_singleton events event ih =>
      rw [run_concat]
      apply computedIn_step ih

/-- A hash that is kept of a file after a run was computed by a verification of the file, which had
success, and no event since then has done away with it. -/
theorem ComputedIn.exists_verify {e : CacheEntry StoredHash}
    (computed : ComputedIn settings host events e) :
  ∃ before path expected after,
    events = before ++ .verify path e.value.kind expected :: after
      ∧ Path.absolute path = e.key
      ∧ ((run settings host before).report path e.value.kind expected).error = none
      ∧ ((run settings host before).report path e.value.kind expected).isCached = false
      ∧ (run settings host before).host.files.fingerprint? path = some e.fingerprint
      ∧ (run settings host before).host.now = e.inserted
      ∧ (run settings host (before ++ [.verify path e.value.kind expected])).SparesAll e.key
        e.value.kind after
  := by
  obtain ⟨before, path, expected, after, split, key, time, fingerprint, _, reported, spares⟩ :=
    computed
  refine ⟨before, path, expected, after, split, key, ?_, ?_, fingerprint, time, spares⟩
  · rw [reported]
    rfl
  · rw [reported]
    rfl

/-- No hash is left of a file that cannot be read: what is left of it has its fingerprint. -/
theorem holds_eq_false_of_error (tell : FingerprintsTell (trees host events)) {path : String}
    {kind : ItemKind} {store : HashStore}
    (forgets : HashStore.Forgets (run settings host events).store store (Path.absolute path) kind
      ((run settings host events).host.files.fingerprint? path))
    {fault : FileFault}
    (unread : hashFile (run settings host events).host.files kind path = .error fault) :
  store.holds path = false
  := by
  rw [HashStore.holds, Option.isSome_eq_false_iff, Option.isNone_iff_eq_none,
    Option.eq_none_iff_forall_not_mem]
  intro e found
  obtain ⟨stored, key⟩ := Cache.mem_of_find? found
  have computed := computedIn_run settings host events e (forgets.fewer e stored)
  apply hashFile_ne_error (computed.toOption_hashFile tell key (forgets.other e stored key).2) kind
    fault unread

/-! ### Reports along a run -/

/-- After every run in which fingerprints tell, a report is the one that is made when nothing is
kept, apart from saying whether the hash was kept.  That is said only if, no longer ago than the
lifetime, the same file was verified for the same kind of items with success, when it had the
fingerprint that it has, and no event since then has done away with the hash.  After a failure, no
hash is kept for the file, and no new hash for any file. -/
theorem report_eq_anew (settings : Settings) (host : Host) (events : List Event)
    (tell : FingerprintsTell (trees host events)) (path : String) (kind : ItemKind)
    (expected : Option String) :
  let s := run settings host events
  { s.report path kind expected with isCached := false }
      = ((HashStore.empty settings).verify s.host path kind expected).1
    ∧ ((s.report path kind expected).isCached = true →
      ∃ before path' expected' after,
        events = before ++ .verify path' kind expected' :: after
        ∧ Path.absolute path' = Path.absolute path
        ∧ ((run settings host before).report path' kind expected').error = none
        ∧ ((run settings host before).report path' kind expected').isCached = false
        ∧ (∃ fingerprint, s.host.files.fingerprint? path = some fingerprint
          ∧ (run settings host before).host.files.fingerprint? path' = some fingerprint)
        ∧ s.host.now ≤ (run settings host before).host.now + settings.lifetime
        ∧ (run settings host (before ++ [.verify path' kind expected'])).SparesAll
          (Path.absolute path) kind after)
    ∧ ((s.report path kind expected).error ≠ none →
      let store := (s.step (.verify path kind expected)).store
      (s.report path kind expected).isCached = false ∧ store.holds path = false
        ∧ ∀ e ∈ store.hashes.entries, e ∈ s.store.hashes.entries)
  := by
  intro s
  have sound := sound_run settings host events
  have kept := computedIn_run settings host events
  rcases HashStore.verify_cases s.host path kind expected sound.once with
    ⟨e, stored, key, rfl, same, young, hit⟩ | ⟨store', forgets, anew⟩
  · have hash := (kept e stored).toOption_hashFile tell key same
    have reported : s.report path e.value.kind expected = .ofHash expected e.value.hash true := by
      rw [report, hit]
    rw [reported]
    refine ⟨?_, ?_, ?_⟩
    · rw [HashStore.verify_empty settings s.store, HashStore.verifyAnew_of_hash hash]
      rfl
    · intro _
      obtain ⟨before, path', expected', after, split, key', fine, fresh, fingerprint, time,
        spares⟩ := (kept e stored).exists_verify
      rw [key] at key' spares
      refine ⟨before, path', expected', after, split, key', fine, fresh, ⟨e.fingerprint, same,
        fingerprint⟩, ?_, spares⟩
      rw [sound.lifetime] at young
      omega
    · intro fails
      cases fails rfl
  · have reported : s.report path kind expected
        = (store'.verifyAnew s.host path kind expected).1 := by
      rw [report, anew]
    have fresh : (s.report path kind expected).isCached = false := by
      rw [reported, HashStore.isCached_verifyAnew]
    refine ⟨?_, ?_, ?_⟩
    · rw [HashStore.verify_empty settings store', ← reported, ← fresh]
    · intro cached
      cases fresh.symm.trans cached
    · intro fails
      rcases store'.verifyAnew_cases s.host path kind expected with
        ⟨fault, unread, h⟩ | ⟨hash, _, _, _, h⟩
      · use fresh
        rw [step, anew, h]
        constructor
        · apply holds_eq_false_of_error tell forgets unread
        · apply forgets.fewer
      · rw [reported, h] at fails
        cases fails rfl

/-! ### A file that is written anew -/

/-- A machine with one tool of a version. -/
def oneTool (version : String) (modified : Int) : Host :=
  let text := "\x7b\"version\":\"" ++ version ++ "\"\x7d"
  ⟨.directory [("a.json", .file text.toUTF8 modified false)], 0, []⟩

/-- The settings for a cache with room for one hash. -/
def narrow : Settings :=
  ⟨none, "/u", "/s", 10, 1⟩

/-- A tool is verified, and verified again after another version has replaced it. -/
def rewriting : List Event :=
  [.verify "/a.json" .tool none, .change (oneTool "1.0.1" 2).files, .wait 4,
    .verify "/a.json" .tool (some "0"), .wait 4]

/-- A hash that is kept of the new version is served, and is the one that would be computed. -/
theorem report_eq_anew_of_rewriting :
  let s := run narrow (oneTool "1.0.0" 1) rewriting
  FingerprintsTell (trees (oneTool "1.0.0" 1) rewriting)
    ∧ (s.report "/./a.json" .tool none).isCached = true
    ∧ { s.report "/./a.json" .tool none with isCached := false }
      = ((HashStore.empty narrow).verify s.host "/./a.json" .tool none).1
  := by
  have tell : FingerprintsTell (trees (oneTool "1.0.0" 1) rewriting) := by
    apply FingerprintsTell.of_nodes
    decide +kernel
  obtain ⟨same, _, _⟩ :=
    report_eq_anew narrow (oneTool "1.0.0" 1) rewriting tell "/./a.json" .tool none
  refine ⟨tell, ?_, ?_⟩
  · decide +kernel
  · apply same

end Session

end Toolshed.Integrity
