import Toolshed.Proofs.Chain.Keeping
import Mathlib.Data.List.Induction
import Mathlib.Logic.Function.Basic

/-!
# Sessions

A session is a builder at work while time passes and files come, change and go.  It remembers from
which files the chain that is kept for a tool was built.  Along every run in which fingerprints
tell, what the builder keeps is what those files gave.
-/

namespace Toolshed.Chain

/-- What happens in a session. -/
inductive Event where
  /-- The files are others from now on. -/
  | change (files : FileTree)
  | wait (time : Nat)
  | build (item : String) (anew : Bool)
  | load (path : String)
  | resolve (item : String)
  | clear

/-- The files that come with an event. -/
def Event.files? : Event → Option FileTree
  | .change files => some files
  | _ => none

/-- A builder, the machine it works on, and the files from which it built the last chain of each
tool. -/
structure Session where
  host : Host
  builder : Builder
  origins : String → Option FileTree

namespace Session

/-- The session that has not built anything. -/
def start (settings : Settings) (host : Host) : Session :=
  ⟨host, .empty settings, fun _ => none⟩

/-- The session after a chain was asked for.  A chain that was found, and was not served, was built
from the files that there are. -/
def build (s : Session) (item : String) (anew : Bool) : Session :=
  let (result, builder) := s.builder.build s.host item anew
  let isBuilt := !s.builder.isServed s.host item anew && isFound result
  ⟨s.host, builder, if isBuilt then Function.update s.origins item s.host.files else s.origins⟩

/-- The session after an event. -/
def step (s : Session) : Event → Session
  | .change files => { s with host := { s.host with files } }
  | .wait time => { s with host := { s.host with now := s.host.now + time } }
  | .build item anew => s.build item anew
  | .load path => { s with builder := (s.builder.manifest? s.host path).2 }
  | .resolve item => { s with builder := (s.builder.resolve s.host item).2 }
  | .clear => { s with builder := s.builder.clear }

/-- The session after a run of events. -/
def run (settings : Settings) (host : Host) (events : List Event) : Session :=
  events.foldl step (start settings host)

/-- The files that there are at the start of a run or later. -/
def trees (host : Host) (events : List Event) : List FileTree :=
  host.files :: events.filterMap Event.files?

/-- The settings stay as they are. -/
theorem step_settings (s : Session) (event : Event) :
  (s.step event).builder.settings = s.builder.settings
  := by
  cases event with
  | change files => rfl
  | wait time => rfl
  | build item anew =>
      obtain ⟨b', forgets, ⟨_, _, _, served⟩ | ⟨_, built⟩⟩ :=
        Builder.build_cases s.host item anew s.builder
      · rw [step, build, served]
        apply forgets.settings
      · rw [step, build, built]
        apply (Builder.rebuild_settings s.host item b').trans forgets.settings
  | load path => apply (Builder.manifest?_onlyReads s.host path s.builder).settings
  | resolve item => apply (Builder.resolve_onlyReads s.host item s.builder).settings
  | clear => rfl

theorem run_settings (settings : Settings) (host : Host) (events : List Event) :
  (run settings host events).builder.settings = settings
  := by
  apply List.foldlRecOn events step (motive := fun s => s.builder.settings = settings)
  · rfl
  · intro s h event _
    rw [step_settings, h]

/-- The files there are when a chain is built are remembered. -/
theorem origins_build (s : Session) {item : String} {anew : Bool}
    (fresh : s.builder.isServed s.host item anew = false)
    (found : isFound (s.builder.build s.host item anew).1 = true) :
  (s.build item anew).origins item = some s.host.files
  := by
  rw [build]
  dsimp only
  rw [fresh, found]
  apply Function.update_self

/-- The files that there are after an event were there before it, or come with it. -/
theorem step_files (s : Session) (event : Event) :
  (s.step event).host.files = event.files?.getD s.host.files
  := by
  cases event with
  | change files => rfl
  | wait time => rfl
  | build item anew => rfl
  | load path => rfl
  | resolve item => rfl
  | clear => rfl

theorem trees_concat (host : Host) (events : List Event) (event : Event) :
  trees host (events ++ [event]) = trees host events ++ event.files?.toList
  := by
  rw [trees, List.filterMap_append, trees, List.cons_append]
  rcases comes : event.files? with _ | files
  · rw [List.filterMap_cons_none comes]
    rfl
  · rw [List.filterMap_cons_some comes]
    rfl

/-- After a run, there are the files that came last. -/
theorem getLast?_trees (settings : Settings) (host : Host) (events : List Event) :
  (trees host events).getLast? = some (run settings host events).host.files
  := by
  induction events using List.reverseRecOn with
  | nil => rfl
  | append_singleton events event ih =>
      rw [trees_concat, run, List.foldl_append, List.foldl_cons, List.foldl_nil, step_files, ← run]
      rcases event.files? with _ | files
      · rw [Option.toList_none, List.append_nil, ih]
        rfl
      · rw [Option.toList_some, List.getLast?_concat]
        rfl

theorem files_mem_trees (settings : Settings) (host : Host) (events : List Event) :
  (run settings host events).host.files ∈ trees host events
  := List.mem_of_getLast? (getLast?_trees settings host events)

/-! ### What all chains have in common -/

section

open Builder (Keeps Walks)

variable {P : String → List Element → Prop}

theorem step_keeps {s : Session} (walks : Walks P s.builder.settings s.host.files)
    (keeps : Keeps P s.builder) (event : Event) :
  Keeps P (s.step event).builder
  := by
  cases event with
  | change files => apply keeps
  | wait time => apply keeps
  | build item anew => apply (Builder.build_keeps walks keeps item anew).1
  | load path =>
      rw [Keeps, step, (Builder.manifest?_onlyReads s.host path s.builder).chains]
      apply keeps
  | resolve item =>
      rw [Keeps, step, (Builder.resolve_onlyReads s.host item s.builder).chains]
      apply keeps
  | clear =>
      intro e h
      cases h

/-- What holds of all walks in the files of a run holds of all chains that are kept after it. -/
theorem run_keeps (settings : Settings) (host : Host) (events : List Event)
    (walks : ∀ files ∈ trees host events, Walks P settings files) :
  Keeps P (run settings host events).builder
  := by
  induction events using List.reverseRecOn with
  | nil =>
      intro e h
      cases h
  | append_singleton events event ih =>
      have earlier : ∀ files ∈ trees host events, Walks P settings files := by
        intro files among
        apply walks files
        rw [trees_concat]
        apply List.mem_append_left _ among
      rw [run, List.foldl_append, List.foldl_cons, List.foldl_nil, ← run]
      apply step_keeps _ (ih earlier)
      rw [run_settings]
      apply earlier _ (files_mem_trees settings host events)

end

/-! ### Soundness -/

/-- The manifests that are kept are faithful, and every chain that is kept was built from the files
that are remembered for it. -/
structure Sound (trees : List FileTree) (s : Session) : Prop where
  here : s.host.files ∈ trees
  faithful : Builder.Faithful trees s.builder.manifests
  built : ∀ e ∈ s.builder.chains.entries, ∃ origin ∈ trees, s.origins e.key = some origin
    ∧ BuiltFrom s.builder.settings e.key origin e.value

namespace Sound

variable {trees : List FileTree}

theorem start {settings : Settings} {host : Host} (here : host.files ∈ trees) :
  Sound trees (start settings host)
  := by
  refine ⟨here, ?_, ?_⟩
  · intro e h
    cases h
  · intro e h
    cases h

/-- Reading keeps a session sound. -/
theorem read {s : Session} (sound : Sound trees s) {b : Builder}
    (reads : Builder.OnlyReads s.builder b) (faithful : Builder.Faithful trees b.manifests) :
  Sound trees { s with builder := b }
  := by
  refine ⟨sound.here, faithful, ?_⟩
  dsimp only
  rw [reads.chains, reads.settings]
  apply sound.built

variable (tell : FingerprintsTell trees)

include tell

/-- Asking for a chain keeps a session sound. -/
theorem build {s : Session} (sound : Sound trees s) (item : String) (anew : Bool) :
  Sound trees (s.build item anew)
  := by
  obtain ⟨b', forgets, ⟨served, chain, _, h⟩ | ⟨fresh, h⟩⟩ :=
    Builder.build_cases s.host item anew s.builder
  · rw [Session.build, served, h]
    refine ⟨sound.here, ?_, ?_⟩
    · dsimp only
      rw [forgets.manifests]
      apply sound.faithful
    · intro e kept
      dsimp only
      rw [forgets.settings]
      apply sound.built e (forgets.chains e kept)
  · have faithful : Builder.Faithful trees b'.manifests := by
      rw [forgets.manifests]
      apply sound.faithful
    rw [Session.build, fresh, h]
    refine ⟨sound.here, ?_, ?_⟩
    · apply (Builder.rebuild_tells tell sound.here item faithful).faithful
    · intro e kept
      dsimp only at kept ⊢
      rw [Builder.rebuild_settings]
      rcases Builder.rebuild_chains tell sound.here item faithful kept with
        ⟨old, other⟩ | ⟨key, found, built⟩
      · obtain ⟨origin, among, remembered, built⟩ := sound.built e (forgets.chains e old)
        use origin, among
        rw [forgets.settings]
        constructor
        · rw [← remembered]
          split
          · next found =>
              apply Function.update_of_ne
              intro key
              apply other ⟨key, by simpa using found⟩
          · rfl
        · apply built
      · use s.host.files, sound.here
        rw [found, key]
        constructor
        · simp
        · apply built

/-- What happens keeps a session sound, as long as only files from the given trees come. -/
theorem step {s : Session} (sound : Sound trees s) (event : Event)
    (change : ∀ files ∈ event.files?, files ∈ trees) :
  Sound trees (s.step event)
  := by
  cases event with
  | change files =>
      refine ⟨?_, sound.faithful, sound.built⟩
      apply change files
      rfl
  | wait time => exact ⟨sound.here, sound.faithful, sound.built⟩
  | build item anew => apply sound.build tell
  | load path =>
      apply sound.read (Builder.manifest?_onlyReads _ _ _)
      apply (Builder.manifest?_tells tell sound.here path sound.faithful).faithful
  | resolve item =>
      apply sound.read (Builder.resolve_onlyReads _ _ _)
      apply (Builder.resolve_tells tell sound.here item sound.faithful).faithful
  | clear =>
      refine ⟨sound.here, ?_, ?_⟩
      · intro e h
        cases h
      · intro e h
        cases h

end Sound

/-- A session is sound after every run in which fingerprints tell. -/
theorem sound_run (settings : Settings) (host : Host) (events : List Event)
    (tell : FingerprintsTell (trees host events)) :
  Sound (trees host events) (run settings host events)
  := by
  apply List.foldlRecOn events step
  · apply Sound.start
    apply List.mem_cons_self
  · intro s sound event h
    apply sound.step tell
    intro files comes
    apply List.mem_cons_of_mem
    apply List.mem_filterMap.mpr
    use event, h, comes

/-! ### A small machine -/

/-- A file with a text. -/
def textFile (text : String) (modified : Int) : FileTree :=
  .file text.toUTF8 modified false

/-- The settings of a machine that has a system space only. -/
def smallSettings : Settings :=
  ⟨none, "/u", "/s", 10, 8⟩

/-- A machine whose system space holds some tools. -/
def smallHost (tools : List (String × FileTree)) : Host :=
  ⟨.directory [("s", .directory [("tools", .directory tools)])], 0, []⟩

/-- A tool and its executor. -/
def twoTools : Host :=
  smallHost [("a.json", textFile "\x7b\"executor_id\":\"b\"\x7d" 1),
    ("b.json", textFile "\x7b\x7d" 1)]

end Session

end Toolshed.Chain
