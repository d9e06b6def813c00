import Toolshed.Proofs.Lock.Changes

/-!
# What becomes of a store

Scopes are selected, lockfiles are saved and deleted, and texts come to stand in the system space.
After every such history the store shows the lockfile that was put last into the space that takes
precedence, and what is done about one pin is not observed of another one.
-/

namespace Toolshed.Lock

/-- What is done with a store or its files. -/
inductive Action where
  | select (scope : Space)
  | save (modified : Int) (l : Lockfile)
  | delete (pin : Pin)
  /-- A text is put where the system space has its lockfile of a pin. -/
  | provide (modified : Int) (pin : Pin) (text : String)

namespace Action

/-- The pin that an action is about. -/
def pin? : Action → Option Pin
  | .select _ => none
  | .save _ l => some l.pin
  | .delete pin => some pin
  | .provide _ pin _ => some pin

/-- An action is about a pin whose name is read as that pin, and what it writes can be read. -/
def IsProper : Action → Prop
  | .select _ => True
  | .save _ l => l.pin.IsKept ∧ Lockfile.parse? l.text = some l
  | .delete pin => pin.IsKept
  | .provide _ pin text => pin.IsKept ∧ Lockfile.parse? text ≠ none

end Action

namespace Store

/-- The files with a text where the system space has its lockfile of a pin, if it can be written. -/
def provide (s : Store) (files : FileTree) (modified : Int) (pin : Pin) (text : String) :
    FileTree :=
  match s.directory? .system with
  | none => files
  | some directory =>
    match files.makeDirectories directory with
    | .error _ => files
    | .ok made =>
      match made.write (Path.join directory pin.fileName) text.toUTF8 modified false with
      | .error _ => made
      | .ok later => later

/-- A store after an action, which selects another scope at most. -/
def select (s : Store) : Action → Store
  | .select scope => { s with scope }
  | _ => s

/-- The files of a store after an action. -/
def change (s : Store) (files : FileTree) : Action → FileTree
  | .select _ => files
  | .save modified l => (s.save files modified l).2
  | .delete pin => (s.delete files pin).2
  | .provide modified pin text => s.provide files modified pin text

/-- What is held after an action. -/
def hold (s : Store) (m : Levels) : Action → Levels
  | .select _ => m
  | .save _ l =>
    if s.scope.isWritable && s.takes s.scope l.pin then m.set s.scope l.pin (some l) else m
  | .delete pin => m.erase (Space.all.filter Space.isWritable) pin
  | .provide _ pin text =>
    if s.takes .system pin then m.set .system pin (Lockfile.parse? text) else m

/-- A store and its files after some actions. -/
def run (s : Store) (files : FileTree) : List Action → Store × FileTree
  | [] => (s, files)
  | action :: actions => run (s.select action) (s.change files action) actions

/-- What is held after some actions. -/
def holdAll (s : Store) (m : Levels) : List Action → Levels
  | [] => m
  | action :: actions => holdAll (s.select action) (s.hold m action) actions

variable {s : Store} {files : FileTree} {place : Space → List String} {m : Levels}
  {action : Action}

/-! ### One action -/

@[simp]
theorem directory?_select (s : Store) (action : Action) (space : Space) :
  (s.select action).directory? space = s.directory? space
  := by
  cases action with
  | select scope => rfl
  | save modified l => rfl
  | delete pin => rfl
  | provide modified pin text => rfl

theorem Realizes.select (realizes : s.Realizes files place m) (action : Action) :
  (s.select action).Realizes files place m
  := by
  obtain ⟨wellNamed, ⟨allotted, distinct, apart⟩, ⟨absent, holds⟩⟩ := realizes
  refine ⟨wellNamed, ⟨?_, ?_, ?_⟩, ⟨?_, ?_⟩⟩
  · intro space directory placed
    rw [directory?_select] at placed
    apply allotted placed
  · intro space other placed placed'
    rw [directory?_select] at placed placed'
    apply distinct placed placed'
  · intro space other placed placed' name
    rw [directory?_select] at placed placed'
    apply apart placed placed'
  · intro space missing
    rw [directory?_select] at missing
    apply absent missing
  · intro space directory placed pin
    rw [directory?_select] at placed
    apply holds placed

/-- A text that can be read comes to be held in the system space, if that takes it. -/
theorem Realizes.provide (realizes : s.Realizes files place m) {pin : Pin} (kept : pin.IsKept)
    {text : String} {l : Lockfile} (read : Lockfile.parse? text = some l) (modified : Int) :
  s.Realizes (s.provide files modified pin text) place
    (if s.takes .system pin then m.set .system pin (some l) else m)
  := by
  rw [Store.provide]
  rcases placed : s.directory? .system with _ | directory
  · rw [takes, placed]
    apply realizes
  · by_cases fits : FileTree.Fits directory pin.fileName
    · rw [← lockfileOf?_toUTF8] at read
      obtain ⟨made, later, makes, writes, realizes⟩ :=
        realizes.exists_write placed kept fits read modified
      rw [if_pos (takes_eq_true.mpr ⟨directory, placed, fits⟩)]
      simp only [makes, writes]
      apply realizes
    · obtain ⟨made, fault, makes, fails, realizes⟩ :=
        realizes.exists_write_error placed kept fits text.toUTF8 modified
      rw [takes, placed, Option.any_some, if_neg (by simpa using fits)]
      simp only [makes, fails]
      apply realizes

/-- What is held after an action is what the files then show. -/
theorem Realizes.change (realizes : s.Realizes files place m) (proper : action.IsProper) :
  s.Realizes (s.change files action) place (s.hold m action)
  := by
  cases action with
  | select scope => apply realizes
  | save modified l =>
      obtain ⟨kept, read⟩ := proper
      rw [Store.change, hold]
      split
      · next taken =>
          rw [Bool.and_eq_true] at taken
          obtain ⟨path, later, same, _, realizes⟩ :=
            realizes.save kept read taken.1 taken.2 modified
          rw [same]
          apply realizes
      · next refused =>
          rw [Bool.not_eq_true, Bool.and_eq_false_iff] at refused
          obtain ⟨failure, later, same, realizes⟩ := realizes.save_fails kept refused modified
          rw [same]
          apply realizes
  | delete pin =>
      rw [Store.change, delete_eq, hold]
      obtain ⟨later, same, realizes⟩ := realizes.deleteAll proper false
        (Space.all.filter Space.isWritable)
      rw [same]
      apply realizes
  | provide modified pin text =>
      obtain ⟨kept, read⟩ := proper
      obtain ⟨l, read⟩ := Option.ne_none_iff_exists'.mp read
      rw [Store.change, hold, read]
      apply realizes.provide kept read modified

/-- An action changes nothing that is held of another pin. -/
theorem hold_of_ne {pin : Pin} (other : action.pin? ≠ some pin) (space : Space) :
  s.hold m action space pin = m space pin
  := by
  cases action with
  | select scope => rfl
  | save modified l =>
      rw [hold]
      split
      · rw [Levels.set, if_neg]
        rintro ⟨_, rfl⟩
        apply other rfl
      · rfl
  | delete pin' =>
      rw [hold, Levels.erase, if_neg]
      rintro ⟨_, rfl⟩
      apply other rfl
  | provide modified pin' text =>
      rw [hold]
      split
      · rw [Levels.set, if_neg]
        rintro ⟨_, rfl⟩
        apply other rfl
      · rfl

/-! ### Observations -/

/-- What is observed of a store is what is held in it. -/
structure Observes (s : Store) (files : FileTree) (m : Levels) : Prop where
  found : ∀ pin, pin.IsKept → s.get? files pin = (m.first? pin).map Prod.snd
  contained : ∀ pin, pin.IsKept → (s.contains files pin = true ↔ ∃ space, m space pin ≠ none)
  listed_once : ((s.list files).map Entry.pin).Nodup
  listed : ∀ entry, entry ∈ s.list files ↔ entry.pin.IsKept ∧ ∃ held directory,
    m.first? entry.pin = some held ∧ s.directory? held.1 = some directory
      ∧ entry = ⟨entry.pin, held.1, Path.join directory entry.pin.fileName⟩
  refused : s.scope = .system ∨ s.scope = .project ∧ s.settings.project = none →
    ∀ modified l, ∃ failure, s.save files modified l = (.error (.lock failure), files)
  saved : ∀ modified l, l.pin.IsKept → Lockfile.parse? l.text = some l →
    s.scope.isWritable = true → s.takes s.scope l.pin = true →
      ∃ path, (s.save files modified l).1 = .ok path ∧ (path, s.scope) ∈ s.places l.pin
  deleted : ∀ pin, pin.IsKept → ∃ removed, (s.delete files pin).1 = .ok removed
    ∧ (removed = true ↔ ∃ space, space.isWritable = true ∧ m space pin ≠ none)

theorem isSome_first? (m : Levels) (pin : Pin) :
  (m.first? pin).isSome = true ↔ ∃ space, m space pin ≠ none
  := by
  rw [Levels.first?, List.findSome?_isSome_iff]
  simp [Space.mem_all, Option.isSome_iff_ne_none]

theorem Realizes.observes (realizes : s.Realizes files place m) :
  s.Observes files m
  := by
  refine ⟨?_, ?_, nodup_list s files, ?_, ?_, ?_, ?_⟩
  · intro pin kept
    apply realizes.get?_eq kept
  · intro pin kept
    rw [realizes.contains_eq kept]
    apply isSome_first?
  · intro entry
    apply realizes.mem_list
  · intro refused modified l
    apply save_refused _ files modified l
    rcases refused with system | ⟨project, missing⟩
    · left
      rw [system]
      rfl
    · right
      rw [project, directory?, Settings.root?, missing]
      rfl
  · intro modified l kept read writable takes
    obtain ⟨path, later, same, placed, _⟩ := realizes.save kept read writable takes modified
    use path
    rw [same]
    use rfl
  · intro pin kept
    obtain ⟨later, same, _⟩ := realizes.deleteAll kept false (Space.all.filter Space.isWritable)
    rw [delete_eq, same]
    refine ⟨_, rfl, ?_⟩
    rw [Bool.false_or, List.any_eq_true]
    simp [Space.mem_all, Option.isSome_iff_ne_none]

/-- Two stores with their files show the same of a pin. -/
def ShowAlike (pin : Pin) (s : Store) (files : FileTree) (s' : Store) (files' : FileTree) : Prop :=
  s'.get? files' pin = s.get? files pin ∧ s'.contains files' pin = s.contains files pin
    ∧ ∀ entry, entry.pin = pin → (entry ∈ s'.list files' ↔ entry ∈ s.list files)

/-- After an action the same is shown of every pin that it is not about. -/
theorem Realizes.showAlike (realizes : s.Realizes files place m) (proper : action.IsProper)
    {pin : Pin} (kept : pin.IsKept) (other : action.pin? ≠ some pin) :
  ShowAlike pin s files (s.select action) (s.change files action)
  := by
  have later := (realizes.change proper).select action
  have same : (s.hold m action).first? pin = m.first? pin := by
    rw [Levels.first?, Levels.first?]
    congr 1
    funext space
    rw [hold_of_ne other]
  refine ⟨?_, ?_, ?_⟩
  · rw [realizes.get?_eq kept, later.get?_eq kept, same]
  · rw [realizes.contains_eq kept, later.contains_eq kept, same]
  · rintro entry rfl
    rw [realizes.mem_list, later.mem_list, same]
    simp

/-! ### All actions -/

theorem Realizes.run {actions : List Action} (realizes : s.Realizes files place m)
    (proper : ∀ action ∈ actions, action.IsProper) :
  (s.run files actions).1.Realizes (s.run files actions).2 place (s.holdAll m actions)
  := by
  induction actions generalizing s files m with
  | nil => apply realizes
  | cons action actions ih =>
      obtain ⟨first, rest⟩ := List.forall_mem_cons.mp proper
      apply ih ((realizes.change first).select action) rest

/-- After every history, what is observed of a store is what is held in it, and an action about one
pin is not observed of another one. -/
theorem observes_run {actions : List Action} (realizes : s.Realizes files place m)
    (proper : ∀ action ∈ actions, action.IsProper) :
  let later := s.run files actions
  later.1.Observes later.2 (s.holdAll m actions) ∧
    ∀ action pin, action.IsProper → pin.IsKept → action.pin? ≠ some pin →
      ShowAlike pin later.1 later.2 (later.1.select action) (later.1.change later.2 action)
  := by
  intro later
  have realizes := realizes.run proper
  use realizes.observes
  intro action pin proper kept other
  apply realizes.showAlike proper kept other

/-- A lockfile of one version of a tool. -/
def smallLockfile : Lockfile :=
  .create "" ⟨"rye/core", "1"⟩ "hash" []

set_option maxRecDepth 10000 in
theorem parse?_smallLockfile :
  Lockfile.parse? smallLockfile.text = some smallLockfile
  := rfl

/-- A lockfile is saved in the user space, and another version is deleted. -/
def smallHistory : List Action :=
  [.select .user, .save 1 smallLockfile, .delete ⟨"rye/core", "2"⟩, .select .system]

/-- The lockfile is found then, and there is something to be deleted. -/
theorem observes_run_smallHistory :
  let later := smallStore.run .empty smallHistory
  later.1.get? later.2 ⟨"rye/core", "1"⟩ = some smallLockfile
    ∧ (later.1.delete later.2 ⟨"rye/core", "1"⟩).1 = .ok true
  := by
  have kept : Pin.IsKept ⟨"rye/core", "1"⟩ := by decide +kernel
  have proper : ∀ action ∈ smallHistory, action.IsProper := by
    simp only [smallHistory, List.forall_mem_cons]
    refine ⟨trivial, ⟨kept, parse?_smallLockfile⟩, ?_, trivial, ?_⟩
    · have kept' : Pin.IsKept ⟨"rye/core", "2"⟩ := by decide +kernel
      apply kept'
    · rintro _ ⟨⟩
  obtain ⟨observes, _⟩ := observes_run smallStore_realizes proper
  constructor
  · rw [observes.found _ kept]
    rfl
  · obtain ⟨removed, same, removes⟩ := observes.deleted _ kept
    rw [same, removes.mpr]
    use .user, rfl
    rintro ⟨⟩

/-! ### Pins that are told apart -/

theorem isKept_of_isPlain {pin : Pin} (plain : pin.IsPlain) (no_slash : '/' ∉ pin.version.toList) :
  pin.IsKept
  := ⟨Pin.ofFileName?_fileName_iff.mpr plain, no_slash⟩

/-- What was saved of a pin is listed and found. -/
theorem Realizes.listed_of_save (realizes : s.Realizes files place m) {l : Lockfile}
    (kept : l.pin.IsKept) (read : Lockfile.parse? l.text = some l) {modified : Int} {path : String}
    {later : FileTree} (saved : s.save files modified l = (.ok path, later)) :
  (∃ entry ∈ s.list later, entry.pin = l.pin) ∧ s.contains later l.pin = true
  := by
  by_cases taken : s.scope.isWritable = true ∧ s.takes s.scope l.pin = true
  · obtain ⟨_, _, same, _, realizes⟩ := realizes.save kept read taken.1 taken.2 modified
    rw [saved] at same
    obtain ⟨_, rfl⟩ := Prod.mk.inj same
    have held : ∃ space, m.set s.scope l.pin (some l) space l.pin ≠ none := by
      use s.scope
      simp [Levels.set]
    have first := (isSome_first? _ _).mpr held
    rw [realizes.contains_eq kept, realizes.exists_mem_list kept]
    exact ⟨first, first⟩
  · have refused : s.scope.isWritable = false ∨ s.takes s.scope l.pin = false := by
      rw [not_and_or, Bool.not_eq_true, Bool.not_eq_true] at taken
      apply taken
    obtain ⟨failure, _, same, _⟩ := realizes.save_fails kept refused modified
    rw [saved] at same
    cases same

/-- The name of a pin is read as that pin exactly if its version has no at-sign and no underscore in
its tool stands before another one or before a slash.  Such pins have different names, while others
share one if their tools are written alike.  So what is done about one of them is not observed of
another one, and what was saved is listed as it was. -/
theorem tells_pins_apart (realizes : s.Realizes files place m) :
  (∀ pin : Pin, pin.tool ≠ "" → pin.version ≠ "" →
    (Pin.ofFileName? pin.fileName = some pin
      ↔ '@' ∉ pin.version.toList ∧ pin.tool.toList.IsChain StandsBefore)) ∧
    (∀ pin other : Pin, pin.IsPlain → other.IsPlain → pin.fileName = other.fileName → pin = other) ∧
    (∀ pin other : Pin, '@' ∉ pin.version.toList → '@' ∉ other.version.toList →
      (pin.fileName = other.fileName
        ↔ encode pin.tool.toList = encode other.tool.toList ∧ pin.version = other.version)) ∧
    (∀ pin other : Pin, pin.IsPlain → '/' ∉ pin.version.toList →
      other.IsPlain → '/' ∉ other.version.toList → pin ≠ other →
      ShowAlike other s files s (s.delete files pin).2 ∧
        ∀ modified l, l.pin = pin → Lockfile.parse? l.text = some l →
          ShowAlike other s files s (s.save files modified l).2) ∧
    ∀ modified l path later, l.pin.IsPlain → '/' ∉ l.pin.version.toList →
      Lockfile.parse? l.text = some l → s.save files modified l = (.ok path, later) →
      (∃ entry ∈ s.list later, entry.pin = l.pin) ∧ s.contains later l.pin = true
  := by
  refine ⟨?_, ?_, ?_, ?_, ?_⟩
  · intro pin tool version
    rw [Pin.ofFileName?_fileName_iff]
    constructor
    · intro plain
      use plain.no_at, plain.no_overlap
    · rintro ⟨no_at, no_overlap⟩
      use tool, version, no_at, no_overlap
  · intro pin other plain plain' same
    rw [← Pin.ofFileName?_fileName_iff] at plain plain'
    rw [same, plain'] at plain
    symm
    apply Option.some.inj plain
  · intro pin other no_at no_at'
    apply Pin.fileName_eq_iff no_at no_at'
  · intro pin other plain no_slash plain' no_slash' different
    have kept := isKept_of_isPlain plain no_slash
    have kept' := isKept_of_isPlain plain' no_slash'
    constructor
    · have proper : (Action.delete pin).IsProper := kept
      apply realizes.showAlike proper kept'
      intro same
      apply different (Option.some.inj same)
    · rintro modified l rfl read
      have proper : (Action.save modified l).IsProper := ⟨kept, read⟩
      apply realizes.showAlike proper kept'
      intro same
      apply different (Option.some.inj same)
  · intro modified l path later plain no_slash read saved
    apply realizes.listed_of_save (isKept_of_isPlain plain no_slash) read saved

/-- A tool in a directory is read from the name of its lockfile, and saving it is not observed of
another version. -/
theorem tells_pins_apart_smallStore :
  Pin.ofFileName? (Pin.fileName ⟨"rye/core", "1"⟩) = some ⟨"rye/core", "1"⟩
    ∧ ShowAlike ⟨"rye/core", "2"⟩ smallStore .empty smallStore
      (smallStore.save .empty 1 smallLockfile).2
  := by
  obtain ⟨reads, _, _, apart, _⟩ := tells_pins_apart smallStore_realizes
  constructor
  · apply (reads ⟨"rye/core", "1"⟩ (by decide) (by decide)).mpr
    decide
  · apply (apart ⟨"rye/core", "1"⟩ ⟨"rye/core", "2"⟩ (by decide) (by decide) (by decide) (by decide)
      (by decide)).2 1 _ rfl
    apply parse?_smallLockfile

end Store

end Toolshed.Lock
