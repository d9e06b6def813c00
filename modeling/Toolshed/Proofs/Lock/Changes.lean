import Toolshed.Proofs.Lock.Observations

/-!
# How a store changes

A lockfile is written into the space that is selected, if that may be written to and takes it, and
it is deleted from all spaces that may be written to.  What is held changes in the same way.
-/

namespace Toolshed.Lock

open FileTree

namespace Levels

variable {m : Levels} {space : Space} {pin : Pin}

theorem set_none (nothing : m space pin = none) :
  m.set space pin none = m
  := by
  funext space' pin'
  rw [set]
  split
  · next same =>
      obtain ⟨rfl, rfl⟩ := same
      rw [nothing]
  · rfl

theorem erase_nil (m : Levels) (pin : Pin) :
  m.erase [] pin = m
  := by
  funext space' pin'
  rw [erase, if_neg]
  rintro ⟨among, _⟩
  cases among

theorem erase_cons (m : Levels) (space : Space) (spaces : List Space) (pin : Pin) :
  m.erase (space :: spaces) pin = (m.set space pin none).erase spaces pin
  := by
  funext space' pin'
  rw [erase, erase, set]
  by_cases about : pin' = pin
  · by_cases first : space' = space
    · simp [about, first]
    · simp [about, first]
  · simp [about]

end Levels

namespace Store

variable {s : Store} {files : FileTree} {place : Space → List String} {m : Levels} {pin : Pin}
  {l : Lockfile}

/-- A space takes lockfiles of a pin: it has a directory, below which the name of the pin fits. -/
def takes (s : Store) (space : Space) (pin : Pin) : Bool :=
  (s.directory? space).any fun directory => Fits directory pin.fileName

theorem takes_eq_true {space : Space} :
  s.takes space pin = true
    ↔ ∃ directory, s.directory? space = some directory ∧ Fits directory pin.fileName
  := by
  rw [takes, Option.any_eq_true]
  simp only [decide_eq_true_iff]

theorem lockfileOf?_toUTF8 (text : String) :
  lockfileOf? text.toUTF8 = Lockfile.parse? text
  := by
  rw [lockfileOf?, show String.fromUTF8? text.toUTF8 = some text from dif_pos text.isValidUTF8]
  rfl

/-! ### Saving -/

/-- In a space that may not be written to, or that has no directory, nothing is saved. -/
theorem save_refused (refused : s.scope.isWritable = false ∨ s.directory? s.scope = none)
    (files : FileTree) (modified : Int) (l : Lockfile) :
  ∃ failure, s.save files modified l = (.error (.lock failure), files)
  := by
  rw [save, target]
  rcases refused with readOnly | missing
  · use .readOnlySpace s.scope.name
    rw [readOnly]
    rfl
  · rw [missing]
    by_cases writable : s.scope.isWritable = true
    · use .noSuchSpace s.scope.name
      rw [writable]
      rfl
    · use .readOnlySpace s.scope.name
      rw [eq_false_of_ne_true writable]
      rfl

/-- What is saved in a space that takes it is held there. -/
theorem Realizes.save (realizes : s.Realizes files place m) (kept : l.pin.IsKept)
    (read : Lockfile.parse? l.text = some l) (writable : s.scope.isWritable = true)
    (takes : s.takes s.scope l.pin = true) (modified : Int) :
  ∃ path later, s.save files modified l = (.ok path, later) ∧ (path, s.scope) ∈ s.places l.pin
    ∧ s.Realizes later place (m.set s.scope l.pin (some l))
  := by
  obtain ⟨directory, placed, fits⟩ := takes_eq_true.mp takes
  rw [← lockfileOf?_toUTF8] at read
  obtain ⟨made, later, makes, writes, realizes⟩ :=
    realizes.exists_write placed kept fits read modified
  refine ⟨_, later, ?_, mem_places.mpr ⟨directory, placed, rfl⟩, realizes⟩
  rw [Store.save, target, writable, placed]
  simp only [if_true, makes, writes]

/-- What is not taken is not saved, and nothing that is held changes. -/
theorem Realizes.save_fails (realizes : s.Realizes files place m) (kept : l.pin.IsKept)
    (refused : s.scope.isWritable = false ∨ s.takes s.scope l.pin = false) (modified : Int) :
  ∃ failure later, s.save files modified l = (.error failure, later) ∧ s.Realizes later place m
  := by
  by_cases reached : s.scope.isWritable = true ∧ s.directory? s.scope ≠ none
  · obtain ⟨writable, placed⟩ := reached
    obtain ⟨directory, placed⟩ := Option.ne_none_iff_exists'.mp placed
    have long : ¬ Fits directory l.pin.fileName := by
      intro fits
      rcases refused with readOnly | refused
      · rw [writable] at readOnly
        cases readOnly
      · rw [takes_eq_true.mpr ⟨directory, placed, fits⟩] at refused
        cases refused
    obtain ⟨made, fault, makes, fails, realizes⟩ := realizes.exists_write_error placed kept long
      l.text.toUTF8 modified
    refine ⟨.file fault, made, ?_, realizes⟩
    rw [Store.save, target, writable, placed]
    simp only [if_true, makes, fails]
  · have refused : s.scope.isWritable = false ∨ s.directory? s.scope = none := by
      rw [not_and_or, not_not, Bool.not_eq_true] at reached
      apply reached
    obtain ⟨failure, same⟩ := save_refused refused files modified l
    exact ⟨_, files, same, realizes⟩

/-! ### Deleting -/

/-- The paths that the lockfile of a pin may have in some spaces. -/
def pathsIn (s : Store) (spaces : List Space) (pin : Pin) : List String :=
  spaces.filterMap fun space =>
    (s.directory? space).map fun directory => Path.join directory pin.fileName

theorem delete_eq (s : Store) (files : FileTree) (pin : Pin) :
  s.delete files pin
    = deleteAll files false (s.pathsIn (Space.all.filter Space.isWritable) pin)
  := by
  rw [delete, pathsIn, places, directories, List.filter_map, List.map_map, List.filter_filterMap,
    List.map_filterMap, List.filterMap_filter]
  congr 2
  funext space
  rcases s.directory? space with _ | directory
  · simp
  · by_cases writable : space.isWritable = true
    · simp [writable, Option.filter]
    · simp [writable, Option.filter]

/-- What is held of a pin in some spaces is deleted there, one file after the other. -/
theorem Realizes.deleteAll (realizes : s.Realizes files place m) (kept : pin.IsKept)
    (deleted : Bool) (spaces : List Space) :
  ∃ later, Store.deleteAll files deleted (s.pathsIn spaces pin)
      = (.ok (deleted || spaces.any fun space => (m space pin).isSome), later)
    ∧ s.Realizes later place (m.erase spaces pin)
  := by
  induction spaces generalizing files m deleted with
  | nil =>
      use files
      rw [Levels.erase_nil, List.any_nil, Bool.or_false]
      use rfl
  | cons space spaces ih =>
      rw [pathsIn, List.filterMap_cons, List.any_cons, Levels.erase_cons]
      rcases placed : s.directory? space with _ | directory
      · have nothing := realizes.shows.absent placed pin
        rw [nothing, Levels.set_none nothing]
        apply ih realizes
      · have isFile : files.isFile (Path.join directory pin.fileName) = (m space pin).isSome := by
          rw [isFile_eq, (realizes.content?_join kept placed).2]
        simp only [Option.map_some, Store.deleteAll, isFile]
        rcases held : m space pin with _ | l
        · rw [Levels.set_none held]
          apply ih realizes
        · obtain ⟨later, removed, realizes⟩ :=
            realizes.exists_removeFile placed kept (by simp [held])
          obtain ⟨latest, same, realizes⟩ := ih realizes true
          use latest
          simp only [Option.isSome_some, if_true, removed, Bool.true_or, Bool.or_true] at same ⊢
          exact ⟨same, realizes⟩

end Store

end Toolshed.Lock
