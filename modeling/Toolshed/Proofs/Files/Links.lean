import Toolshed.Proofs.Files.Names

/-!
# Walks through links

A walk that follows links lists the ways that lead down from a directory to a file.  A way is never
led by a link into a directory that it has come through, but it may go down into one again.  The
depth of a walk is bounded such that no way is left out.
-/

namespace Toolshed.FileTree

variable {tree : FileTree}

/-- An entry of a directory is a file, or a link to one. -/
inductive Ends (tree : FileTree) (location : List String) (name : String) : FileTree → Prop where
  | file {content : ByteArray} {modified : Int} {isExecutable : Bool} :
      Ends tree location name (.file content modified isExecutable)
  | link {target : String} {found : List String} {node : FileTree}
      (leads : tree.locateFrom true maxLinks location [name] = .ok (.taken found))
      (there : tree.at? found = some node) (final : ∀ inner, node ≠ .directory inner) :
      Ends tree location name (.link target)

/-- An entry of a directory is a directory, or a link to one that is not among those around it. -/
inductive Enters (tree : FileTree) (around : List (List String)) (location : List String)
    (name : String) : FileTree → List String → Prop where
  | directory {inner : List (String × FileTree)} :
      Enters tree around location name (.directory inner) (location ++ [name])
  | link {target : String} {found : List String} {inner : List (String × FileTree)}
      (leads : tree.locateFrom true maxLinks location [name] = .ok (.taken found))
      (there : tree.at? found = some (.directory inner)) (new : found ∉ around) :
      Enters tree around location name (.link target) found

/-- Names lead from a location to a file.  No link leads into a directory that the names come
through, or into one of those around the location. -/
inductive LeadsToFile (tree : FileTree) :
    List (List String) → List String → List String → Prop where
  | file {around : List (List String)} {location : List String}
      {entries : List (String × FileTree)} {name : String} {node : FileTree}
      (here : tree.at? location = some (.directory entries)) (entry : (name, node) ∈ entries)
      (ends : tree.Ends location name node) :
      LeadsToFile tree around location [name]
  | directory {around : List (List String)} {location there names : List String}
      {entries : List (String × FileTree)} {name : String} {node : FileTree}
      (here : tree.at? location = some (.directory entries)) (entry : (name, node) ∈ entries)
      (enters : tree.Enters (location :: around) location name node there)
      (onward : LeadsToFile tree (location :: around) there names) :
      LeadsToFile tree around location (name :: names)

theorem LeadsToFile.exists_directory {around : List (List String)} {location names : List String}
    (leads : tree.LeadsToFile around location names) :
  ∃ entries, tree.at? location = some (.directory entries)
  := by
  cases leads with
  | file here => exact ⟨_, here⟩
  | directory here => exact ⟨_, here⟩

/-! ### Ways that are listed -/

theorem mem_filesAtEntry {enter : List String → List String → List (List String)}
    {around : List (List String)} {location outer names : List String} {name : String}
    {node : FileTree} :
  names ∈ tree.filesAtEntry enter around location outer (name, node)
    ↔ (tree.Ends location name node ∧ names = outer ++ [name])
      ∨ ∃ there, tree.Enters around location name node there ∧ names ∈ enter there (outer ++ [name])
  := by
  constructor
  · intro listed
    rcases node with ⟨content, modified, isExecutable⟩ | target | inner
    · left
      use .file, List.mem_singleton.mp listed
    · rw [filesAtEntry] at listed
      split at listed
      · next found leads =>
          split at listed
          · next inner there =>
              split at listed
              · cases listed
              · next new =>
                  right
                  use found, .link leads there new
          · next node final there =>
              left
              use .link leads there final, List.mem_singleton.mp listed
          · cases listed
      · cases listed
    · right
      use location ++ [name], .directory
      apply listed
  · rintro (⟨ends, rfl⟩ | ⟨there, enters, listed⟩)
    · cases ends with
      | file => apply List.mem_singleton_self
      | link leads there final =>
          rw [filesAtEntry, leads]
          dsimp only
          rw [there]
          split
          · next inner same => cases final inner (Option.some.inj same)
          · apply List.mem_singleton_self
          · next missing => cases missing
    · cases enters with
      | directory => apply listed
      | link leads there new =>
          rw [filesAtEntry, leads]
          dsimp only
          rw [there]
          dsimp only
          rw [if_neg new]
          apply listed

theorem mem_filesThroughLinks_succ {fuel : Nat} {around : List (List String)}
    {location outer names : List String} :
  names ∈ tree.filesThroughLinks (fuel + 1) around location outer
    ↔ ∃ entries, tree.at? location = some (.directory entries) ∧ ∃ entry ∈ entries,
      names ∈ tree.filesAtEntry (tree.filesThroughLinks fuel (location :: around))
        (location :: around) location outer entry
  := by
  rw [filesThroughLinks]
  split
  · next entries here =>
      rw [List.mem_flatMap]
      constructor
      · intro listed
        exact ⟨entries, here, listed⟩
      · rintro ⟨_, here', listed⟩
        cases here.symm.trans here'
        apply listed
  · next other =>
      constructor
      · intro listed
        cases listed
      · rintro ⟨entries, here, _⟩
        cases other entries here

/-- A walk lists ways to files. -/
theorem leadsToFile_of_mem {fuel : Nat} {around : List (List String)}
    {location outer names : List String}
    (listed : names ∈ tree.filesThroughLinks fuel around location outer) :
  ∃ below, names = outer ++ below ∧ tree.LeadsToFile around location below
  := by
  induction fuel generalizing around location outer with
  | zero => cases listed
  | succ fuel ih =>
      obtain ⟨entries, here, ⟨name, node⟩, entry, listed⟩ := mem_filesThroughLinks_succ.mp listed
      rcases mem_filesAtEntry.mp listed with ⟨ends, same⟩ | ⟨there, enters, listed⟩
      · use [name], same
        apply LeadsToFile.file here entry ends
      · obtain ⟨below, same, onward⟩ := ih listed
        use name :: below
        rw [same, List.append_assoc]
        use rfl
        apply LeadsToFile.directory here entry enters onward

/-! ### Directories -/

mutual

/-- The locations of the directories in a tree. -/
def directories (outer : List String) : FileTree → List (List String)
  | .file _ _ _ => []
  | .link _ => []
  | .directory entries => outer :: directoriesIn outer entries

/-- The locations of the directories among some entries. -/
def directoriesIn (outer : List String) : List (String × FileTree) → List (List String)
  | [] => []
  | (name, node) :: entries => directories (outer ++ [name]) node ++ directoriesIn outer entries

end

mutual

theorem length_directories (outer : List String) : (tree : FileTree) →
    (tree.directories outer).length = tree.directoryCount
  | .file _ _ _ => rfl
  | .link _ => rfl
  | .directory entries => by
    rw [directories, directoryCount, List.length_cons, length_directoriesIn, Nat.add_comm]

theorem length_directoriesIn (outer : List String) : (entries : List (String × FileTree)) →
    (directoriesIn outer entries).length = directoryCountIn entries
  | [] => rfl
  | (name, node) :: entries => by
    rw [directoriesIn, directoryCountIn, List.length_append, length_directories,
      length_directoriesIn]

end

theorem mem_directoriesIn {outer : List String} {entries : List (String × FileTree)} {name : String}
    {child : FileTree} {location : List String} (named : child? name entries = some child)
    (among : location ∈ child.directories (outer ++ [name])) :
  location ∈ directoriesIn outer entries
  := by
  induction entries with
  | nil => cases named
  | cons entry entries ih =>
      obtain ⟨other, node⟩ := entry
      rw [directoriesIn, List.mem_append]
      rw [child?, Assoc.get?] at named
      split at named
      · next same =>
          left
          rw [same, Option.some.inj named]
          apply among
      · right
        apply ih named

/-- A directory of a tree has its location among those of all directories. -/
theorem mem_directories {outer location : List String} {entries : List (String × FileTree)}
    (here : tree.at? location = some (.directory entries)) :
  outer ++ location ∈ tree.directories outer
  := by
  induction location generalizing tree outer with
  | nil =>
      rw [Option.some.inj here, directories, List.append_nil]
      apply List.mem_cons_self
  | cons name location ih =>
      rcases tree with ⟨content, modified, isExecutable⟩ | target | inner
      · cases here
      · cases here
      · rw [at?] at here
        obtain ⟨child, named, here⟩ := Option.bind_eq_some_iff.mp here
        rw [directories]
        apply List.mem_cons_of_mem
        apply mem_directoriesIn named
        rw [List.append_cons outer name location]
        apply ih here

theorem directoryCount_le_of_child? {entries : List (String × FileTree)} {name : String}
    {child : FileTree} (named : child? name entries = some child) :
  child.directoryCount ≤ directoryCountIn entries
  := by
  induction entries with
  | nil => cases named
  | cons entry entries ih =>
      obtain ⟨other, node⟩ := entry
      rw [directoryCountIn]
      rw [child?, Assoc.get?] at named
      split at named
      · rw [Option.some.inj named]
        apply Nat.le_add_right
      · apply Nat.le_add_left_of_le
        apply ih named

theorem directoryCount_le_of_at? {location : List String} {node : FileTree}
    (here : tree.at? location = some node) :
  node.directoryCount ≤ tree.directoryCount
  := by
  induction location generalizing tree with
  | nil => rw [Option.some.inj here]
  | cons name location ih =>
      rcases tree with ⟨content, modified, isExecutable⟩ | target | entries
      · cases here
      · cases here
      · rw [at?] at here
        obtain ⟨child, named, here⟩ := Option.bind_eq_some_iff.mp here
        rw [directoryCount]
        apply Nat.le_add_left_of_le
        apply (ih here).trans (directoryCount_le_of_child? named)

/-! ### Ways that are not left out -/

/-- A walk from a location can go on to the end of every way: it may go down to all directories
below the location, and again below each of some others that a link may lead into. -/
structure CanGo (tree : FileTree) (fuel : Nat) (around : List (List String))
    (location : List String) (others : List (List String)) : Prop where
  covers : ∀ {found entries}, tree.at? found = some (.directory entries) →
    found ∉ location :: around → found ∈ others
  enough : ∀ {entries}, tree.at? location = some (.directory entries) →
    others.length * (tree.directoryCount + 1) + directoryCountIn entries < fuel

namespace CanGo

variable {fuel : Nat} {around others : List (List String)} {location there : List String}
  {entries : List (String × FileTree)} {name : String} {node : FileTree}

theorem start (location : List String) :
  CanGo tree ((tree.directoryCount + 1) * (tree.directoryCount + 1)) [] location
    (tree.directories [])
  := by
  constructor
  · intro found entries there _
    apply mem_directories there
  · intro entries here
    have below := directoryCount_le_of_at? here
    rw [directoryCount] at below
    rw [length_directories, Nat.succ_mul]
    omega

theorem exists_succ (can : CanGo tree fuel around location others)
    (here : tree.at? location = some (.directory entries)) :
  ∃ fuel', fuel = fuel' + 1
  := Nat.exists_eq_succ_of_ne_zero (Nat.ne_of_gt (Nat.zero_lt_of_lt (can.enough here)))

/-- A walk that goes down has less below it, and one that follows a link has one directory less that
a link may lead into. -/
theorem enter (can : CanGo tree (fuel + 1) around location others)
    (here : tree.at? location = some (.directory entries))
    (enters : tree.Enters (location :: around) location name node there) :
  ∃ others', CanGo tree fuel (location :: around) there others'
  := by
  have enough := can.enough here
  cases enters with
  | directory =>
      use others
      constructor
      · intro found inner placed new
        apply can.covers placed (List.not_mem_of_not_mem_cons new)
      · intro inner placed
        rw [at?_concat here] at placed
        have less := directoryCount_le_of_child? placed
        rw [directoryCount] at less
        omega
  | link leads placed new =>
      use others.erase there
      constructor
      · intro found inner placed new
        rw [List.mem_cons, not_or] at new
        apply (List.mem_erase_of_ne new.1).mpr (can.covers placed new.2)
      · intro inner placed
        have below := directoryCount_le_of_at? placed
        rw [directoryCount] at below
        have known := can.covers placed new
        obtain ⟨n, length⟩ :=
          Nat.exists_eq_succ_of_ne_zero (Nat.ne_of_gt (List.length_pos_of_mem known))
        rw [length, Nat.succ_mul] at enough
        rw [List.length_erase_of_mem known, length, Nat.succ_sub_one]
        omega

end CanGo

/-- A walk that can go on to the end of every way lists all of them. -/
theorem LeadsToFile.mem {around : List (List String)} {location names : List String}
    (leads : tree.LeadsToFile around location names) {fuel : Nat} {others : List (List String)}
    (can : CanGo tree fuel around location others) (outer : List String) :
  outer ++ names ∈ tree.filesThroughLinks fuel around location outer
  := by
  induction leads generalizing fuel others outer with
  | file here entry ends =>
      obtain ⟨fuel, rfl⟩ := can.exists_succ here
      apply mem_filesThroughLinks_succ.mpr
      refine ⟨_, here, _, entry, ?_⟩
      apply mem_filesAtEntry.mpr
      left
      use ends
  | @directory around location there names entries name node here entry enters onward ih =>
      obtain ⟨fuel, rfl⟩ := can.exists_succ here
      obtain ⟨others', can⟩ := can.enter here enters
      apply mem_filesThroughLinks_succ.mpr
      refine ⟨_, here, _, entry, ?_⟩
      apply mem_filesAtEntry.mpr
      right
      refine ⟨_, enters, ?_⟩
      rw [List.append_cons outer name names]
      apply ih can

theorem location_eq_ok {path : String} {location : List String} :
  tree.location path = .ok location ↔ tree.locate true path = .ok (.taken location)
  := by
  rw [FileTree.location]
  rcases tree.locate true path with fault | place | ⟨directory, name⟩
  · simp [bind, Except.bind]
  · simp [bind, Except.bind, pure, Except.pure]
  · simp [bind, Except.bind]

/-- The names that lead from a directory to the files below it are those of all ways there. -/
theorem mem_filesBelowThroughLinks {directory : String} {names : List String} :
  names ∈ tree.filesBelowThroughLinks directory ↔ ∃ location,
    tree.locate true directory = .ok (.taken location) ∧ tree.LeadsToFile [] location names
  := by
  simp only [← location_eq_ok]
  rw [filesBelowThroughLinks]
  rcases tree.location directory with fault | location
  · constructor
    · intro listed
      cases listed
    · rintro ⟨_, missing, _⟩
      cases missing
  · constructor
    · intro listed
      obtain ⟨below, rfl, leads⟩ := leadsToFile_of_mem listed
      use location, rfl, leads
    · rintro ⟨_, same, leads⟩
      rw [Except.ok.inj same]
      apply leads.mem (.start _) []

/-! ### Names on ways -/

/-- The names on a way are proper. -/
theorem LeadsToFile.isName {around : List (List String)} {location names : List String}
    (leads : tree.LeadsToFile around location names) (wellNamed : tree.IsWellNamed) :
  ∀ name ∈ names, Path.IsName name
  := by
  have proper {location : List String} {entries : List (String × FileTree)} {name : String}
      {node : FileTree} (here : tree.at? location = some (.directory entries))
      (entry : (name, node) ∈ entries) : Path.IsName name := by
    apply (isWellNamed_directory.mp (isWellNamed_of_at? wellNamed here)).1.2
    apply List.mem_map_of_mem entry
  induction leads with
  | file here entry ends =>
      rw [List.forall_mem_singleton]
      apply proper here entry
  | directory here entry enters onward ih =>
      rw [List.forall_mem_cons]
      use proper here entry

/-- What is listed at an entry of a directory goes on from its name. -/
theorem exists_of_mem_filesAtEntry {fuel : Nat} {around : List (List String)}
    {location outer names : List String} {name : String} {node : FileTree}
    (listed : names ∈ tree.filesAtEntry (tree.filesThroughLinks fuel around) around location outer
      (name, node)) :
  ∃ below, names = outer ++ name :: below
  := by
  rcases mem_filesAtEntry.mp listed with ⟨_, same⟩ | ⟨there, _, listed⟩
  · use [], same
  · obtain ⟨below, same, _⟩ := leadsToFile_of_mem listed
    use below
    rw [same, List.append_assoc]
    rfl

theorem nodup_filesAtEntry {enter : List String → List String → List (List String)}
    (distinct : ∀ there outer, (enter there outer).Nodup) (around : List (List String))
    (location outer : List String) (entry : String × FileTree) :
  (tree.filesAtEntry enter around location outer entry).Nodup
  := by
  obtain ⟨name, ⟨content, modified, isExecutable⟩ | target | inner⟩ := entry
  · apply List.nodup_singleton
  · rw [filesAtEntry]
    split
    · split
      · split
        · apply List.nodup_nil
        · apply distinct
      · apply List.nodup_singleton
      · apply List.nodup_nil
    · apply List.nodup_nil
  · apply distinct

/-- A walk lists no names twice. -/
theorem nodup_filesThroughLinks (wellNamed : tree.IsWellNamed) (fuel : Nat)
    (around : List (List String)) (location outer : List String) :
  (tree.filesThroughLinks fuel around location outer).Nodup
  := by
  induction fuel generalizing around location outer with
  | zero => apply List.nodup_nil
  | succ fuel ih =>
      rw [filesThroughLinks]
      split
      · next entries here =>
          obtain ⟨ordered, _⟩ := (isWellNamed_directory.mp (isWellNamed_of_at? wellNamed here)).1
          rw [List.nodup_flatMap]
          constructor
          · intro entry _
            apply nodup_filesAtEntry
            intro there outer
            apply ih
          · apply (List.pairwise_map.mp ordered).imp
            rintro ⟨name, node⟩ ⟨other, node'⟩ less names listed listed'
            obtain ⟨below, rfl⟩ := exists_of_mem_filesAtEntry listed
            obtain ⟨below', same⟩ := exists_of_mem_filesAtEntry listed'
            cases List.append_cancel_left same
            apply lt_irrefl _ less
      · apply List.nodup_nil

theorem nodup_filesBelowThroughLinks (wellNamed : tree.IsWellNamed) (directory : String) :
  (tree.filesBelowThroughLinks directory).Nodup
  := by
  rw [filesBelowThroughLinks]
  split
  · apply nodup_filesThroughLinks wellNamed
  · apply List.nodup_nil

end Toolshed.FileTree
