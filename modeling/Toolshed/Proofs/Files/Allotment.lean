import Toolshed.Proofs.Files.Making

/-!
# Files in a directory that may have to be made

A path may have a place for its directory before that exists.  What a path below it leads to, and
what writing and removing there do, is told from what is at that place.
-/

namespace Toolshed.FileTree

variable {tree later : FileTree} {path name : String} {place : List String}
  {entries : List (String × FileTree)}

/-! ### Names that fit -/

/-- A name can be followed below a path. -/
structure Fits (path name : String) : Prop where
  usable : IsUsable (Path.join path name)
  short : name.utf8ByteSize ≤ maxNameLength

instance (path : String) : Decidable (IsUsable path) :=
  decidable_of_iff ('\x00' ∉ path.toList ∧ path.utf8ByteSize ≤ maxPathLength
      ∧ Path.isAbsolute path = true)
    ⟨fun ⟨h, h', h''⟩ => ⟨h, h', h''⟩, fun ⟨h, h', h''⟩ => ⟨h, h', h''⟩⟩

instance (path name : String) : Decidable (Fits path name) :=
  decidable_of_iff (IsUsable (Path.join path name) ∧ name.utf8ByteSize ≤ maxNameLength)
    ⟨fun ⟨h, h'⟩ => ⟨h, h'⟩, fun ⟨h, h'⟩ => ⟨h, h'⟩⟩

section

variable (leads : tree.locate true path = .ok (.taken place)) (proper : Path.IsName name)

include leads proper

/-- A name that does not fit leads nowhere. -/
theorem exists_error_of_not_fits (directory : tree.at? place = some (.directory entries))
    (long : ¬ Fits path name) (followLast : Bool) :
  ∃ fault, tree.locate followLast (Path.join path name) = .error fault
  := by
  by_cases usable : IsUsable (Path.join path name)
  · obtain ⟨follow, same⟩ := exists_locate_join usable proper leads followLast
    have short : maxNameLength < name.utf8ByteSize :=
      Nat.lt_of_not_le fun short => long ⟨usable, short⟩
    use .nameTooLong
    rw [same, walk, directory]
    simp only [proper.not_point, proper.not_parent, short, if_true, if_false]
  · apply exists_error_of_not_isUsable usable

variable (fits : Fits path name)

include fits

theorem locate_join_free (directory : tree.at? place = some (.directory entries))
    (vacant : tree.at? (place ++ [name]) = none) (followLast : Bool) :
  tree.locate followLast (Path.join path name) = .ok (.free place name)
  := by
  obtain ⟨follow, same⟩ := exists_locate_join fits.usable proper leads followLast
  rw [same]
  apply walk_vacant directory ⟨proper, fits.short⟩ vacant

theorem locate_join_taken {node : FileTree} (found : tree.at? (place ++ [name]) = some node)
    (plain : ∀ target, node ≠ .link target) (followLast : Bool) :
  tree.locate followLast (Path.join path name) = .ok (.taken (place ++ [name]))
  := by
  obtain ⟨entries, directory⟩ := exists_directory_of_at? (List.cons_ne_nil _ _) found
  obtain ⟨follow, same⟩ := exists_locate_join fits.usable proper leads followLast
  rw [same, walk_onto directory ⟨proper, fits.short⟩ found plain]
  rfl

end

/-! ### Allotted places -/

/-- A path has its directory at a place, or that is where it is made. -/
structure Allots (tree : FileTree) (path : String) (place : List String) : Prop where
  usable : IsUsable path
  down : ∃ before outer below, Path.names path = before ++ below ∧ place = outer ++ below
    ∧ tree.GoesDown before outer below

namespace Allots

theorem mono (allots : tree.Allots path place) (change : OnlyFilesChange tree later)
    (seen : ∀ way, way <+: place → later.surfaceAt? way = tree.surfaceAt? way
      ∨ later.surfaceAt? way = some empty) :
  later.Allots path place
  := by
  obtain ⟨before, outer, below, names, rfl, down⟩ := allots.down
  refine ⟨allots.usable, before, outer, below, names, rfl, ?_⟩
  apply down.mono change seen

variable (allots : tree.Allots path place)

include allots

/-- At the place there is nothing but a directory. -/
theorem cases :
  tree.at? place = none ∨ ∃ entries, tree.at? place = some (.directory entries)
  := by
  obtain ⟨before, outer, below, names, rfl, down⟩ := allots.down
  rcases found : tree.at? (outer ++ below) with _ | node
  · left
    rfl
  · right
    obtain ⟨entries, rfl⟩ := down.clear below (List.prefix_refl _) node found
    use entries

/-- The path leads to the directory at the place. -/
theorem leads (directory : tree.at? place = some (.directory entries)) :
  tree.locate true path = .ok (.taken place)
  := by
  obtain ⟨before, outer, below, names, rfl, down⟩ := allots.down
  apply locate_eq_ok.mpr
  use allots.usable
  apply (undots_names allots.usable.absolute).locateFrom_back directory
  rw [names]
  apply down.locateFrom directory

/-- Before there is a directory, no path below it leads anywhere. -/
theorem locate_join_ne (missing : tree.at? place = none) (proper : Path.IsName name)
    (location : List String) :
  tree.locate true (Path.join path name) ≠ .ok (.taken location)
  := by
  intro leads
  obtain ⟨before, outer, below, names, rfl, down⟩ := allots.down
  obtain ⟨usable, leads⟩ := locate_eq_ok.mp leads
  have named : Path.names (Path.join path name) = before ++ below ++ [name] := by
    have more := Path.names_joinAll path (List.forall_mem_singleton.mpr proper)
    rw [names] at more
    apply more
  have reached := (undots_names usable.absolute).locateFrom leads
  rw [named, down.locateFrom_missing missing (List.cons_ne_nil _ _)] at reached
  cases reached

/-- Before there is a directory, the path does not lead anywhere either. -/
theorem locate_ne (missing : tree.at? place = none) (location : List String) :
  tree.locate true path ≠ .ok (.taken location)
  := by
  intro leads
  obtain ⟨before, outer, below, names, rfl, down⟩ := allots.down
  obtain ⟨usable, leads⟩ := locate_eq_ok.mp leads
  have reached := (undots_names usable.absolute).locateFrom leads
  rw [names] at reached
  rcases List.eq_nil_or_concat' below with rfl | ⟨below, name, rfl⟩
  · obtain ⟨entries, directory⟩ := down.directory
    rw [List.append_nil, directory] at missing
    cases missing
  · rcases above : tree.at? (outer ++ below) with _ | node
    · rw [← List.append_assoc, down.of_append.locateFrom_missing above (List.cons_ne_nil _ _)]
        at reached
      cases reached
    · obtain ⟨entries, rfl⟩ := down.clear below (List.prefix_append _ _) node above
      rw [← List.append_assoc] at missing
      rw [down.locateFrom_free above missing] at reached
      cases reached

/-- The directory can be made. -/
theorem exists_makeDirectories :
  ∃ later, tree.makeDirectories path = .ok later ∧ Makes tree later place
  := by
  obtain ⟨before, outer, below, names, rfl, down⟩ := allots.down
  rw [makeDirectories, names]
  apply exists_makeDirectoriesOf down
  · intro steps within
    rw [← names] at within
    have fewer : (pathOf steps).toList.Sublist
        ("/" ++ "/".intercalate (Path.names path)).toList := by
      rw [pathOf, String.toList_append, String.toList_append]
      apply (Path.intercalate_sublist within.sublist).append_left
    apply allots.usable.of_sublist _ (Path.isAbsolute_slash_append _)
    apply fewer.trans (Path.slash_names_sublist allots.usable.absolute)
  · intro steps further within
    rw [← names] at within
    apply steps_pathOf further
    intro name among
    obtain ⟨part, nonempty, _⟩ := Path.mem_names.mp (within.subset among)
    use nonempty, Path.slash_not_mem_of_mem_parts part

/-- The names of the directory are those in it, if it exists. -/
theorem names_cases :
  (tree.at? place = none ∧ ∃ fault, tree.names path = .error fault)
    ∨ ∃ entries, tree.at? place = some (.directory entries)
      ∧ tree.names path = .ok (Assoc.keys entries)
  := by
  rcases allots.cases with missing | ⟨entries, directory⟩
  · left
    use missing
    rcases found : tree.find path with fault | node
    · use fault
      rw [FileTree.names, found]
      rfl
    · obtain ⟨location, leads, _⟩ := find_eq_ok.mp found
      cases allots.locate_ne missing location leads
  · right
    use entries, directory
    rw [FileTree.names, find_eq_ok.mpr ⟨place, allots.leads directory, directory⟩]
    rfl

/-- What the file of a name holds is what is found at the place, if the name fits. -/
theorem content?_join (proper : Path.IsName name)
    (plain : ∀ target, tree.at? (place ++ [name]) ≠ some (.link target)) :
  tree.content? (Path.join path name)
    = if Fits path name then tree.contentAt? (place ++ [name]) else none
  := by
  rw [content?]
  rcases allots.cases with missing | ⟨entries, directory⟩
  · have nothing : tree.at? (place ++ [name]) = none := by
      rw [at?_append, missing]
      rfl
    rw [contentAt?, nothing, Option.bind_none, ite_self]
    rcases found : tree.find (Path.join path name) with fault | node
    · rfl
    · obtain ⟨location, leads, _⟩ := find_eq_ok.mp found
      cases allots.locate_join_ne missing proper location leads
  · have leads := allots.leads directory
    split
    · next fits =>
        rw [contentAt?]
        rcases found : tree.at? (place ++ [name]) with _ | node
        · rw [find, location, locate_join_free leads proper fits directory found]
          rfl
        · have goes := locate_join_taken leads proper fits found
            (fun target same => plain target (found.trans (congrArg some same))) true
          rw [find_eq_ok.mpr ⟨_, goes, found⟩]
          rfl
    · next long =>
        obtain ⟨fault, fails⟩ := exists_error_of_not_fits leads proper directory long true
        rw [find, location, fails]
        rfl

end Allots

/-! ### Writing and removing -/

section

variable (leads : tree.locate true path = .ok (.taken place)) (proper : Path.IsName name)

include leads proper

/-- A file is written where there is none, or over one that is there. -/
theorem exists_write_join (fits : Fits path name)
    (directory : tree.at? place = some (.directory entries))
    (old : tree.at? (place ++ [name]) = none ∨ tree.HasFileAt (place ++ [name]))
    (content : ByteArray) (modified : Int) (makeExecutable : Bool) :
  ∃ isExecutable, tree.write (Path.join path name) content modified makeExecutable
    = .ok (tree.put (place ++ [name]) (.file content modified isExecutable))
  := by
  rcases old with vacant | file
  · use makeExecutable
    rw [write, locate_join_free leads proper fits directory vacant]
    rfl
  · obtain ⟨_, _, isExecutable, found⟩ := hasFileAt_iff.mp file
    use isExecutable || makeExecutable
    rw [write, locate_join_taken leads proper fits found (by simp)]
    simp only [bind, Except.bind, found]
    rfl

theorem exists_write_error (long : ¬ Fits path name)
    (directory : tree.at? place = some (.directory entries))
    (content : ByteArray) (modified : Int) (makeExecutable : Bool) :
  ∃ fault, tree.write (Path.join path name) content modified makeExecutable = .error fault
  := by
  obtain ⟨fault, fails⟩ := exists_error_of_not_fits leads proper directory long true
  use fault
  rw [write, fails]
  rfl

theorem removeFile_join (fits : Fits path name) (file : tree.HasFileAt (place ++ [name])) :
  tree.removeFile (Path.join path name) = .ok (tree.drop (place ++ [name]))
  := by
  obtain ⟨_, _, _, found⟩ := hasFileAt_iff.mp file
  rw [removeFile, locate_join_taken leads proper fits found (by simp)]
  simp only [bind, Except.bind, found]
  rfl

end

end Toolshed.FileTree
