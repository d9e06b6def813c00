import Toolshed.Proofs.Files.Reaching
import Toolshed.Proofs.Files.Surface

/-!
# Making directories

The first names of a path lead to a directory that exists.  The others go on below it, and where
they are missing directories are made for them.  Then the path leads to a directory, and nothing
else is seen to change.
-/

namespace Toolshed.FileTree

variable {tree later : FileTree} {before outer below : List String} {name : String}

/-! ### Ways that are clear -/

theorem isClear_iff {here : List String} :
  tree.IsClear here below ↔ ∀ way, way <+: below →
    tree.surfaceAt? (here ++ way) = none ∨ tree.surfaceAt? (here ++ way) = some empty
  := by
  constructor
  · intro clear way within
    rcases found : tree.at? (here ++ way) with _ | node
    · left
      apply surfaceAt?_eq_none.mpr found
    · right
      obtain ⟨entries, rfl⟩ := clear way within node found
      apply surfaceAt?_eq_empty.mpr
      use entries
  · intro seen way within node found
    rcases seen way within with missing | directory
    · rw [surfaceAt?_eq_none.mp missing] at found
      cases found
    · obtain ⟨entries, same⟩ := surfaceAt?_eq_empty.mp directory
      use entries
      rw [found] at same
      apply Option.some.inj same

/-- A way stays clear if directories come at most. -/
theorem IsClear.mono {here : List String} (clear : tree.IsClear here below)
    (seen : ∀ way, way <+: here ++ below → later.surfaceAt? way = tree.surfaceAt? way
      ∨ later.surfaceAt? way = some empty) :
  later.IsClear here below
  := by
  rw [isClear_iff] at clear ⊢
  intro way within
  rcases seen (here ++ way) ((List.prefix_append_right_inj _).mpr within) with same | new
  · rw [same]
    apply clear way within
  · right
    apply new

/-- Some names lead to a directory, and others go on below it where there is nothing else. -/
structure GoesDown (tree : FileTree) (before outer below : List String) : Prop where
  leads : tree.locateFrom true maxLinks [] before = .ok (.taken outer)
  directory : ∃ entries, tree.at? outer = some (.directory entries)
  proper : ∀ name ∈ below, IsEntryName name
  clear : tree.IsClear outer below

namespace GoesDown

theorem of_append {below' : List String} (down : tree.GoesDown before outer (below ++ below')) :
  tree.GoesDown before outer below
  := by
  refine ⟨down.leads, down.directory, ?_, ?_⟩
  · intro name among
    apply down.proper name (List.mem_append_left _ among)
  · apply down.clear.of_prefix (List.prefix_append _ _)

theorem mono (down : tree.GoesDown before outer below) (change : OnlyFilesChange tree later)
    (seen : ∀ way, way <+: outer ++ below → later.surfaceAt? way = tree.surfaceAt? way
      ∨ later.surfaceAt? way = some empty) :
  later.GoesDown before outer below
  := by
  obtain ⟨entries, directory⟩ := down.directory
  obtain ⟨entries', directory'⟩ := change.directories directory
  refine ⟨?_, ⟨entries', directory'⟩, down.proper, down.clear.mono seen⟩
  apply change.locateFrom directory down.leads

/-- Where there is a directory at the end, the names lead to it. -/
theorem locateFrom {entries : List (String × FileTree)} (down : tree.GoesDown before outer below)
    (directory : tree.at? (outer ++ below) = some (.directory entries)) :
  tree.locateFrom true maxLinks [] (before ++ below) = .ok (.taken (outer ++ below))
  := by
  obtain ⟨links, same⟩ := locateFrom_append down.leads
  obtain ⟨follow, walks⟩ := exists_locateFrom_eq tree true links
  have onto : tree.walk true follow outer (below ++ [])
      = tree.walk true follow (outer ++ below) [] := walk_down down.proper directory []
  rw [List.append_nil] at onto
  rw [same, walks, onto]
  rfl

/-- Beyond a directory that is missing, no step leads anywhere. -/
theorem locateFrom_missing (down : tree.GoesDown before outer below)
    (missing : tree.at? (outer ++ below) = none) {rest : List String} (nonempty : rest ≠ [])
    (followLast : Bool) :
  tree.locateFrom followLast maxLinks [] (before ++ below ++ rest) = .error .notFound
  := by
  obtain ⟨links, same⟩ := locateFrom_append_of_ne_nil down.leads followLast
  obtain ⟨follow, walks⟩ := exists_locateFrom_eq tree followLast links
  obtain ⟨entries, directory⟩ := down.directory
  rw [List.append_assoc, same _ (List.append_ne_nil_of_right_ne_nil _ nonempty), walks]
  apply walk_missing directory down.proper down.clear missing nonempty

/-- In a directory, a missing name is free. -/
theorem locateFrom_free {entries : List (String × FileTree)}
    (down : tree.GoesDown before outer (below ++ [name]))
    (directory : tree.at? (outer ++ below) = some (.directory entries))
    (missing : tree.at? (outer ++ below ++ [name]) = none) (followLast : Bool) :
  tree.locateFrom followLast maxLinks [] (before ++ (below ++ [name]))
    = .ok (.free (outer ++ below) name)
  := by
  obtain ⟨links, same⟩ := locateFrom_append_of_ne_nil down.leads followLast
  obtain ⟨follow, walks⟩ := exists_locateFrom_eq tree followLast links
  rw [same _ (List.concat_ne_nil _ _), walks, walk_down down.of_append.proper directory]
  apply walk_vacant directory _ missing
  apply down.proper name (List.mem_append_right _ (List.mem_singleton_self name))

/-- In the empty tree nothing is in the way of proper names. -/
theorem empty (proper : ∀ name ∈ below, IsEntryName name) :
  GoesDown .empty [] [] below
  := by
  refine ⟨rfl, ⟨[], rfl⟩, proper, ?_⟩
  intro way _ node found
  cases way with
  | nil =>
      use []
      apply (Option.some.inj found).symm
  | cons name way => cases found

end GoesDown

/-! ### Made directories -/

/-- From a tree to a later one a directory is made at a location, with those that are missing on the
way to it from another one, and nothing else is seen to change. -/
structure Makes (tree later : FileTree) (location : List String) : Prop where
  change : OnlyFilesChange tree later
  wellNamed : tree.IsWellNamed → later.IsWellNamed
  directory : ∃ entries, later.at? location = some (.directory entries)
  seen : ∀ other, later.surfaceAt? other = tree.surfaceAt? other ∨
    (other <+: location ∧ tree.surfaceAt? other = none ∧ later.surfaceAt? other = some empty)

namespace Makes

variable {location : List String}

/-- A directory that exists is not made. -/
theorem refl {entries : List (String × FileTree)}
    (directory : tree.at? location = some (.directory entries)) :
  Makes tree tree location
  := by
  refine ⟨OnlyFilesChange.refl tree, id, ⟨entries, directory⟩, ?_⟩
  intro other
  left
  rfl

/-- A directory is made in one that exists. -/
theorem put {entries : List (String × FileTree)}
    (directory : tree.at? location = some (.directory entries)) (proper : Path.IsName name)
    (vacant : tree.at? (location ++ [name]) = none) :
  Makes tree (tree.put (location ++ [name]) empty) (location ++ [name])
  := by
  have edits := EditsFiles.makeDirectory ⟨⟨entries, directory⟩, vacant, proper⟩
  refine ⟨edits.onlyFilesChange, edits.isWellNamed, ⟨[], at?_put directory name empty []⟩, ?_⟩
  intro other
  by_cases within : location ++ [name] <+: other
  · obtain ⟨rest, rfl⟩ := within
    have old : tree.surfaceAt? (location ++ [name] ++ rest) = none := by
      rw [surfaceAt?_eq_none, at?_append, vacant]
      rfl
    rw [List.append_assoc] at old ⊢
    rw [old, surfaceAt?, List.singleton_append, at?_put directory]
    cases rest with
    | nil =>
        right
        refine ⟨List.prefix_refl _, rfl, rfl⟩
    | cons other rest =>
        left
        rfl
  · left
    apply surfaceAt?_put directory empty within

theorem trans {latest : FileTree} (first : Makes tree later location)
    (second : Makes later latest (location ++ below)) :
  Makes tree latest (location ++ below)
  := by
  refine ⟨first.change.trans second.change, second.wellNamed ∘ first.wellNamed,
    second.directory, ?_⟩
  intro other
  rcases first.seen other with same | ⟨within, old, new⟩
  · rw [← same]
    apply second.seen
  · rcases second.seen other with same | ⟨_, fresh, _⟩
    · right
      rw [same]
      use within.trans (List.prefix_append _ _), old, new
    · rw [new] at fresh
      cases fresh

/-- Directories come at most. -/
theorem seen_cases (makes : Makes tree later location) (other : List String) :
  later.surfaceAt? other = tree.surfaceAt? other ∨ later.surfaceAt? other = some empty
  := by
  rcases makes.seen other with same | ⟨_, _, new⟩
  · left
    apply same
  · right
    apply new

/-- Nothing changes but on the way to the directory. -/
theorem surfaceAt?_eq {other : List String} (makes : Makes tree later location)
    (apart : ¬ other <+: location) :
  later.surfaceAt? other = tree.surfaceAt? other
  := by
  rcases makes.seen other with same | ⟨within, _⟩
  · apply same
  · cases apart within

end Makes

/-! ### Making them -/

/-- A name below a directory has a directory made for it. -/
theorem exists_makeDirectory {entries : List (String × FileTree)}
    (down : tree.GoesDown before outer (below ++ [name]))
    (directory : tree.at? (outer ++ below) = some (.directory entries))
    (vacant : tree.at? (outer ++ below ++ [name]) = none)
    (usable : IsUsable (pathOf (before ++ (below ++ [name]))))
    (same : steps (pathOf (before ++ (below ++ [name]))) = before ++ (below ++ [name])) :
  ∃ later, tree.makeDirectory (pathOf (before ++ (below ++ [name]))) = .ok later
    ∧ Makes tree later (outer ++ below ++ [name])
  := by
  have proper := down.proper name (List.mem_append_right _ (List.mem_singleton_self name))
  use tree.put (outer ++ below ++ [name]) empty
  constructor
  · rw [makeDirectory, locate_of_isUsable usable, same, down.locateFrom_free directory vacant]
    rfl
  · apply Makes.put directory proper.toIsName vacant

theorem makeDirectoriesOf_cons (tree : FileTree) (outer : List String) :
  tree.makeDirectoriesOf (name :: outer)
    = match tree.makeDirectory (pathOf (name :: outer).reverse) with
      | .ok later => .ok later
      | .error .notFound =>
        (tree.makeDirectoriesOf outer).bind fun later =>
          match later.makeDirectory (pathOf (name :: outer).reverse) with
          | .ok latest => .ok latest
          | .error fault =>
            if later.isDirectory (pathOf (name :: outer).reverse) then .ok later else .error fault
      | .error fault =>
        if tree.isDirectory (pathOf (name :: outer).reverse) then .ok tree else .error fault
  := by
  rw [makeDirectoriesOf]
  rfl

/-- A directory that exists is not made again. -/
theorem makeDirectoriesOf_of_directory {names : List String} {location : List String}
    {entries : List (String × FileTree)} (nonempty : names ≠ []) (usable : IsUsable (pathOf names))
    (same : steps (pathOf names) = names)
    (leads : tree.locateFrom true maxLinks [] names = .ok (.taken location))
    (directory : tree.at? location = some (.directory entries)) :
  tree.makeDirectoriesOf names.reverse = .ok tree
  := by
  obtain ⟨location', taken⟩ := exists_taken_of_locateFrom leads
  have fails : tree.makeDirectory (pathOf names) = .error .exists := by
    rw [makeDirectory, locate_of_isUsable usable, same, taken]
    rfl
  have isDirectory : tree.isDirectory (pathOf names) = true := by
    apply isDirectory_iff.mpr
    use location, entries
    rw [locate_of_isUsable usable, same]
    use leads, directory
  obtain ⟨name, outer, reversed⟩ :=
    List.exists_cons_of_ne_nil (List.reverse_ne_nil_iff.mpr nonempty)
  rw [reversed, makeDirectoriesOf_cons, ← reversed, List.reverse_reverse, fails]
  apply if_pos isDirectory

/-- Names that go down from a directory have it made at their end. -/
theorem exists_makeDirectoriesOf (down : tree.GoesDown before outer below)
    (usable : ∀ names, names <+: before ++ below → IsUsable (pathOf names))
    (same : ∀ names, names ≠ [] → names <+: before ++ below → steps (pathOf names) = names) :
  ∃ later, tree.makeDirectoriesOf (before ++ below).reverse = .ok later
    ∧ Makes tree later (outer ++ below)
  := by
  induction below using List.reverseRecOn with
  | nil =>
      obtain ⟨entries, directory⟩ := down.directory
      rw [List.append_nil] at usable same ⊢
      rw [List.append_nil]
      use tree
      constructor
      · by_cases empty : before = []
        · rw [empty]
          rfl
        · apply makeDirectoriesOf_of_directory empty (usable _ (List.prefix_refl _))
            (same _ empty (List.prefix_refl _)) down.leads directory
      · apply Makes.refl directory
  | append_singleton below name ih =>
      have nonempty : before ++ (below ++ [name]) ≠ [] :=
        List.append_ne_nil_of_right_ne_nil _ (List.concat_ne_nil _ _)
      have whole := List.prefix_refl (before ++ (below ++ [name]))
      have reversed : (before ++ (below ++ [name])).reverse
          = name :: (before ++ below).reverse := by
        simp
      rcases found : tree.at? (outer ++ (below ++ [name])) with _ | node
      · rw [← List.append_assoc] at found
        rw [reversed, makeDirectoriesOf_cons, ← reversed, List.reverse_reverse,
          ← List.append_assoc outer]
        rcases above : tree.at? (outer ++ below) with _ | node
        · -- The directory above is made first; then the name in it is still free.
          have fails : tree.makeDirectory (pathOf (before ++ (below ++ [name])))
              = .error .notFound := by
            rw [makeDirectory, locate_of_isUsable (usable _ whole), same _ nonempty whole,
              ← List.append_assoc, down.of_append.locateFrom_missing above (List.cons_ne_nil _ _)]
            rfl
          have inner : before ++ below <+: before ++ (below ++ [name]) := by
            simp
          obtain ⟨later, made, makes⟩ := ih down.of_append
            (fun names within => usable names (within.trans inner))
            (fun names nonempty within => same names nonempty (within.trans inner))
          have vacant : later.at? (outer ++ below ++ [name]) = none := by
            rw [← surfaceAt?_eq_none, makes.surfaceAt?_eq, surfaceAt?_eq_none]
            · apply found
            · intro within
              have := within.length_le
              simp at this
          obtain ⟨entries, directory⟩ := makes.directory
          obtain ⟨latest, made', makes'⟩ := exists_makeDirectory
            (down.mono makes.change (fun way _ => makes.seen_cases way)) directory vacant
            (usable _ whole) (same _ nonempty whole)
          use latest
          rw [fails]
          dsimp only
          rw [made, Except.bind, made']
          refine ⟨rfl, makes.trans makes'⟩
        · obtain ⟨entries, rfl⟩ := down.clear below (List.prefix_append _ _) node above
          obtain ⟨later, made, makes⟩ := exists_makeDirectory down above found (usable _ whole)
            (same _ nonempty whole)
          use later
          rw [made]
          refine ⟨rfl, makes⟩
      · obtain ⟨entries, rfl⟩ := down.clear _ (List.prefix_refl _) node found
        use tree
        constructor
        · apply makeDirectoriesOf_of_directory nonempty (usable _ whole) (same _ nonempty whole)
            (down.locateFrom found) found
        · apply Makes.refl found

end Toolshed.FileTree
