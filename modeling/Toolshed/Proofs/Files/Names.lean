import Toolshed.Files.TypeDirectory
import Toolshed.Files.Walk
import Toolshed.Proofs.Assoc
import Toolshed.Proofs.Files.Lookup
import Toolshed.Proofs.Path.Inside
import Mathlib.Data.String.Basic

/-!
# Names in file trees

The entries of a directory have proper names, and stand in the order of their names.  In such a tree
the files below a node are those that are found at the names that lead to them.
-/

namespace Toolshed

namespace FileTree

/-- The entries of a directory have proper names, in order. -/
def HasProperNames : FileTree → Prop
  | .directory entries =>
    (Assoc.keys entries).Pairwise (· < ·) ∧ ∀ name ∈ Assoc.keys entries, Path.IsName name
  | _ => True

instance : DecidablePred HasProperNames
  | .file _ _ _ => .isTrue trivial
  | .link _ => .isTrue trivial
  | .directory _ => inferInstanceAs (Decidable (_ ∧ _))

/-- All directories of a tree have entries with proper names. -/
def IsWellNamed (tree : FileTree) : Prop :=
  ∀ node ∈ tree.nodes, node.HasProperNames

instance (tree : FileTree) : Decidable tree.IsWellNamed :=
  inferInstanceAs (Decidable (∀ node ∈ tree.nodes, _))

theorem isWellNamed_directory {entries : List (String × FileTree)} :
  IsWellNamed (.directory entries)
    ↔ HasProperNames (.directory entries) ∧ ∀ node ∈ nodesIn entries, node.HasProperNames
  := by
  rw [IsWellNamed, nodes, List.forall_mem_cons]

theorem isWellNamed_of_child? {entries : List (String × FileTree)} {name : String}
    {child : FileTree} (wellNamed : ∀ node ∈ nodesIn entries, node.HasProperNames)
    (named : child? name entries = some child) :
  child.IsWellNamed
  := by
  intro node among
  apply wellNamed node (mem_nodesIn named among)

/-! ### Locations -/

/-- The names that lead to a node of a well-named tree are proper. -/
theorem isName_of_at? {location : List String} {tree node : FileTree}
    (wellNamed : tree.IsWellNamed) (found : tree.at? location = some node) :
  ∀ name ∈ location, Path.IsName name
  := by
  induction location generalizing tree with
  | nil =>
      intro name among
      cases among
  | cons name location ih =>
      rcases tree with ⟨content, modified, isExecutable⟩ | target | entries
      · cases found
      · cases found
      · obtain ⟨⟨_, proper⟩, below⟩ := isWellNamed_directory.mp wellNamed
        rw [at?] at found
        obtain ⟨child, named, found⟩ := Option.bind_eq_some_iff.mp found
        rw [List.forall_mem_cons]
        constructor
        · apply proper
          rw [← Assoc.isSome_get?, ← child?, named]
          rfl
        · apply ih (isWellNamed_of_child? below named) found

theorem isWellNamed_of_at? {location : List String} {tree node : FileTree}
    (wellNamed : tree.IsWellNamed) (found : tree.at? location = some node) :
  node.IsWellNamed
  := by
  induction location generalizing tree with
  | nil =>
      rw [← Option.some.inj found]
      apply wellNamed
  | cons name location ih =>
      rcases tree with ⟨content, modified, isExecutable⟩ | target | entries
      · cases found
      · cases found
      · rw [at?] at found
        obtain ⟨child, named, found⟩ := Option.bind_eq_some_iff.mp found
        apply ih (isWellNamed_of_child? (isWellNamed_directory.mp wellNamed).2 named) found

/-- There is a file at a location. -/
def HasFileAt (tree : FileTree) (location : List String) : Prop :=
  ((tree.at? location).bind contentOf?).isSome = true

theorem hasFileAt_iff {tree : FileTree} {location : List String} :
  tree.HasFileAt location
    ↔ ∃ content modified isExecutable,
      tree.at? location = some (.file content modified isExecutable)
  := by
  rw [HasFileAt]
  rcases tree.at? location with _ | ⟨content, modified, isExecutable⟩ | target | entries
  · simp
  · simp [contentOf?]
  · simp [contentOf?]
  · simp [contentOf?]

/-- A path to a file leads to a location with a file. -/
theorem isFile_iff {tree : FileTree} {path : String} :
  tree.isFile path = true
    ↔ ∃ location, tree.locate true path = .ok (.taken location) ∧ tree.HasFileAt location
  := by
  simp only [hasFileAt_iff]
  rw [isFile]
  constructor
  · intro h
    split at h
    · next content modified isExecutable found =>
        obtain ⟨location, leads, placed⟩ := find_eq_ok.mp found
        use location, leads, content, modified, isExecutable
    · cases h
  · rintro ⟨location, leads, content, modified, isExecutable, placed⟩
    rw [find_eq_ok.mpr ⟨location, leads, placed⟩]

/-- A file that holds a manifest is a file. -/
theorem isFile_of_inFile? {tree : FileTree} {path : String}
    (loads : (Manifest.inFile? tree path).isSome = true) :
  tree.isFile path = true
  := by
  rcases content : tree.content? path with _ | bytes
  · rw [Manifest.inFile?_eq, toOption_read, content] at loads
    rcases format : Format.ofToolPath? path with _ | format
    · rw [format] at loads
      cases loads
    · rw [format] at loads
      cases loads
  · rw [content?] at content
    obtain ⟨node, found, held⟩ := Option.bind_eq_some_iff.mp content
    rcases find : tree.find path with fault | node'
    · rw [find] at found
      cases found
    · rw [find] at found
      rw [isFile, find, Option.some.inj found]
      rcases node with ⟨content, modified, isExecutable⟩ | target | entries
      · rfl
      · cases held
      · cases held

/-- A path to a directory leads to a location with a directory. -/
theorem isDirectory_iff {tree : FileTree} {path : String} :
  tree.isDirectory path = true ↔ ∃ location entries,
    tree.locate true path = .ok (.taken location) ∧ tree.at? location = some (.directory entries)
  := by
  rw [isDirectory]
  constructor
  · intro h
    split at h
    · next entries found =>
        obtain ⟨location, leads, placed⟩ := find_eq_ok.mp found
        use location, entries
    · cases h
  · rintro ⟨location, entries, leads, placed⟩
    rw [find_eq_ok.mpr ⟨location, leads, placed⟩]

/-! ### Files below a node -/

mutual

/-- The names that lead to the files below a node are those at which there is a file. -/
theorem mem_filesIn {names outer : List String} : {tree : FileTree} → tree.IsWellNamed →
    (names ∈ tree.filesIn outer ↔ ∃ below, names = outer ++ below ∧ tree.HasFileAt below)
  | .file content modified isExecutable, _ => by
    rw [filesIn, List.mem_singleton]
    constructor
    · intro same
      use []
      rw [List.append_nil]
      use same
      rfl
    · rintro ⟨_ | ⟨name, below⟩, same, found⟩
      · rw [same, List.append_nil]
      · cases found
  | .link target, _ => by
    rw [filesIn]
    constructor
    · intro among
      cases among
    · rintro ⟨_ | ⟨name, below⟩, _, found⟩
      · cases found
      · cases found
  | .directory entries, wellNamed => by
    obtain ⟨⟨ordered, _⟩, within⟩ := isWellNamed_directory.mp wellNamed
    rw [filesIn, mem_filesInEntries (ordered.imp ne_of_lt) within]
    constructor
    · rintro ⟨name, child, below, same, named, found⟩
      use name :: below, same
      rw [HasFileAt, at?, named]
      apply found
    · rintro ⟨_ | ⟨name, below⟩, same, found⟩
      · cases found
      · rw [HasFileAt, at?] at found
        rcases named : child? name entries with _ | child
        · rw [named] at found
          cases found
        · rw [named] at found
          use name, child, below, same, named, found

/-- The names that lead to the files below some entries go on from the names of these. -/
theorem mem_filesInEntries {names outer : List String} : {entries : List (String × FileTree)} →
    (Assoc.keys entries).Nodup → (∀ node ∈ nodesIn entries, node.HasProperNames) →
    (names ∈ filesInEntries outer entries ↔ ∃ name child below,
      names = outer ++ name :: below ∧ child? name entries = some child ∧ child.HasFileAt below)
  | [], _, _ => by
    rw [filesInEntries]
    constructor
    · intro among
      cases among
    · rintro ⟨name, child, below, _, named, _⟩
      cases named
  | (other, node) :: entries, distinct, within => by
    obtain ⟨new, distinct⟩ := List.nodup_cons.mp distinct
    rw [nodesIn] at within
    obtain ⟨first, rest⟩ := List.forall_mem_append.mp within
    rw [filesInEntries, List.mem_append, mem_filesIn first, mem_filesInEntries distinct rest]
    constructor
    · rintro (⟨below, same, found⟩ | ⟨name, child, below, same, named, found⟩)
      · use other, node, below
        rw [same, List.append_assoc]
        use rfl
        constructor
        · apply if_pos rfl
        · apply found
      · use name, child, below, same
        constructor
        · rw [child?, Assoc.get?, if_neg]
          · apply named
          · rintro rfl
            apply new
            rw [← Assoc.keys, ← Assoc.isSome_get?, ← child?, named]
            rfl
        · apply found
    · rintro ⟨name, child, below, same, named, found⟩
      rw [child?, Assoc.get?] at named
      split at named
      · next first =>
          left
          use below
          rw [same, first, Option.some.inj named, List.append_assoc]
          use rfl, found
      · right
        use name, child, below, same, named, found

end

/-- The names that lead from a directory to the files below it are those at which there is a file,
seen from the place of the directory. -/
theorem mem_filesBelow {tree : FileTree} {directory : String} {names : List String}
    (wellNamed : tree.IsWellNamed) :
  names ∈ tree.filesBelow directory ↔ ∃ location,
    tree.locate true directory = .ok (.taken location) ∧ tree.HasFileAt (location ++ names)
  := by
  rw [filesBelow]
  constructor
  · intro among
    rcases found : tree.find directory with fault | node
    · rw [found] at among
      cases among
    · rw [found] at among
      obtain ⟨location, leads, placed⟩ := find_eq_ok.mp found
      obtain ⟨below, rfl, file⟩ := (mem_filesIn (isWellNamed_of_at? wellNamed placed)).mp among
      use location, leads
      rw [HasFileAt, at?_append, placed]
      apply file
  · rintro ⟨location, leads, file⟩
    rw [HasFileAt, at?_append] at file
    rcases placed : tree.at? location with _ | node
    · rw [placed] at file
      cases file
    · rw [placed] at file
      rw [find_eq_ok.mpr ⟨location, leads, placed⟩]
      apply (mem_filesIn (isWellNamed_of_at? wellNamed placed)).mpr
      use names, rfl
      apply file

/-- The names that lead to a file of a well-named tree are proper. -/
theorem HasFileAt.isName {tree : FileTree} {before after : List String}
    (file : tree.HasFileAt (before ++ after)) (wellNamed : tree.IsWellNamed) :
  ∀ name ∈ after, Path.IsName name
  := by
  intro name among
  rw [HasFileAt, Option.isSome_iff_exists] at file
  obtain ⟨content, file⟩ := file
  obtain ⟨node, placed, _⟩ := Option.bind_eq_some_iff.mp file
  apply isName_of_at? wellNamed placed name (List.mem_append_right _ among)

end FileTree

/-- A type directory is that of its space, and exists. -/
theorem Settings.mem_typeDirectories {settings : Settings} {files : FileTree} {kind : ItemKind}
    {directory : String} {space : Space} :
  (directory, space) ∈ settings.typeDirectories files kind
    ↔ settings.typeDirectory? kind space = some directory ∧ files.isDirectory directory = true
  := by
  rw [Settings.typeDirectories, List.mem_filterMap]
  constructor
  · rintro ⟨space', _, h⟩
    obtain ⟨path, placed, same⟩ := Option.map_eq_some_iff.mp h
    obtain ⟨rfl, rfl⟩ := Prod.mk.inj same
    apply Option.filter_eq_some_iff.mp placed
  · rintro ⟨placed, isDirectory⟩
    use space, Space.mem_all space
    apply Option.map_eq_some_iff.mpr
    use directory, Option.filter_eq_some_iff.mpr ⟨placed, isDirectory⟩

end Toolshed
