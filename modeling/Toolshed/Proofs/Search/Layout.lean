import Toolshed.Proofs.Files.Links
import Toolshed.Search.Engine

/-!
# Where a search looks

A search goes through the files below the type directories of the spaces it covers, links followed.
Where no path is that of files in two spaces, a path says for which items its file is searched, and
in which space.
-/

namespace Toolshed

/-! ### Kinds and spaces -/

instance {p : ItemKind → Prop} [DecidablePred p] : Decidable (∀ kind, p kind) :=
  decidable_of_iff (p .directive ∧ p .tool ∧ p .knowledge)
    ⟨fun ⟨directive, tool, knowledge⟩ kind => by
      cases kind with
      | directive => apply directive
      | tool => apply tool
      | knowledge => apply knowledge,
    fun h => ⟨h .directive, h .tool, h .knowledge⟩⟩

theorem ItemKind.directory_injective :
  ∀ kind kind' : ItemKind, kind.directory = kind'.directory → kind = kind'
  := by
  decide

instance {p : Space → Prop} [DecidablePred p] : Decidable (∀ space, p space) :=
  decidable_of_iff (∀ space ∈ Space.all, p space)
    ⟨fun h space => h space (Space.mem_all space), fun h space _ => h space⟩

namespace Search

variable {s : Settings} {files : FileTree} {kind : ItemKind} {source : Source}

/-! ### Candidates -/

theorem Candidate.eq_of_path_space {c c' : Candidate} (path : c.path = c'.path)
    (space : c.space = c'.space) :
  c = c'
  := by
  cases c
  cases c'
  cases path
  cases space
  rfl

/-- A file is searched: it lies below the directory of a space that is covered, and its name does
not start with an underscore. -/
inductive IsCandidate (s : Settings) (files : FileTree) (kind : ItemKind) (source : Source) :
    Candidate → Prop where
  | below {space : Space} {directory : String} {location names : List String}
      (covered : source.includes space = true)
      (placed : s.typeDirectory? kind space = some directory)
      (here : files.locate true directory = .ok (.taken location))
      (leads : files.LeadsToFile [] location names)
      (plain : (names.getLast?.getD "").toList.head? ≠ some '_') :
      IsCandidate s files kind source ⟨Path.joinAll directory names, space⟩

theorem IsCandidate.includes {c : Candidate} (candidate : IsCandidate s files kind source c) :
  source.includes c.space = true
  := by
  cases candidate with
  | below covered => apply covered

/-- A search goes through the files of its candidates. -/
theorem mem_candidates {c : Candidate} :
  c ∈ candidates s files kind source ↔ IsCandidate s files kind source c
  := by
  rw [candidates, List.mem_flatMap]
  constructor
  · rintro ⟨⟨directory, space⟩, among, listed⟩
    obtain ⟨among, covered⟩ := List.mem_filter.mp among
    obtain ⟨names, among', rfl⟩ := List.mem_map.mp listed
    obtain ⟨below, plain⟩ := List.mem_filter.mp among'
    obtain ⟨location, here, leads⟩ := FileTree.mem_filesBelowThroughLinks.mp below
    apply IsCandidate.below covered (Settings.mem_typeDirectories.mp among).1 here leads
      (of_decide_eq_true plain)
  · intro candidate
    cases candidate with
    | @below space directory location names covered placed here leads plain =>
        use (directory, space)
        constructor
        · apply List.mem_filter.mpr
          constructor
          · obtain ⟨entries, found⟩ := leads.exists_directory
            apply Settings.mem_typeDirectories.mpr
            use placed, FileTree.isDirectory_iff.mpr ⟨location, entries, here, found⟩
          · apply covered
        · apply List.mem_map.mpr
          use names
          constructor
          · apply List.mem_filter.mpr
            constructor
            · apply FileTree.mem_filesBelowThroughLinks.mpr
              use location, here, leads
            · apply decide_eq_true plain
          · rfl

/-! ### Spaces apart -/

/-- The paths of the files below the directory of a space for the items of a kind. -/
def pathsBelow (s : Settings) (files : FileTree) (kind : ItemKind) (space : Space) : List String :=
  match s.typeDirectory? kind space with
  | some directory => (files.filesBelowThroughLinks directory).map (Path.joinAll directory)
  | none => []

/-- In some trees, no path is that of files in the type directories of two spaces. -/
def SpacesApart (s : Settings) (trees : List FileTree) : Prop :=
  ∀ files ∈ trees, ∀ other ∈ trees, ∀ kind kind' space space',
    ∀ path ∈ pathsBelow s files kind space, path ∈ pathsBelow s other kind' space' →
      space = space'

instance (s : Settings) (trees : List FileTree) : Decidable (SpacesApart s trees) :=
  inferInstanceAs (Decidable (∀ files ∈ trees, _))

theorem mem_pathsBelow {space : Space} {directory : String} {names : List String}
    (placed : s.typeDirectory? kind space = some directory)
    (below : names ∈ files.filesBelowThroughLinks directory) :
  Path.joinAll directory names ∈ pathsBelow s files kind space
  := by
  rw [pathsBelow, placed]
  apply List.mem_map_of_mem below

theorem IsCandidate.mem_pathsBelow {c : Candidate}
    (candidate : IsCandidate s files kind source c) :
  c.path ∈ pathsBelow s files kind c.space
  := by
  cases candidate with
  | below covered placed here leads plain =>
      apply Search.mem_pathsBelow placed
      apply FileTree.mem_filesBelowThroughLinks.mpr ⟨_, here, leads⟩

/-- The names of a path in a type directory are those of the root, the directory and the file. -/
theorem names_joinAll_typeDirectory {root : String} {names : List String}
    (proper : ∀ name ∈ names, Path.IsName name) :
  Path.names (Path.joinAll (Path.join root kind.directory) names)
    = Path.names root ++ kind.directory :: names
  := by
  have relative : Path.isAbsolute kind.directory = false := by
    cases kind with
    | directive => decide
    | tool => decide
    | knowledge => decide
  have alone : Path.names kind.directory = [kind.directory] := by
    cases kind with
    | directive => decide +kernel
    | tool => decide +kernel
    | knowledge => decide +kernel
  rw [Path.names_joinAll _ proper, Path.names_join root relative, alone, List.append_assoc]
  rfl

/-- Where spaces are apart, the path of a file tells the items for which it is searched, and its
space. -/
theorem SpacesApart.eq {trees : List FileTree} (apart : SpacesApart s trees)
    (wellNamed : ∀ files ∈ trees, files.IsWellNamed) {other : FileTree} (hf : files ∈ trees)
    (ho : other ∈ trees) {kind' : ItemKind} {source' : Source} {c c' : Candidate}
    (candidate : IsCandidate s files kind source c)
    (candidate' : IsCandidate s other kind' source' c') (same : c.path = c'.path) :
  kind = kind' ∧ c = c'
  := by
  have spaces : c.space = c'.space := by
    apply apart files hf other ho _ _ _ _ _ candidate.mem_pathsBelow
    rw [same]
    apply candidate'.mem_pathsBelow
  have whole : c = c' := Candidate.eq_of_path_space same spaces
  cases candidate with
  | below covered placed here leads plain =>
      cases candidate' with
      | below covered' placed' here' leads' plain' =>
          cases spaces
          obtain ⟨root, rooted, rfl⟩ := Option.map_eq_some_iff.mp placed
          obtain ⟨root', rooted', rfl⟩ := Option.map_eq_some_iff.mp placed'
          cases rooted.symm.trans rooted'
          have split := congrArg Path.names same
          rw [names_joinAll_typeDirectory (leads.isName (wellNamed files hf)),
            names_joinAll_typeDirectory (leads'.isName (wellNamed other ho))] at split
          have directories := (List.cons.inj (List.append_cancel_left split)).1
          use ItemKind.directory_injective _ _ directories, whole

/-- Spaces have one directory each for the items of a kind. -/
theorem pairwise_typeDirectories :
  (s.typeDirectories files kind).Pairwise fun a b => a.2 ≠ b.2
  := by
  rw [Settings.typeDirectories, List.pairwise_filterMap]
  have distinct : Space.all.Pairwise (· ≠ ·) := by decide
  apply distinct.imp
  intro space space' differ a ha b hb
  obtain ⟨_, _, rfl⟩ := Option.map_eq_some_iff.mp ha
  obtain ⟨_, _, rfl⟩ := Option.map_eq_some_iff.mp hb
  apply differ

/-- Below a directory, proper names make different paths. -/
theorem joinAll_injective {directory : String} {names names' : List String}
    (proper : ∀ name ∈ names, Path.IsName name) (proper' : ∀ name ∈ names', Path.IsName name)
    (same : Path.joinAll directory names = Path.joinAll directory names') :
  names = names'
  := by
  have split := congrArg Path.names same
  rw [Path.names_joinAll _ proper, Path.names_joinAll _ proper'] at split
  apply List.append_cancel_left split

/-- Where spaces are apart, no file is searched twice. -/
theorem SpacesApart.nodup_candidates (apart : SpacesApart s [files])
    (wellNamed : files.IsWellNamed) (kind : ItemKind) (source : Source) :
  ((candidates s files kind source).map Candidate.path).Nodup
  := by
  rw [candidates, List.map_flatMap, List.nodup_flatMap]
  constructor
  · rintro ⟨directory, space⟩ _
    rw [List.map_map]
    apply List.Nodup.map_on
    · intro names among names' among' same
      obtain ⟨_, _, leads⟩ :=
        FileTree.mem_filesBelowThroughLinks.mp (List.mem_filter.mp among).1
      obtain ⟨_, _, leads'⟩ :=
        FileTree.mem_filesBelowThroughLinks.mp (List.mem_filter.mp among').1
      apply joinAll_injective (leads.isName wellNamed) (leads'.isName wellNamed) same
    · apply (FileTree.nodup_filesBelowThroughLinks wellNamed directory).filter
  · apply (pairwise_typeDirectories.filter _).imp_of_mem
    rintro ⟨directory, space⟩ ⟨directory', space'⟩ among among' differ _ listed listed'
    simp only [List.mem_map, List.mem_filter] at among among' listed listed'
    obtain ⟨_, ⟨names, ⟨below, _⟩, rfl⟩, rfl⟩ := listed
    obtain ⟨_, ⟨names', ⟨below', _⟩, rfl⟩, same⟩ := listed'
    have placed := (Settings.mem_typeDirectories.mp among.1).1
    have placed' := (Settings.mem_typeDirectories.mp among'.1).1
    apply differ
    have path := mem_pathsBelow placed' below'
    rw [show Path.joinAll directory' names' = Path.joinAll directory names from same] at path
    apply apart files (List.mem_singleton_self _) files (List.mem_singleton_self _) kind kind _ _ _
      (mem_pathsBelow placed below) path

end Search

end Toolshed
