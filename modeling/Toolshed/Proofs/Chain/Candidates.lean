import Toolshed.Chain.Resolution
import Toolshed.Proofs.Files.Names
import Mathlib.Data.List.Basic
import Mathlib.Tactic.Use

/-!
# How candidates are listed

The candidates for a tool are listed one at a time.  An exact path is listed if there is a file, and
a file that is walked to is listed unless a candidate with the same path is there already.
-/

namespace Toolshed.Chain

variable {settings : Settings} {files : FileTree} {item : String}

/-- A candidate has an exact path of the tool in the directory of its space. -/
def IsExact (settings : Settings) (files : FileTree) (item : String) (c : Candidate) : Prop :=
  ∃ directory, (directory, c.space) ∈ settings.typeDirectories files .tool
    ∧ c.path ∈ exactPaths item directory ∧ files.isFile c.path = true

/-- A candidate is found on a walk through the directory of its space. -/
def IsWalked (settings : Settings) (files : FileTree) (item : String) (c : Candidate) : Prop :=
  ∃ directory, (directory, c.space) ∈ settings.typeDirectories files .tool
    ∧ c.path ∈ walkedPaths files item directory

/-- The paths found on a walk lead to the files below the directory that are named for the tool. -/
theorem mem_walkedPaths {directory path : String} (wellNamed : files.IsWellNamed) :
  path ∈ walkedPaths files item directory ↔ ∃ location names,
    files.locate true directory = .ok (.taken location) ∧ files.HasFileAt (location ++ names)
      ∧ (toolNamed? names).any (isKnownAs item) = true ∧ path = Path.joinAll directory names
  := by
  rw [walkedPaths, List.mem_filterMap]
  constructor
  · rintro ⟨names, below, h⟩
    obtain ⟨location, leads, file⟩ := (FileTree.mem_filesBelow wellNamed).mp below
    split at h
    · next known =>
        use location, names, leads, file, known
        apply (Option.some.inj h).symm
    · cases h
  · rintro ⟨location, names, leads, file, known, same⟩
    use names, (FileTree.mem_filesBelow wellNamed).mpr ⟨location, leads, file⟩
    rw [if_pos known, same]

/-- Candidates are listed one at a time. -/
inductive Listed (settings : Settings) (files : FileTree) (item : String) :
    List Candidate → Prop where
  | nil : Listed settings files item []
  | exact {found : List Candidate} {c : Candidate} (listed : Listed settings files item found)
      (isExact : IsExact settings files item c) : Listed settings files item (found ++ [c])
  | walked {found : List Candidate} {c : Candidate} (listed : Listed settings files item found)
      (isWalked : IsWalked settings files item c)
      (new : ∀ other ∈ found, Path.same other.path c.path = false) :
      Listed settings files item (found ++ [c])

namespace Listed

/-- All exact paths with files may be listed together. -/
theorem append {found more : List Candidate} (listed : Listed settings files item found)
    (exact : ∀ c ∈ more, IsExact settings files item c) :
  Listed settings files item (found ++ more)
  := by
  induction more generalizing found with
  | nil =>
      rw [List.append_nil]
      apply listed
  | cons c more ih =>
      obtain ⟨first, rest⟩ := List.forall_mem_cons.mp exact
      rw [List.append_cons]
      apply ih (listed.exact first) rest

theorem addCandidate {found : List Candidate} {c : Candidate}
    (listed : Listed settings files item found) (isWalked : IsWalked settings files item c) :
  Listed settings files item (addCandidate found c)
  := by
  rw [Chain.addCandidate]
  split
  · apply listed
  · next new =>
      apply listed.walked isWalked
      simpa using new

theorem addCandidates {found : List Candidate} {directory : String} {space : Space}
    (listed : Listed settings files item found)
    (among : (directory, space) ∈ settings.typeDirectories files .tool) :
  Listed settings files item (addCandidates files item found (directory, space))
  := by
  rw [Chain.addCandidates]
  apply List.foldlRecOn _ Chain.addCandidate (motive := Listed settings files item)
  · apply listed.append
    intro c h
    obtain ⟨path, named, rfl⟩ := List.mem_map.mp h
    obtain ⟨exact, isFile⟩ := List.mem_filter.mp named
    use directory, among, exact, isFile
  · intro found listed c h
    obtain ⟨path, walked, rfl⟩ := List.mem_map.mp h
    apply listed.addCandidate
    use directory, among, walked

/-- A candidate has an exact path, or it is found on a walk and its path is new. -/
theorem split {before after : List Candidate} {c : Candidate}
    (listed : Listed settings files item (before ++ c :: after)) :
  IsExact settings files item c ∨
    (IsWalked settings files item c ∧ ∀ other ∈ before, Path.same other.path c.path = false)
  := by
  generalize same : before ++ c :: after = found at listed
  induction listed generalizing after with
  | nil => cases List.append_ne_nil_of_right_ne_nil before (List.cons_ne_nil c after) same
  | @exact found last listed isExact ih =>
      rcases List.eq_nil_or_concat' after with rfl | ⟨after, last, rfl⟩
      · left
        obtain ⟨_, h⟩ := List.append_inj' same rfl
        rw [(List.cons.inj h).1]
        apply isExact
      · rw [← List.cons_append, ← List.append_assoc] at same
        apply ih (List.append_inj' same rfl).1
  | @walked found last listed isWalked new ih =>
      rcases List.eq_nil_or_concat' after with rfl | ⟨after, last, rfl⟩
      · right
        obtain ⟨rfl, h⟩ := List.append_inj' same rfl
        rw [(List.cons.inj h).1]
        use isWalked, new
      · rw [← List.cons_append, ← List.append_assoc] at same
        apply ih (List.append_inj' same rfl).1

end Listed

theorem listed_candidates (settings : Settings) (files : FileTree) (item : String) :
  Listed settings files item (candidates settings files item)
  := by
  apply List.foldlRecOn _ (addCandidates files item) (motive := Listed settings files item)
  · apply Listed.nil
  · intro found listed directory among
    apply listed.addCandidates among

/-- A candidate has an exact path, or it is found on a walk. -/
theorem isExact_or_isWalked {c : Candidate} (among : c ∈ candidates settings files item) :
  IsExact settings files item c ∨ IsWalked settings files item c
  := by
  have listed := listed_candidates settings files item
  obtain ⟨before, after, split⟩ := List.append_of_mem among
  rw [split] at listed
  rcases listed.split with exact | ⟨walked, _⟩
  · left
    apply exact
  · right
    apply walked

/-! ### All candidates are listed -/

theorem mem_addCandidate {found : List Candidate} {c : Candidate} (next : Candidate)
    (h : c ∈ found) :
  c ∈ addCandidate found next
  := by
  rw [addCandidate]
  split
  · apply h
  · apply List.mem_append_left _ h

/-- After a candidate is added, its path is listed. -/
theorem exists_mem_addCandidate (found : List Candidate) (c : Candidate) :
  ∃ other ∈ addCandidate found c, Path.same other.path c.path = true
  := by
  rw [addCandidate]
  split
  · next present => apply List.any_eq_true.mp present
  · use c, List.mem_append_right _ (List.mem_singleton_self _)
    simp [Path.same]

theorem mem_foldl_addCandidate {found : List Candidate} {c : Candidate} (more : List Candidate)
    (h : c ∈ found) :
  c ∈ more.foldl addCandidate found
  := by
  apply List.foldlRecOn more addCandidate (motive := fun found => c ∈ found) h
  intro found h next _
  apply mem_addCandidate next h

theorem mem_foldl_addCandidates {found : List Candidate} {c : Candidate}
    (directories : List (String × Space)) (h : c ∈ found) :
  c ∈ directories.foldl (addCandidates files item) found
  := by
  apply List.foldlRecOn directories (addCandidates files item) (motive := fun found => c ∈ found) h
  intro found h directory _
  apply mem_foldl_addCandidate
  apply List.mem_append_left _ h

/-- What is listed for one of the type directories is listed. -/
theorem mem_candidates_of_mem_addCandidates (item : String) {directory : String × Space}
    (among : directory ∈ settings.typeDirectories files .tool) :
  ∃ found, ∀ c ∈ addCandidates files item found directory, c ∈ candidates settings files item
  := by
  obtain ⟨before, after, split⟩ := List.append_of_mem among
  use before.foldl (addCandidates files item) []
  intro c h
  rw [candidates, split, List.foldl_append, List.foldl_cons]
  apply mem_foldl_addCandidates after h

theorem mem_candidates_of_isExact {c : Candidate} (exact : IsExact settings files item c) :
  c ∈ candidates settings files item
  := by
  obtain ⟨directory, among, named, isFile⟩ := exact
  obtain ⟨found, listed⟩ := mem_candidates_of_mem_addCandidates item among
  apply listed
  apply mem_foldl_addCandidate
  apply List.mem_append_right
  apply List.mem_map.mpr
  use c.path, List.mem_filter.mpr ⟨named, isFile⟩

theorem exists_mem_candidates_of_isWalked {c : Candidate}
    (walked : IsWalked settings files item c) :
  ∃ other ∈ candidates settings files item, Path.same other.path c.path = true
  := by
  obtain ⟨directory, among, named⟩ := walked
  obtain ⟨found, listed⟩ := mem_candidates_of_mem_addCandidates item among
  have paths := List.mem_map_of_mem named (f := fun path => Candidate.mk path c.space)
  obtain ⟨before, after, split⟩ := List.append_of_mem paths
  rw [addCandidates, split, List.foldl_append, List.foldl_cons] at listed
  obtain ⟨other, h, same⟩ := exists_mem_addCandidate _ c
  use other, listed other (mem_foldl_addCandidate after h), same

end Toolshed.Chain
