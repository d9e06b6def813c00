import Toolshed.Proofs.Files.Changes
import Mathlib.Data.String.Basic

/-!
# What writing changes

A node is put at a location, or dropped from it, and nothing changes elsewhere.  So files may be
written, touched and removed, and directories made, and only files change.
-/

namespace Toolshed.FileTree

variable {tree : FileTree} {here : List String} {name : String}
  {entries : List (String × FileTree)}

/-! ### Entries -/

theorem child?_cons (other name : String) (node : FileTree) (entries : List (String × FileTree)) :
  child? other ((name, node) :: entries) = if other = name then some node else child? other entries
  := by
  rw [child?, Assoc.get?]
  by_cases same : other = name
  · rw [if_pos same, if_pos same.symm]
  · rw [if_neg same, if_neg (Ne.symm same), child?]

theorem child?_putEntry (name : String) (node : FileTree) (entries : List (String × FileTree))
    (other : String) :
  child? other (putEntry name node entries)
    = if other = name then some node else child? other entries
  := by
  induction entries with
  | nil => apply child?_cons
  | cons entry entries ih =>
      obtain ⟨first, t⟩ := entry
      rw [putEntry]
      split
      · next same =>
          rw [child?_cons, child?_cons, same]
          split
          · rfl
          · rfl
      · next different =>
          split
          · apply child?_cons
          · rw [child?_cons, child?_cons, ih]
            by_cases h : other = first
            · rw [if_pos h, if_pos h, if_neg (h ▸ different)]
            · rw [if_neg h, if_neg h]

theorem child?_filter (name : String) (entries : List (String × FileTree)) (other : String) :
  child? other (entries.filter fun (other, _) => other ≠ name)
    = if other = name then none else child? other entries
  := by
  induction entries with
  | nil =>
      split
      · rfl
      · rfl
  | cons entry entries ih =>
      obtain ⟨first, t⟩ := entry
      rw [List.filter_cons, child?_cons]
      dsimp only
      split
      · next different =>
          rw [decide_eq_true_iff] at different
          rw [child?_cons, ih]
          by_cases h : other = first
          · rw [if_pos h, if_pos h, if_neg (h ▸ different)]
          · rw [if_neg h, if_neg h]
      · next same =>
          rw [decide_eq_true_iff, not_not] at same
          rw [ih, same]
          split
          · rfl
          · rfl

theorem child?_map (name : String) (f : FileTree → FileTree) (entries : List (String × FileTree))
    (other : String) :
  child? other (entries.map fun (other, t) => if other = name then (other, f t) else (other, t))
    = (child? other entries).map fun t => if other = name then f t else t
  := by
  rw [child?, child?, ← Assoc.get?_map fun other t => if other = name then f t else t]
  congr 2
  funext ⟨first, t⟩
  apply (apply_ite (Prod.mk first) _ _ _).symm

/-! ### Changes of a directory -/

/-- Below a directory, a change of its entries is seen. -/
theorem at?_changeAt_append (change : List (String × FileTree) → List (String × FileTree))
    (directory : tree.at? here = some (.directory entries)) (below : List String) :
  (tree.changeAt change here).at? (here ++ below) = at? below (.directory (change entries))
  := by
  induction here generalizing tree with
  | nil =>
      rw [at?, Option.some.injEq] at directory
      rw [directory]
      rfl
  | cons step here ih =>
      rcases tree with ⟨content, modified, isExecutable⟩ | target | above
      · cases directory
      · cases directory
      · rw [at?] at directory
        obtain ⟨child, named, inner⟩ := Option.bind_eq_some_iff.mp directory
        rw [changeAt, List.cons_append, at?, child?_map, named]
        simpa using ih inner

/-- A change of the entries of a directory changes nothing elsewhere, but what the directories above
hold. -/
theorem at?_changeAt_of_not_prefix (change : List (String × FileTree) → List (String × FileTree))
    (directory : tree.at? here = some (.directory entries)) {location : List String}
    (apart : ¬ here <+: location) :
  (tree.changeAt change here).at? location = tree.at? location
    ∨ ∃ before after, tree.at? location = some (.directory before)
      ∧ (tree.changeAt change here).at? location = some (.directory after)
  := by
  induction here generalizing tree location with
  | nil => cases apart List.nil_prefix
  | cons step here ih =>
      rcases tree with ⟨content, modified, isExecutable⟩ | target | above
      · cases directory
      · cases directory
      · rw [at?] at directory
        obtain ⟨child, named, inner⟩ := Option.bind_eq_some_iff.mp directory
        rw [changeAt]
        cases location with
        | nil =>
            right
            exact ⟨_, _, rfl, rfl⟩
        | cons first location =>
            rw [at?, at?, child?_map]
            by_cases same : first = step
            · subst same
              rw [List.prefix_cons_inj] at apart
              simpa [named] using ih inner apart
            · left
              simp [same]

/-! ### What stays of a node -/

/-- A node as far as it stays when only files change. -/
def frame? : FileTree → Option FileTree
  | .file _ _ _ => none
  | .link target => some (.link target)
  | .directory _ => some (.directory [])

/-- What stays of the node at a location. -/
def frameAt? (location : List String) (tree : FileTree) : Option FileTree :=
  (tree.at? location).bind frame?

/-- Nothing stays below a file. -/
theorem frameAt?_of_frame? {node : FileTree} (file : node.frame? = none) (below : List String) :
  node.frameAt? below = none
  := by
  rcases node with ⟨content, modified, isExecutable⟩ | target | entries
  · cases below with
    | nil => rfl
    | cons name below => rfl
  · cases file
  · cases file

theorem frameAt?_cons (name : String) (below : List String)
    (entries : List (String × FileTree)) :
  frameAt? (name :: below) (.directory entries) = (child? name entries).bind (frameAt? below)
  := by
  rw [frameAt?, at?, Option.bind_assoc]
  rfl

theorem frameAt?_eq_directory {location : List String} {below : List (String × FileTree)} :
  tree.frameAt? location = some (.directory below)
    ↔ below = [] ∧ ∃ entries, tree.at? location = some (.directory entries)
  := by
  rw [frameAt?]
  rcases tree.at? location with _ | ⟨content, modified, isExecutable⟩ | target | entries
  · simp
  · simp [frame?]
  · simp [frame?]
  · simp [frame?, eq_comm]

theorem frameAt?_eq_link {location : List String} {target : String} :
  tree.frameAt? location = some (.link target) ↔ tree.at? location = some (.link target)
  := by
  rw [frameAt?]
  rcases tree.at? location with _ | ⟨content, modified, isExecutable⟩ | target | entries
  · simp
  · simp [frame?]
  · simp [frame?]
  · simp [frame?]

/-- Only files change if everything else stays, and directories may come. -/
theorem onlyFilesChange_of_frameAt? {later : FileTree}
    (h : ∀ location, later.frameAt? location = tree.frameAt? location
      ∨ (tree.frameAt? location = none ∧ later.frameAt? location = some (.directory []))) :
  OnlyFilesChange tree later
  := by
  constructor
  · intro location entries directory
    have frame : tree.frameAt? location = some (.directory []) :=
      frameAt?_eq_directory.mpr ⟨rfl, entries, directory⟩
    rcases h location with same | ⟨missing, _⟩
    · rw [frame] at same
      apply (frameAt?_eq_directory.mp same).2
    · rw [frame] at missing
      cases missing
  · intro location target
    rw [← frameAt?_eq_link, ← frameAt?_eq_link]
    rcases h location with same | ⟨missing, new⟩
    · rw [same]
    · rw [missing, new]
      simp

/-- A change of the entries of a directory changes nothing elsewhere. -/
theorem frameAt?_changeAt (change : List (String × FileTree) → List (String × FileTree))
    (directory : tree.at? here = some (.directory entries)) (location : List String) :
  (tree.changeAt change here).frameAt? location = tree.frameAt? location ∨
    ∃ below, location = here ++ below
      ∧ (tree.changeAt change here).frameAt? location = frameAt? below (.directory (change entries))
      ∧ tree.frameAt? location = frameAt? below (.directory entries)
  := by
  by_cases within : here <+: location
  · obtain ⟨below, rfl⟩ := within
    right
    use below, rfl
    constructor
    · rw [frameAt?, at?_changeAt_append change directory]
      rfl
    · rw [frameAt?, at?_append, directory]
      rfl
  · left
    rw [frameAt?, frameAt?]
    rcases at?_changeAt_of_not_prefix change directory within with same | ⟨_, _, old, new⟩
    · rw [same]
    · rw [old, new]
      rfl

/-- Only files change if the entries of one directory do so far as there are files, files may come
in their places, and files and empty directories where there was nothing. -/
theorem onlyFilesChange_changeAt {change : List (String × FileTree) → List (String × FileTree)}
    (directory : tree.at? here = some (.directory entries))
    (h : ∀ name, child? name (change entries) = child? name entries ∨
      ((child? name entries).bind frame? = none
        ∧ ∀ node ∈ child? name (change entries), node.frame? = none ∨ node = empty)) :
  OnlyFilesChange tree (tree.changeAt change here)
  := by
  apply onlyFilesChange_of_frameAt?
  intro location
  rcases frameAt?_changeAt change directory location with same | ⟨below, rfl, now, before⟩
  · left
    apply same
  · rw [now, before]
    rcases below with _ | ⟨name, below⟩
    · left
      rfl
    · rw [frameAt?_cons, frameAt?_cons]
      rcases h name with same | ⟨old, new⟩
      · left
        rw [same]
      · have before : (child? name entries).bind (frameAt? below) = none := by
          rw [Option.bind_eq_none_iff] at old ⊢
          intro node named
          apply frameAt?_of_frame? (old node named)
        rw [before]
        rcases named : child? name (change entries) with _ | node
        · left
          rfl
        · rw [Option.bind_some]
          rcases new node named with file | rfl
          · left
            apply frameAt?_of_frame? file
          · cases below with
            | nil =>
                right
                constructor
                · rfl
                · rfl
            | cons name below =>
                left
                rfl

theorem put_concat (here : List String) (name : String) (node : FileTree) :
  tree.put (here ++ [name]) node = tree.changeAt (putEntry name node) here
  := by
  rw [put, List.getLast?_concat, List.dropLast_concat]

theorem drop_concat (here : List String) (name : String) :
  tree.drop (here ++ [name])
    = tree.changeAt (fun entries => entries.filter fun (other, _) => other ≠ name) here
  := by
  rw [drop, List.getLast?_concat, List.dropLast_concat]

/-- A file or an empty directory is put where there was nothing, or a file. -/
theorem onlyFilesChange_put {node : FileTree}
    (directory : tree.at? here = some (.directory entries))
    (old : tree.frameAt? (here ++ [name]) = none) (new : node.frame? = none ∨ node = empty) :
  OnlyFilesChange tree (tree.put (here ++ [name]) node)
  := by
  rw [put_concat]
  apply onlyFilesChange_changeAt directory
  intro other
  rw [child?_putEntry]
  split
  · next same =>
      right
      rw [frameAt?, at?_concat directory, ← same] at old
      use old
      intro node' named
      rw [← Option.some.inj named]
      apply new
  · left
    rfl

/-- A file is dropped. -/
theorem onlyFilesChange_drop (directory : tree.at? here = some (.directory entries))
    (old : tree.frameAt? (here ++ [name]) = none) :
  OnlyFilesChange tree (tree.drop (here ++ [name]))
  := by
  rw [drop_concat]
  apply onlyFilesChange_changeAt directory
  intro other
  rw [child?_filter]
  split
  · next same =>
      right
      rw [frameAt?, at?_concat directory, ← same] at old
      use old
      intro node named
      cases named
  · left
    rfl

/-! ### Where writing goes -/

/-- A name is free in a directory. -/
structure IsFree (tree : FileTree) (here : List String) (name : String) : Prop where
  directory : ∃ entries, tree.at? here = some (.directory entries)
  vacant : tree.at? (here ++ [name]) = none
  proper : Path.IsName name

/-- A step is not empty, and is no path of several steps. -/
def IsStep (step : String) : Prop :=
  step ≠ "" ∧ '/' ∉ step.toList

theorem isStep_of_mem_steps {path step : String} (among : step ∈ steps path) :
  IsStep step
  := by
  rw [steps] at among
  rcases List.mem_append.mp among with among | last
  · obtain ⟨among, nonempty⟩ := List.mem_filter.mp among
    rw [decide_eq_true_iff] at nonempty
    use nonempty, Path.slash_not_mem_of_mem_parts among
  · split at last
    · rw [List.mem_singleton.mp last]
      constructor
      · decide
      · decide
    · cases last

theorem isFree_of_walk {followLast : Bool}
    {follow : List String → List String → Except FileFault Place}
    (onward : ∀ {there steps}, (∀ step ∈ steps, IsStep step) →
      follow there steps = .ok (.free here name) → tree.IsFree here name)
    {there steps : List String} (proper : ∀ step ∈ steps, IsStep step)
    (leads : tree.walk followLast follow there steps = .ok (.free here name)) :
  tree.IsFree here name
  := by
  induction steps generalizing there with
  | nil => cases leads
  | cons step rest ih =>
      obtain ⟨⟨nonempty, apart⟩, proper⟩ := List.forall_mem_cons.mp proper
      rw [walk] at leads
      split at leads
      · next entries directory =>
          split at leads
          · apply ih proper leads
          · next point =>
              split at leads
              · apply ih proper leads
              · next parent =>
                  split at leads
                  · cases leads
                  · split at leads
                    · next vacant =>
                        split at leads
                        · obtain ⟨rfl, rfl⟩ := Place.free.inj (Except.ok.inj leads)
                          rw [← at?_concat directory] at vacant
                          use ⟨entries, directory⟩, vacant, nonempty, point, parent
                        · cases leads
                    · next target _ =>
                        split at leads
                        · cases leads
                        · apply onward _ leads
                          rw [List.forall_mem_append]
                          constructor
                          · intro step
                            apply isStep_of_mem_steps
                          · apply proper
                    · apply ih proper leads
      · cases leads

theorem isFree_of_locateFrom {followLast : Bool} {links : Nat} {there steps : List String}
    (proper : ∀ step ∈ steps, IsStep step)
    (leads : tree.locateFrom followLast links there steps = .ok (.free here name)) :
  tree.IsFree here name
  := by
  induction links generalizing there steps with
  | zero =>
      apply isFree_of_walk _ proper leads
      intro _ _ _ fails
      cases fails
  | succ links ih => apply isFree_of_walk ih proper leads

/-- A path that leads to a free name leads to one that is free and proper. -/
theorem isFree_of_locate {followLast : Bool} {path : String}
    (leads : tree.locate followLast path = .ok (.free here name)) :
  tree.IsFree here name
  := by
  rw [locate] at leads
  split at leads
  · cases leads
  · split at leads
    · cases leads
    · split at leads
      · cases leads
      · apply isFree_of_locateFrom _ leads
        intro step
        apply isStep_of_mem_steps

/-- Files of a tree are edited: a file is put where there is nothing or over a file, or it is
dropped, or an empty directory is put where there is nothing. -/
inductive EditsFiles (tree : FileTree) : FileTree → Prop where
  | nothing : EditsFiles tree tree
  | create {here : List String} {name : String} (content : ByteArray) (modified : Int)
      (isExecutable : Bool) (free : tree.IsFree here name) :
      EditsFiles tree (tree.put (here ++ [name]) (.file content modified isExecutable))
  | rewrite {location : List String} (content : ByteArray) (modified : Int) (isExecutable : Bool)
      (file : tree.HasFileAt location) :
      EditsFiles tree (tree.put location (.file content modified isExecutable))
  | remove {location : List String} (file : tree.HasFileAt location) :
      EditsFiles tree (tree.drop location)
  | makeDirectory {here : List String} {name : String} (free : tree.IsFree here name) :
      EditsFiles tree (tree.put (here ++ [name]) empty)

theorem frameAt?_of_isFree (free : tree.IsFree here name) :
  tree.frameAt? (here ++ [name]) = none
  := by
  rw [frameAt?, free.vacant]
  rfl

theorem frameAt?_of_hasFileAt {location : List String} (file : tree.HasFileAt location) :
  tree.frameAt? location = none
  := by
  obtain ⟨content, modified, isExecutable, placed⟩ := hasFileAt_iff.mp file
  rw [frameAt?, placed]
  rfl

/-- A location with a file is the whole tree, or it is in a directory. -/
theorem HasFileAt.cases {location : List String} (file : tree.HasFileAt location) :
  (location = [] ∧ tree.frame? = none) ∨
    ∃ here name entries, location = here ++ [name] ∧ tree.at? here = some (.directory entries)
  := by
  rcases List.eq_nil_or_concat' location with rfl | ⟨here, name, rfl⟩
  · left
    use rfl
    apply frameAt?_of_hasFileAt file
  · right
    obtain ⟨content, modified, isExecutable, placed⟩ := hasFileAt_iff.mp file
    obtain ⟨entries, directory⟩ := exists_directory_of_at? (List.cons_ne_nil _ _) placed
    use here, name, entries

namespace EditsFiles

variable {later : FileTree}

theorem onlyFilesChange (edits : EditsFiles tree later) :
  OnlyFilesChange tree later
  := by
  cases edits with
  | nothing => apply OnlyFilesChange.refl
  | create content modified isExecutable free =>
      obtain ⟨entries, directory⟩ := free.directory
      apply onlyFilesChange_put directory (frameAt?_of_isFree free)
      left
      rfl
  | rewrite content modified isExecutable file =>
      have old := frameAt?_of_hasFileAt file
      rcases file.cases with ⟨rfl, whole⟩ | ⟨here, name, entries, rfl, directory⟩
      · apply onlyFilesChange_of_frameAt?
        intro location
        left
        rw [frameAt?_of_frame? whole]
        apply frameAt?_of_frame?
        rfl
      · apply onlyFilesChange_put directory old
        left
        rfl
  | remove file =>
      have old := frameAt?_of_hasFileAt file
      rcases file.cases with ⟨rfl, _⟩ | ⟨here, name, entries, rfl, directory⟩
      · apply OnlyFilesChange.refl
      · apply onlyFilesChange_drop directory old
  | makeDirectory free =>
      obtain ⟨entries, directory⟩ := free.directory
      apply onlyFilesChange_put directory (frameAt?_of_isFree free)
      right
      rfl

end EditsFiles

/-! ### Names stay proper -/

theorem mem_nodesIn_iff {node : FileTree} {entries : List (String × FileTree)} :
  node ∈ nodesIn entries ↔ ∃ entry ∈ entries, node ∈ entry.2.nodes
  := by
  induction entries with
  | nil =>
      rw [nodesIn]
      simp
  | cons entry entries ih =>
      rw [nodesIn, List.mem_append, ih]
      simp

theorem isWellNamed_directory_iff {entries : List (String × FileTree)} :
  IsWellNamed (.directory entries)
    ↔ HasProperNames (.directory entries) ∧ ∀ entry ∈ entries, entry.2.IsWellNamed
  := by
  rw [isWellNamed_directory]
  constructor
  · rintro ⟨proper, within⟩
    use proper
    intro entry among node below
    apply within node (mem_nodesIn_iff.mpr ⟨entry, among, below⟩)
  · rintro ⟨proper, within⟩
    use proper
    intro node among
    obtain ⟨entry, among, below⟩ := mem_nodesIn_iff.mp among
    apply within entry among node below

theorem mem_putEntry {node : FileTree} {entry : String × FileTree}
    (h : entry ∈ putEntry name node entries) :
  entry = (name, node) ∨ entry ∈ entries
  := by
  induction entries with
  | nil =>
      left
      apply List.mem_singleton.mp h
  | cons first entries ih =>
      rw [putEntry] at h
      split at h
      · rcases List.mem_cons.mp h with rfl | h
        · left
          rfl
        · right
          apply List.mem_cons_of_mem _ h
      · split at h
        · apply List.mem_cons.mp h
        · rcases List.mem_cons.mp h with rfl | h
          · right
            apply List.mem_cons_self
          · rcases ih h with rfl | h
            · left
              rfl
            · right
              apply List.mem_cons_of_mem _ h

/-- Entries stay in the order of their names. -/
theorem ordered_putEntry (node : FileTree)
    (ordered : entries.Pairwise fun first second => first.1 < second.1) :
  (putEntry name node entries).Pairwise fun first second => first.1 < second.1
  := by
  induction entries with
  | nil => apply List.pairwise_singleton
  | cons entry entries ih =>
      obtain ⟨first, rest⟩ := List.pairwise_cons.mp ordered
      rw [putEntry]
      split
      · next same =>
          rw [List.pairwise_cons, ← same]
          use first, rest
      · next different =>
          split
          · next less =>
              rw [List.pairwise_cons, List.forall_mem_cons]
              refine ⟨⟨less, ?_⟩, ordered⟩
              intro other among
              apply lt_trans less (first other among)
          · next notLess =>
              rw [List.pairwise_cons]
              use ?_, ih rest
              intro other among
              rcases mem_putEntry among with rfl | among
              · apply lt_of_le_of_ne (not_lt.mp notLess) different
              · apply first other among

theorem isWellNamed_putEntry {node : FileTree} (proper : Path.IsName name)
    (wellNamed : node.IsWellNamed) (h : IsWellNamed (.directory entries)) :
  IsWellNamed (.directory (putEntry name node entries))
  := by
  rw [isWellNamed_directory_iff, HasProperNames, Assoc.keys, List.pairwise_map] at h ⊢
  obtain ⟨⟨ordered, names⟩, within⟩ := h
  use ⟨ordered_putEntry node ordered, ?_⟩
  · intro entry among
    rcases mem_putEntry among with rfl | among
    · apply wellNamed
    · apply within entry among
  · rw [List.forall_mem_map] at names ⊢
    intro entry among
    rcases mem_putEntry among with rfl | among
    · apply proper
    · apply names entry among

theorem isWellNamed_filter (keep : String × FileTree → Bool)
    (h : IsWellNamed (.directory entries)) :
  IsWellNamed (.directory (entries.filter keep))
  := by
  rw [isWellNamed_directory_iff, HasProperNames, Assoc.keys, List.pairwise_map,
    List.forall_mem_map] at h ⊢
  obtain ⟨⟨ordered, names⟩, within⟩ := h
  refine ⟨⟨ordered.filter keep, ?_⟩, ?_⟩
  · intro entry among
    apply names entry (List.mem_of_mem_filter among)
  · intro entry among
    apply within entry (List.mem_of_mem_filter among)

/-- A change of the entries of a directory that keeps their names proper keeps all names proper. -/
theorem isWellNamed_changeAt {change : List (String × FileTree) → List (String × FileTree)}
    (keeps : ∀ entries, IsWellNamed (.directory entries) →
      IsWellNamed (.directory (change entries)))
    (wellNamed : tree.IsWellNamed) (here : List String) :
  (tree.changeAt change here).IsWellNamed
  := by
  induction here generalizing tree with
  | nil =>
      rcases tree with ⟨content, modified, isExecutable⟩ | target | entries
      · apply wellNamed
      · apply wellNamed
      · apply keeps entries wellNamed
  | cons step here ih =>
      rcases tree with ⟨content, modified, isExecutable⟩ | target | entries
      · apply wellNamed
      · apply wellNamed
      · have keys : Assoc.keys (entries.map fun (other, t) =>
            if other = step then (other, changeAt change here t) else (other, t))
              = Assoc.keys entries := by
          rw [Assoc.keys, Assoc.keys, List.map_map]
          congr 1
          funext ⟨other, t⟩
          rw [Function.comp_apply]
          dsimp only
          split
          · rfl
          · rfl
        rw [isWellNamed_directory_iff] at wellNamed
        rw [changeAt, isWellNamed_directory_iff, HasProperNames, keys]
        use wellNamed.1
        intro entry among
        obtain ⟨⟨other, t⟩, before, rfl⟩ := List.mem_map.mp among
        have old := wellNamed.2 _ before
        dsimp only
        split
        · apply ih old
        · apply old

theorem isWellNamed_put {node : FileTree} (wellNamed : tree.IsWellNamed)
    (proper : Path.IsName name) (node' : node.IsWellNamed) :
  (tree.put (here ++ [name]) node).IsWellNamed
  := by
  rw [put_concat]
  apply isWellNamed_changeAt _ wellNamed
  intro entries
  apply isWellNamed_putEntry proper node'

theorem isWellNamed_file (content : ByteArray) (modified : Int) (isExecutable : Bool) :
  IsWellNamed (.file content modified isExecutable)
  := by
  intro node among
  rw [List.mem_singleton.mp among]
  trivial

namespace EditsFiles

variable {later : FileTree}

/-- While files are edited, names stay proper. -/
theorem isWellNamed (edits : EditsFiles tree later) (wellNamed : tree.IsWellNamed) :
  later.IsWellNamed
  := by
  cases edits with
  | nothing => apply wellNamed
  | create content modified isExecutable free =>
      apply isWellNamed_put wellNamed free.proper
      apply isWellNamed_file
  | rewrite content modified isExecutable file =>
      rcases file.cases with ⟨rfl, _⟩ | ⟨here, name, entries, rfl, _⟩
      · apply isWellNamed_file
      · apply isWellNamed_put wellNamed
        · apply file.isName wellNamed name (List.mem_singleton_self _)
        · apply isWellNamed_file
  | remove file =>
      rcases file.cases with ⟨rfl, _⟩ | ⟨here, name, entries, rfl, _⟩
      · apply wellNamed
      · rw [drop_concat]
        apply isWellNamed_changeAt _ wellNamed
        intro entries
        apply isWellNamed_filter
  | makeDirectory free =>
      apply isWellNamed_put wellNamed free.proper
      decide

end EditsFiles

/-! ### What writing does -/

section

variable {later : FileTree} {path : String}

theorem editsFiles_of_write {content : ByteArray} {modified : Int} {makeExecutable : Bool}
    (h : tree.write path content modified makeExecutable = .ok later) :
  EditsFiles tree later
  := by
  rw [write] at h
  rcases leads : tree.locate true path with fault | location | ⟨here, name⟩
  · rw [leads] at h
    cases h
  · simp only [leads, bind, Except.bind] at h
    split at h
    · next content' modified' isExecutable placed =>
        rw [← Except.ok.inj h]
        apply EditsFiles.rewrite
        apply hasFileAt_iff.mpr
        use content', modified', isExecutable
    · cases h
  · simp only [leads, bind, Except.bind] at h
    rw [← Except.ok.inj h]
    apply EditsFiles.create content modified makeExecutable (isFree_of_locate leads)

theorem editsFiles_of_touch {modified : Int} (h : tree.touch path modified = .ok later) :
  EditsFiles tree later
  := by
  rw [touch] at h
  rcases leads : tree.location path with fault | location
  · rw [leads] at h
    cases h
  · simp only [leads, bind, Except.bind] at h
    split at h
    · next content modified' isExecutable placed =>
        rw [← Except.ok.inj h]
        apply EditsFiles.rewrite
        apply hasFileAt_iff.mpr
        use content, modified', isExecutable
    · rw [← Except.ok.inj h]
      apply EditsFiles.nothing

theorem editsFiles_of_makeDirectory (h : tree.makeDirectory path = .ok later) :
  EditsFiles tree later
  := by
  rw [makeDirectory] at h
  rcases leads : tree.locate false path with fault | location | ⟨here, name⟩
  · rw [leads] at h
    cases h
  · simp only [leads, bind, Except.bind] at h
    cases h
  · simp only [leads, bind, Except.bind] at h
    rw [← Except.ok.inj h]
    apply EditsFiles.makeDirectory (isFree_of_locate leads)

theorem editsFiles_of_removeFile (h : tree.removeFile path = .ok later)
    (file : ∀ location, tree.locate false path = .ok (.taken location) → tree.HasFileAt location) :
  EditsFiles tree later
  := by
  rw [removeFile] at h
  rcases leads : tree.locate false path with fault | location | ⟨here, name⟩
  · rw [leads] at h
    cases h
  · simp only [leads, bind, Except.bind] at h
    split at h
    · cases h
    · rw [← Except.ok.inj h]
      apply EditsFiles.remove (file location leads)
  · simp only [leads, bind, Except.bind] at h
    cases h

end

end Toolshed.FileTree
