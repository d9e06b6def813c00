import Toolshed.Proofs.Files.Changes

/-!
# Where steps lead

From a location, names lead down through the directories that are there.  Where a name is missing,
the last step is free and any other one is an error.  So the place to which a path below a directory
leads is known from the place of the directory.
-/

namespace Toolshed.FileTree

variable {tree : FileTree} {followLast : Bool}
  {follow : List String → List String → Except FileFault Place}
  {here below rest location : List String} {name : String} {entries : List (String × FileTree)}

/-! ### Steps down -/

/-- A name by which a step goes down. -/
structure IsEntryName (name : String) : Prop extends Path.IsName name where
  short : name.utf8ByteSize ≤ maxNameLength

instance (name : String) : Decidable (IsEntryName name) :=
  decidable_of_iff (Path.IsName name ∧ name.utf8ByteSize ≤ maxNameLength)
    ⟨fun ⟨h, h'⟩ => ⟨h, h'⟩, fun ⟨h, h'⟩ => ⟨h, h'⟩⟩

theorem walk_cons_of_isEntryName (directory : tree.at? here = some (.directory entries))
    (proper : IsEntryName name) (rest : List String) :
  tree.walk followLast follow here (name :: rest) = match tree.at? (here ++ [name]) with
    | none => if rest.isEmpty then .ok (.free here name) else .error .notFound
    | some (.link target) =>
      if rest.isEmpty && !followLast then .ok (.taken (here ++ [name]))
      else follow (if Path.isAbsolute target then [] else here) (steps target ++ rest)
    | some _ => tree.walk followLast follow (here ++ [name]) rest
  := by
  rw [walk, directory, at?_concat directory]
  apply (if_neg proper.not_point).trans
  apply (if_neg proper.not_parent).trans
  apply if_neg (Nat.not_lt_of_le proper.short)

/-- The last step to a name that is missing leads to a free name. -/
theorem walk_vacant (directory : tree.at? here = some (.directory entries))
    (proper : IsEntryName name) (vacant : tree.at? (here ++ [name]) = none) :
  tree.walk followLast follow here [name] = .ok (.free here name)
  := by
  rw [walk_cons_of_isEntryName directory proper, vacant]
  rfl

/-- A step goes on to a node that is not a link. -/
theorem walk_onto {node : FileTree} (directory : tree.at? here = some (.directory entries))
    (proper : IsEntryName name) (found : tree.at? (here ++ [name]) = some node)
    (plain : ∀ target, node ≠ .link target) (rest : List String) :
  tree.walk followLast follow here (name :: rest)
    = tree.walk followLast follow (here ++ [name]) rest
  := by
  rw [walk_cons_of_isEntryName directory proper, found]
  rcases node with ⟨content, modified, isExecutable⟩ | target | entries
  · rfl
  · cases plain target rfl
  · rfl

/-- Names lead down to a directory. -/
theorem walk_down (proper : ∀ name ∈ below, IsEntryName name)
    (directory : tree.at? (here ++ below) = some (.directory entries)) (rest : List String) :
  tree.walk followLast follow here (below ++ rest)
    = tree.walk followLast follow (here ++ below) rest
  := by
  induction below generalizing here with
  | nil => rw [List.append_nil, List.nil_append]
  | cons name below ih =>
      obtain ⟨first, others⟩ := List.forall_mem_cons.mp proper
      obtain ⟨above, outer⟩ := exists_directory_of_at? (List.cons_ne_nil name below) directory
      rw [List.append_cons] at directory ⊢
      have next : ∃ inner, tree.at? (here ++ [name]) = some (.directory inner) := by
        by_cases last : below = []
        · use entries
          rw [last, List.append_nil] at directory
          apply directory
        · apply exists_directory_of_at? last directory
      obtain ⟨inner, found⟩ := next
      rw [List.cons_append, walk_onto outer first found (by simp), ih others directory]

/-- Nothing but directories is at the names that lead down from a location, so far as there is
anything. -/
def IsClear (tree : FileTree) (here below : List String) : Prop :=
  ∀ way, way <+: below → ∀ node, tree.at? (here ++ way) = some node →
    ∃ entries, node = .directory entries

theorem IsClear.of_prefix {below' : List String} (clear : tree.IsClear here below)
    (within : below' <+: below) :
  tree.IsClear here below'
  := by
  intro way h
  apply clear way (h.trans within)

theorem IsClear.tail (clear : tree.IsClear here (name :: below)) :
  tree.IsClear (here ++ [name]) below
  := by
  intro way within
  rw [List.append_assoc]
  apply clear
  simpa using within

/-- Steps do not go on from where there is nothing. -/
theorem walk_missing (directory : tree.at? here = some (.directory entries))
    (proper : ∀ name ∈ below, IsEntryName name) (clear : tree.IsClear here below)
    (missing : tree.at? (here ++ below) = none) (nonempty : rest ≠ []) :
  tree.walk followLast follow here (below ++ rest) = .error .notFound
  := by
  induction below generalizing here entries with
  | nil =>
      rw [List.append_nil, directory] at missing
      cases missing
  | cons name below ih =>
      obtain ⟨first, others⟩ := List.forall_mem_cons.mp proper
      rw [List.append_cons] at missing
      rcases found : tree.at? (here ++ [name]) with _ | node
      · rw [List.cons_append, walk_cons_of_isEntryName directory first, found]
        apply if_neg
        simp [nonempty]
      · obtain ⟨inner, rfl⟩ := clear [name] (by simp) node found
        rw [List.cons_append, walk_onto directory first found (by simp)]
        apply ih found others clear.tail missing

/-! ### More steps -/

/-- The place to which steps lead is found by walking, with a way to follow links. -/
theorem exists_locateFrom_eq (tree : FileTree) (followLast : Bool) (links : Nat) :
  ∃ follow, tree.locateFrom followLast links = tree.walk followLast follow
  := by
  cases links with
  | zero =>
      use fun _ _ => .error .tooManyLinks
      rfl
  | succ links =>
      use tree.locateFrom followLast links
      rfl

/-- A step that is not the last one goes on in the same way, whether a last link is followed or
not. -/
theorem Goes.walk_cons_of_ne_nil {step : String} {onward : Onward}
    (goes : Goes tree here step onward) (nonempty : rest ≠ []) :
  tree.walk followLast follow here (step :: rest) = match onward with
    | .walk there => tree.walk followLast follow there rest
    | .follow there target => follow there (target ++ rest)
  := by
  rw [goes.walk_eq]
  cases onward with
  | walk there => rfl
  | follow there target =>
      apply if_neg
      simp [nonempty]

/-- More steps after those that lead somewhere go on from there, if that is so after a link. -/
theorem walk_append_of_ne_nil
    {followOn : List String → List String → Except FileFault Place}
    (self : ∃ links, tree.walk followLast followOn = tree.locateFrom followLast links)
    (onward : ∀ {here steps}, follow here steps = .ok (.taken location) →
      ∃ links, ∀ after, after ≠ [] →
        followOn here (steps ++ after) = tree.locateFrom followLast links location after)
    {steps : List String} (leads : tree.walk true follow here steps = .ok (.taken location)) :
  ∃ links, ∀ after, after ≠ [] → tree.walk followLast followOn here (steps ++ after)
    = tree.locateFrom followLast links location after
  := by
  induction steps generalizing here with
  | nil =>
      obtain ⟨links, same⟩ := self
      obtain rfl := Place.taken.inj (Except.ok.inj leads)
      use links
      intro after _
      rw [List.nil_append, same]
  | cons step steps ih =>
      obtain ⟨there | ⟨there, target⟩, goes, leads⟩ := exists_goes leads
      · obtain ⟨links, same⟩ := ih leads
        use links
        intro after nonempty
        rw [List.cons_append,
          goes.walk_cons_of_ne_nil (List.append_ne_nil_of_right_ne_nil _ nonempty)]
        apply same after nonempty
      · obtain ⟨links, same⟩ := onward leads
        use links
        intro after nonempty
        rw [List.cons_append,
          goes.walk_cons_of_ne_nil (List.append_ne_nil_of_right_ne_nil _ nonempty)]
        rw [← same after nonempty, List.append_assoc]

theorem locateFrom_append_of_ne_nil {links : Nat} {steps : List String}
    (leads : tree.locateFrom true links here steps = .ok (.taken location)) (followLast : Bool) :
  ∃ links', ∀ after, after ≠ [] → tree.locateFrom followLast links here (steps ++ after)
    = tree.locateFrom followLast links' location after
  := by
  induction links generalizing here steps with
  | zero =>
      apply walk_append_of_ne_nil ⟨0, rfl⟩ _ leads
      intro _ _ fails
      cases fails
  | succ links ih => apply walk_append_of_ne_nil ⟨links + 1, rfl⟩ ih leads

/-- A last step that goes somewhere leads there, or to the link if that is not followed. -/
theorem Goes.exists_taken {step : String} {onward : Onward} (goes : Goes tree here step onward)
    (follow : List String → List String → Except FileFault Place) :
  ∃ location, tree.walk false follow here [step] = .ok (.taken location)
  := by
  rw [goes.walk_eq]
  cases onward with
  | walk there =>
      use there
      rfl
  | follow there target =>
      use here ++ [step]
      rfl

/-- Steps that lead somewhere do so too if a last link is not followed. -/
theorem exists_taken_of_walk {followOn : List String → List String → Except FileFault Place}
    (onward : ∀ {here steps}, follow here steps = .ok (.taken location) →
      ∃ location', followOn here steps = .ok (.taken location'))
    {steps : List String} (leads : tree.walk true follow here steps = .ok (.taken location)) :
  ∃ location', tree.walk false followOn here steps = .ok (.taken location')
  := by
  induction steps generalizing here with
  | nil =>
      use here
      rfl
  | cons step steps ih =>
      obtain ⟨next, goes, leads⟩ := exists_goes leads
      by_cases last : steps = []
      · rw [last]
        apply goes.exists_taken
      · rw [goes.walk_cons_of_ne_nil last]
        cases next with
        | walk there => apply ih leads
        | follow there target => apply onward leads

theorem exists_taken_of_locateFrom {links : Nat} {steps : List String}
    (leads : tree.locateFrom true links here steps = .ok (.taken location)) :
  ∃ location', tree.locateFrom false links here steps = .ok (.taken location')
  := by
  induction links generalizing here steps with
  | zero =>
      apply exists_taken_of_walk _ leads
      intro _ _ fails
      cases fails
  | succ links ih => apply exists_taken_of_walk ih leads

/-! ### Points among the steps to a directory -/

/-- Steps that lead to a directory start from one. -/
theorem exists_directory_of_walk {steps : List String}
    (leads : tree.walk true follow here steps = .ok (.taken location))
    (directory : tree.at? location = some (.directory entries)) :
  ∃ entries, tree.at? here = some (.directory entries)
  := by
  cases steps with
  | nil =>
      use entries
      rw [Place.taken.inj (Except.ok.inj leads), directory]
  | cons step steps =>
      obtain ⟨_, goes, _⟩ := exists_goes leads
      cases goes with
      | point directory _ => exact ⟨_, directory⟩
      | parent directory _ => exact ⟨_, directory⟩
      | link directory _ _ => exact ⟨_, directory⟩
      | child directory _ _ _ => exact ⟨_, directory⟩

namespace Undots

variable {steps fewer : List String}

/-- Where steps without points lead to a directory, those with them do, if that is so after a
link. -/
theorem walk_back {followOn : List String → List String → Except FileFault Place}
    (onward : ∀ {here steps fewer}, Undots steps fewer →
      follow here fewer = .ok (.taken location) → followOn here steps = .ok (.taken location))
    (directory : tree.at? location = some (.directory entries)) (h : Undots steps fewer)
    (leads : tree.walk true follow here fewer = .ok (.taken location)) :
  tree.walk true followOn here steps = .ok (.taken location)
  := by
  induction h generalizing here with
  | nil => apply leads
  | keep step h ih =>
      obtain ⟨next, goes, leads⟩ := exists_goes leads
      rw [goes.walk_cons]
      cases next with
      | walk there => apply ih leads
      | follow there target => apply onward (h.append_left target) leads
  | drop h ih =>
      obtain ⟨above, start⟩ := exists_directory_of_walk leads directory
      rw [(Goes.point start rfl).walk_cons]
      apply ih leads

theorem locateFrom_back {links : Nat} (directory : tree.at? location = some (.directory entries))
    (h : Undots steps fewer)
    (leads : tree.locateFrom true links here fewer = .ok (.taken location)) :
  tree.locateFrom true links here steps = .ok (.taken location)
  := by
  induction links generalizing here steps fewer with
  | zero =>
      apply walk_back _ directory h leads
      intro _ _ _ _ fails
      cases fails
  | succ links ih =>
      apply walk_back _ directory h leads
      intro _ _ _ h leads
      apply ih h leads

end Undots

/-! ### Paths -/

section

variable {path : String}

theorem locate_of_isUsable (usable : IsUsable path) (followLast : Bool) :
  tree.locate followLast path = tree.locateFrom followLast maxLinks [] (steps path)
  := by
  rw [locate, if_neg usable.printable, if_neg (Nat.not_lt_of_le usable.short), usable.absolute]
  rfl

theorem exists_error_of_not_isUsable (unusable : ¬ IsUsable path) (followLast : Bool) :
  ∃ fault, tree.locate followLast path = .error fault
  := by
  by_cases printable : '\x00' ∈ path.toList
  · use .nulInPath
    rw [locate, if_pos printable]
  · by_cases short : maxPathLength < path.utf8ByteSize
    · use .nameTooLong
      rw [locate, if_neg printable, if_pos short]
    · by_cases absolute : Path.isAbsolute path = true
      · cases unusable ⟨printable, Nat.le_of_not_lt short, absolute⟩
      · use .notFound
        rw [locate, if_neg printable, if_neg short, if_pos]
        rw [Bool.not_eq_true']
        apply eq_false_of_ne_true absolute

theorem getLast?_parts_join (path : String) (proper : Path.IsName name) :
  (Path.parts (Path.join path name)).getLast? = some name
  := by
  rw [Path.join, proper.isAbsolute, Bool.false_or]
  split
  · rw [proper.parts]
    rfl
  · split
    · next slash =>
        obtain ⟨front, rfl⟩ := Path.exists_append_slash slash
        rw [Path.parts_append_slash_append, proper.parts]
        apply List.getLast?_concat
    · rw [Path.parts_append_slash_append, proper.parts]
      apply List.getLast?_concat

/-- The steps of a path below another one end with its name. -/
theorem steps_join (path : String) (proper : Path.IsName name) :
  steps (Path.join path name) = (Path.parts path).filter (· ≠ "") ++ [name]
  := by
  rw [steps, Path.filter_parts_join path proper.isAbsolute, proper.parts,
    getLast?_parts_join path proper]
  simp [proper.nonempty]

/-- Below a directory, a name leads on from its place. -/
theorem exists_locate_join (usable : IsUsable (Path.join path name)) (proper : Path.IsName name)
    (leads : tree.locate true path = .ok (.taken location)) (followLast : Bool) :
  ∃ follow, tree.locate followLast (Path.join path name)
    = tree.walk followLast follow location [name]
  := by
  obtain ⟨usable', leads⟩ := locate_eq_ok.mp leads
  have down := (undots_filter_parts usable'.absolute).locateFrom leads
  obtain ⟨links, same⟩ := locateFrom_append_of_ne_nil down followLast
  obtain ⟨follow, walks⟩ := exists_locateFrom_eq tree followLast links
  use follow
  rw [locate_of_isUsable usable, steps_join path proper, same _ (List.cons_ne_nil _ _), walks]

end

end Toolshed.FileTree
