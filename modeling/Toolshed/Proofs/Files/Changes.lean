import Toolshed.Proofs.Files.Names

/-!
# Trees in which only files change

While files come, change and go, directories and links stay where they are.  Then a path to a
directory leads to the same place later on, and a file that is found below a directory without a
link on the way is still found there, if at all.
-/

namespace Toolshed.FileTree

variable {tree later : FileTree} {location : List String}

/-! ### More steps -/

/-- Steps after those that lead somewhere go on from there, if that is so after a link. -/
theorem walk_append {follow : List String → List String → Except FileFault Place}
    (self : ∃ links, tree.walk true follow = tree.locateFrom true links)
    (onward : ∀ {here steps}, follow here steps = .ok (.taken location) →
      ∃ links, ∀ after, follow here (steps ++ after) = tree.locateFrom true links location after)
    {here steps : List String} (leads : tree.walk true follow here steps = .ok (.taken location)) :
  ∃ links, ∀ after,
    tree.walk true follow here (steps ++ after) = tree.locateFrom true links location after
  := by
  induction steps generalizing here with
  | nil =>
      obtain ⟨links, same⟩ := self
      rw [walk] at leads
      obtain rfl := Place.taken.inj (Except.ok.inj leads)
      use links
      intro after
      rw [List.nil_append, same]
  | cons step steps ih =>
      obtain ⟨there | ⟨there, target⟩, goes, leads⟩ := exists_goes leads
      · obtain ⟨links, same⟩ := ih leads
        use links
        intro after
        rw [List.cons_append, goes.walk_cons, Onward.place, same]
      · obtain ⟨links, same⟩ := onward leads
        use links
        intro after
        rw [List.cons_append, goes.walk_cons, Onward.place, ← List.append_assoc, same]

theorem locateFrom_append {links : Nat} {here steps : List String}
    (leads : tree.locateFrom true links here steps = .ok (.taken location)) :
  ∃ links', ∀ after, tree.locateFrom true links here (steps ++ after)
    = tree.locateFrom true links' location after
  := by
  induction links generalizing here steps with
  | zero =>
      apply walk_append ⟨0, rfl⟩ _ leads
      intro _ _ fails
      cases fails
  | succ links ih =>
      apply walk_append ⟨links + 1, rfl⟩ ih leads

/-- Proper names lead down if there is no link on the way. -/
theorem location_of_walk {follow : List String → List String → Except FileFault Place}
    {here below : List String} (proper : ∀ name ∈ below, Path.IsName name)
    (plain : ∀ before, before <+: below → ∀ target, tree.at? (here ++ before) ≠ some (.link target))
    (leads : tree.walk true follow here below = .ok (.taken location)) :
  location = here ++ below
  := by
  induction below generalizing here with
  | nil =>
      rw [walk] at leads
      rw [List.append_nil]
      symm
      apply Place.taken.inj (Except.ok.inj leads)
  | cons name below ih =>
      obtain ⟨first, rest⟩ := List.forall_mem_cons.mp proper
      obtain ⟨onward, goes, leads⟩ := exists_goes leads
      cases goes with
      | point _ point => cases first.not_point point
      | parent _ parent => cases first.not_parent parent
      | link _ _ named => cases plain [name] (by simp) _ named
      | child _ _ named _ =>
          rw [List.append_cons]
          apply ih rest _ leads
          intro before within target
          rw [List.append_assoc]
          apply plain
          simpa using within

theorem location_of_locateFrom {links : Nat} {here below : List String}
    (proper : ∀ name ∈ below, Path.IsName name)
    (plain : ∀ before, before <+: below → ∀ target, tree.at? (here ++ before) ≠ some (.link target))
    (leads : tree.locateFrom true links here below = .ok (.taken location)) :
  location = here ++ below
  := by
  cases links with
  | zero => apply location_of_walk proper plain leads
  | succ links => apply location_of_walk proper plain leads

/-! ### Changes of files -/

/-- From a tree to a later one, directories stay where they are, and links are the same. -/
structure OnlyFilesChange (tree later : FileTree) : Prop where
  directories : ∀ {location entries}, tree.at? location = some (.directory entries) →
    ∃ entries', later.at? location = some (.directory entries')
  links : ∀ {location target},
    tree.at? location = some (.link target) ↔ later.at? location = some (.link target)

namespace OnlyFilesChange

theorem refl (tree : FileTree) :
  OnlyFilesChange tree tree
  := by
  constructor
  · intro location entries h
    use entries
  · intro location target
    rfl

theorem trans {latest : FileTree} (first : OnlyFilesChange tree later)
    (second : OnlyFilesChange later latest) :
  OnlyFilesChange tree latest
  := by
  constructor
  · intro location entries h
    obtain ⟨entries', h'⟩ := first.directories h
    apply second.directories h'
  · intro location target
    apply first.links.trans second.links

instance : Trans OnlyFilesChange OnlyFilesChange OnlyFilesChange where
  trans := trans

variable (change : OnlyFilesChange tree later)

include change

/-- A step goes on as before, unless it leads to a file. -/
theorem goes {here : List String} {step : String} {onward : Onward}
    (goes : Goes tree here step onward)
    (directory : ∀ there, onward = .walk there →
      ∃ entries, tree.at? there = some (.directory entries)) :
  Goes later here step onward
  := by
  cases goes with
  | point here point =>
      obtain ⟨entries', here'⟩ := change.directories here
      apply Goes.point here' point
  | parent here parent =>
      obtain ⟨entries', here'⟩ := change.directories here
      apply Goes.parent here' parent
  | link here proper named =>
      obtain ⟨entries', here'⟩ := change.directories here
      apply Goes.link here' proper (change.links.mp named)
  | child here proper named other =>
      obtain ⟨entries', here'⟩ := change.directories here
      obtain ⟨below, there⟩ := directory _ rfl
      obtain ⟨below', there'⟩ := change.directories there
      apply Goes.child here' proper there'
      intro target same
      cases same

/-- Steps that lead to a directory lead there later, if that is so after a link. -/
theorem walk {follow follow' : List String → List String → Except FileFault Place}
    (onward : ∀ {here steps}, follow here steps = .ok (.taken location) →
      follow' here steps = .ok (.taken location))
    {entries : List (String × FileTree)} (directory : tree.at? location = some (.directory entries))
    {here steps : List String} (leads : tree.walk true follow here steps = .ok (.taken location)) :
  later.walk true follow' here steps = .ok (.taken location)
  := by
  induction steps generalizing here with
  | nil => apply leads
  | cons step steps ih =>
      obtain ⟨place, goes, leads⟩ := exists_goes leads
      have goes' : Goes later here step place := by
        apply change.goes goes
        rintro there rfl
        cases steps with
        | nil =>
            use entries
            rw [← directory, ← Place.taken.inj (Except.ok.inj leads)]
        | cons next steps =>
            obtain ⟨_, goes, _⟩ := exists_goes leads
            cases goes with
            | point here _ => exact ⟨_, here⟩
            | parent here _ => exact ⟨_, here⟩
            | link here _ _ => exact ⟨_, here⟩
            | child here _ _ _ => exact ⟨_, here⟩
      rw [goes'.walk_cons]
      cases place with
      | walk there => apply ih leads
      | follow there target => apply onward leads

theorem locateFrom {links : Nat} {entries : List (String × FileTree)}
    (directory : tree.at? location = some (.directory entries)) {here steps : List String}
    (leads : tree.locateFrom true links here steps = .ok (.taken location)) :
  later.locateFrom true links here steps = .ok (.taken location)
  := by
  induction links generalizing here steps with
  | zero =>
      apply change.walk _ directory leads
      intro _ _ fails
      cases fails
  | succ links ih => apply change.walk ih directory leads

/-- A path to a directory leads to the same place later. -/
theorem locate {path : String} {entries : List (String × FileTree)}
    (leads : tree.locate true path = .ok (.taken location))
    (directory : tree.at? location = some (.directory entries)) :
  later.locate true path = .ok (.taken location)
  := by
  obtain ⟨usable, leads⟩ := locate_eq_ok.mp leads
  apply locate_eq_ok.mpr
  use usable, change.locateFrom directory leads

/-- A directory stays one. -/
theorem isDirectory {path : String} (h : tree.isDirectory path = true) :
  later.isDirectory path = true
  := by
  obtain ⟨location, entries, leads, directory⟩ := isDirectory_iff.mp h
  obtain ⟨entries', directory'⟩ := change.directories directory
  apply isDirectory_iff.mpr
  use location, entries', change.locate leads directory

/-- A file below a directory is still below it later, if its path still leads to a file. -/
theorem hasFileAt {directory : String} {names : List String} (wellNamed : tree.IsWellNamed)
    (leads : tree.locate true directory = .ok (.taken location))
    (file : tree.HasFileAt (location ++ names)) (nonempty : names ≠ [])
    (isFile : later.isFile (Path.joinAll directory names) = true) :
  later.locate true directory = .ok (.taken location) ∧ later.HasFileAt (location ++ names)
  := by
  have proper := file.isName wellNamed
  obtain ⟨content, modified, isExecutable, placed⟩ := hasFileAt_iff.mp file
  obtain ⟨entries, above⟩ := exists_directory_of_at? nonempty placed
  have plain : ∀ before, before <+: names → ∀ target,
      later.at? (location ++ before) ≠ some (.link target) := by
    rintro before ⟨rest, rfl⟩ target linked
    rw [← change.links] at linked
    rw [← List.append_assoc, at?_append, linked] at placed
    cases rest with
    | nil => cases placed
    | cons name rest => cases placed
  have leads' := change.locate leads above
  use leads'
  obtain ⟨location', reaches, file'⟩ := isFile_iff.mp isFile
  obtain ⟨usable, leads'⟩ := locate_eq_ok.mp leads'
  obtain ⟨usable', reaches⟩ := locate_eq_ok.mp reaches
  have down := (undots_filter_parts usable.absolute).locateFrom leads'
  have down' := (undots_filter_parts usable'.absolute).locateFrom reaches
  obtain ⟨links, same⟩ := locateFrom_append down
  rw [Path.filter_parts_joinAll directory proper, same] at down'
  rw [← location_of_locateFrom proper plain down']
  apply file'

end OnlyFilesChange

end Toolshed.FileTree
