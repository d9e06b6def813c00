import Toolshed.Proofs.Path
import Toolshed.Proofs.Files.Fingerprints
import Toolshed.Digest.Identity

/-!
# Files by their absolute paths

A path leads to a node only if it is absolute, and then its absolute path leads there, too.  Points
among the steps of a path only ask for directories, and the absolute path asks less often.
-/

namespace Toolshed

namespace FileTree

/-! ### One step -/

theorem at?_append (before after : List String) (tree : FileTree) :
  tree.at? (before ++ after) = (tree.at? before).bind (at? after)
  := by
  induction before generalizing tree with
  | nil => rfl
  | cons name before ih =>
      rcases tree with ⟨content, modified, isExecutable⟩ | target | entries
      · rfl
      · rfl
      · rw [List.cons_append, at?, at?, Option.bind_assoc]
        congr 1
        funext child
        apply ih

/-- What is at a location with one more name is an entry of the directory there. -/
theorem at?_concat {tree : FileTree} {here : List String} {entries : List (String × FileTree)}
    (directory : tree.at? here = some (.directory entries)) (name : String) :
  tree.at? (here ++ [name]) = child? name entries
  := by
  rw [at?_append, directory, Option.bind_some, at?]
  apply Option.bind_fun_some

/-- Above a node, there is a directory. -/
theorem exists_directory_of_at? {tree node : FileTree} {before after : List String}
    (nonempty : after ≠ []) (placed : tree.at? (before ++ after) = some node) :
  ∃ entries, tree.at? before = some (.directory entries)
  := by
  rw [at?_append] at placed
  obtain ⟨above, found, below⟩ := Option.bind_eq_some_iff.mp placed
  cases after with
  | nil => cases nonempty rfl
  | cons name after =>
      rcases above with ⟨content, modified, isExecutable⟩ | target | entries
      · cases below
      · cases below
      · use entries, found

/-- How steps go on after the first one: from a location, or, after a link, from a location by the
steps of the target first. -/
inductive Onward where
  | walk (there : List String)
  | follow (there : List String) (target : List String)

/-- A step from a location leads somewhere. -/
inductive Goes (tree : FileTree) (here : List String) (step : String) : Onward → Prop where
  | point {entries : List (String × FileTree)}
      (directory : tree.at? here = some (.directory entries)) (point : step = ".") :
      Goes tree here step (.walk here)
  | parent {entries : List (String × FileTree)}
      (directory : tree.at? here = some (.directory entries)) (parent : step = "..") :
      Goes tree here step (.walk here.dropLast)
  | link {entries : List (String × FileTree)} {target : String}
      (directory : tree.at? here = some (.directory entries))
      (proper : step ≠ "." ∧ step ≠ ".." ∧ step.utf8ByteSize ≤ maxNameLength)
      (named : tree.at? (here ++ [step]) = some (.link target)) :
      Goes tree here step (.follow (if Path.isAbsolute target then [] else here) (steps target))
  | child {entries : List (String × FileTree)} {node : FileTree}
      (directory : tree.at? here = some (.directory entries))
      (proper : step ≠ "." ∧ step ≠ ".." ∧ step.utf8ByteSize ≤ maxNameLength)
      (named : tree.at? (here ++ [step]) = some node) (other : ∀ target, node ≠ .link target) :
      Goes tree here step (.walk (here ++ [step]))

/-- The place to which the steps after the first one lead. -/
def Onward.place (tree : FileTree)
    (follow : List String → List String → Except FileFault Place) (rest : List String) :
    Onward → Except FileFault Place
  | .walk there => tree.walk true follow there rest
  | .follow there target => follow there (target ++ rest)

/-- A step goes on whatever comes after it; only a link that comes last need not be followed. -/
theorem Goes.walk_eq {tree : FileTree} {here : List String} {step : String} {onward : Onward}
    (goes : Goes tree here step onward) (followLast : Bool)
    (follow : List String → List String → Except FileFault Place) (rest : List String) :
  tree.walk followLast follow here (step :: rest) = match onward with
    | .walk there => tree.walk followLast follow there rest
    | .follow there target =>
      if rest.isEmpty && !followLast then .ok (.taken (here ++ [step]))
      else follow there (target ++ rest)
  := by
  cases goes with
  | point directory point =>
      rw [walk, directory]
      apply if_pos point
  | parent directory parent =>
      rw [walk, directory]
      simp only [parent]
      rfl
  | link directory proper named =>
      rw [at?_concat directory] at named
      rw [walk, directory]
      simp only [proper, named, Nat.not_lt_of_le proper.2.2, if_false]
  | child directory proper named other =>
      rw [at?_concat directory] at named
      rw [walk, directory]
      simp only [proper, named, Nat.not_lt_of_le proper.2.2, if_false]

theorem Goes.walk_cons {tree : FileTree} {here : List String} {step : String} {onward : Onward}
    (goes : Goes tree here step onward)
    (follow : List String → List String → Except FileFault Place) (rest : List String) :
  tree.walk true follow here (step :: rest) = onward.place tree follow rest
  := by
  rw [goes.walk_eq]
  cases onward with
  | walk there => rfl
  | follow there target =>
      apply if_neg
      simp

/-- If steps lead somewhere, the first of them does. -/
theorem exists_goes {tree : FileTree}
    {follow : List String → List String → Except FileFault Place} {here rest : List String}
    {step : String} {location : List String}
    (leads : tree.walk true follow here (step :: rest) = .ok (.taken location)) :
  ∃ onward, Goes tree here step onward ∧ onward.place tree follow rest = .ok (.taken location)
  := by
  suffices h : ∃ onward, Goes tree here step onward by
    obtain ⟨onward, goes⟩ := h
    use onward, goes
    rw [← goes.walk_cons, leads]
  rw [walk] at leads
  split at leads
  · next entries directory =>
      split at leads
      · next point => exact ⟨_, .point directory point⟩
      · next point =>
          split at leads
          · next parent => exact ⟨_, .parent directory parent⟩
          · next parent =>
              split at leads
              · cases leads
              · next long =>
                  have proper := And.intro point (And.intro parent (Nat.le_of_not_lt long))
                  split at leads
                  · split at leads
                    · cases leads
                    · cases leads
                  · next target named =>
                      rw [← at?_concat directory] at named
                      exact ⟨_, .link directory proper named⟩
                  · next child link named =>
                      rw [← at?_concat directory] at named
                      exact ⟨_, .child directory proper named link⟩
  · cases leads

/-! ### Points among steps -/

/-- A first step that leads somewhere goes to a place or follows a link, whatever steps come after
it. -/
theorem walk_cons_cases {tree : FileTree}
    {follow : List String → List String → Except FileFault Place} {here rest : List String}
    {step : String} {location : List String}
    (leads : tree.walk true follow here (step :: rest) = .ok (.taken location)) :
  (∃ there, ∀ rest', tree.walk true follow here (step :: rest') = tree.walk true follow there rest')
    ∨ ∃ there before, ∀ rest', tree.walk true follow here (step :: rest')
        = follow there (before ++ rest')
  := by
  obtain ⟨there | ⟨there, before⟩, goes, _⟩ := exists_goes leads
  · left
    use there
    apply goes.walk_cons follow
  · right
    use there, before
    apply goes.walk_cons follow

/-- Steps with some of the single points left out. -/
inductive Undots : List String → List String → Prop where
  | nil : Undots [] []
  | keep (step : String) {steps fewer : List String} :
      Undots steps fewer → Undots (step :: steps) (step :: fewer)
  | drop {steps fewer : List String} : Undots steps fewer → Undots ("." :: steps) fewer

namespace Undots

variable {steps fewer : List String}

theorem refl (steps : List String) :
  Undots steps steps
  := by
  induction steps with
  | nil => apply nil
  | cons step steps ih => apply keep step ih

theorem append {steps' fewer' : List String} (h : Undots steps fewer) (h' : Undots steps' fewer') :
  Undots (steps ++ steps') (fewer ++ fewer')
  := by
  induction h with
  | nil => apply h'
  | keep step _ ih => apply keep step ih
  | drop _ ih => apply drop ih

theorem append_left (before : List String) (h : Undots steps fewer) :
  Undots (before ++ steps) (before ++ fewer)
  := (refl before).append h

theorem append_right (h : Undots steps fewer) (after : List String) :
  Undots (steps ++ after) (fewer ++ after)
  := h.append (refl after)

/-- All points are left out. -/
theorem filter (steps : List String) :
  Undots steps (steps.filter (· ≠ "."))
  := by
  induction steps with
  | nil => apply nil
  | cons step steps ih =>
      rw [List.filter_cons]
      split
      · apply keep step ih
      · next point =>
          rw [decide_eq_true_iff, not_not] at point
          rw [point]
          apply drop ih

/-- Where only points are left out, one can be left. -/
theorem point (h : Undots steps []) (nonempty : steps ≠ []) :
  Undots steps ["."]
  := by
  cases h with
  | nil => cases nonempty rfl
  | drop h => apply keep "." h

variable {tree : FileTree} {location : List String}

/-- Where steps lead, they lead with points left out, if that is so after a link. -/
theorem walk {follow : List String → List String → Except FileFault Place}
    (onward : ∀ {here steps fewer}, Undots steps fewer →
      follow here steps = .ok (.taken location) → follow here fewer = .ok (.taken location))
    {here : List String} (h : Undots steps fewer)
    (leads : tree.walk true follow here steps = .ok (.taken location)) :
  tree.walk true follow here fewer = .ok (.taken location)
  := by
  induction h generalizing here with
  | nil => apply leads
  | keep step h ih =>
      rcases walk_cons_cases leads with ⟨there, goes⟩ | ⟨there, before, follows⟩
      · rw [goes] at leads ⊢
        apply ih leads
      · rw [follows] at leads ⊢
        apply onward _ leads
        apply h.append_left
  | drop _ ih =>
      rw [FileTree.walk] at leads
      split at leads
      · rw [if_pos rfl] at leads
        apply ih leads
      · cases leads

theorem locateFrom {links : Nat} {here : List String} (h : Undots steps fewer)
    (leads : tree.locateFrom true links here steps = .ok (.taken location)) :
  tree.locateFrom true links here fewer = .ok (.taken location)
  := by
  induction links generalizing here steps fewer with
  | zero =>
      apply h.walk _ leads
      intro _ _ _ _ fails
      cases fails
  | succ links ih =>
      apply h.walk _ leads
      intro here steps fewer h
      apply ih h

end Undots

/-! ### Steps of absolute paths -/

/-- An absolute path asks for a directory if its last part is empty. -/
theorem steps_of_isAbsolute {path : String} (h : Path.isAbsolute path = true) :
  steps path = (Path.parts path).filter (· ≠ "")
    ++ if (Path.parts path).getLast? = some "" then ["."] else []
  := by
  obtain ⟨other, rfl⟩ := Path.exists_slash_append h
  have long : 1 < (Path.parts ("/" ++ other)).length := by
    have := List.length_pos_iff.mpr (Path.parts_ne_nil other)
    rw [Path.parts_slash_append, List.length_cons]
    omega
  simp only [steps, long, Bool.and_eq_true, decide_true, true_and, decide_eq_true_eq]

/-- The absolute path has fewer points among its steps. -/
theorem undots_steps {path : String} (h : Path.isAbsolute path = true) :
  Undots (steps path) (steps (Path.absolute path))
  := by
  have undots : Undots ((Path.parts path).filter (· ≠ "")) (Path.names path) := by
    rw [Path.names_eq_filter]
    apply Undots.filter
  have ends := Path.getLast?_parts path
  rw [steps_of_isAbsolute h, steps_of_isAbsolute (Path.isAbsolute_absolute path)]
  rw [Path.filter_parts_absolute]
  by_cases last : (Path.parts path).getLast? = some ""
  · rw [if_pos last, if_pos]
    · apply undots.append_right
    · rw [Path.getLast?_parts_absolute]
      rcases ends.mp last with rfl | slash
      · left
        rfl
      · right
        apply slash
  · rw [if_neg last, List.append_nil]
    by_cases unnamed : Path.names path = []
    · -- the path has points only, and the absolute path asks for a directory
      rw [if_pos, unnamed]
      · apply Undots.point
        · rw [← unnamed]
          apply undots
        · intro empty
          apply last
          rw [List.filter_eq_nil_iff] at empty
          obtain ⟨part, lastPart⟩ := Option.ne_none_iff_exists'.mp
            (mt List.getLast?_eq_none_iff.mp (Path.parts_ne_nil path))
          rw [lastPart, Option.some.injEq]
          simpa using empty part (List.mem_of_getLast? lastPart)
      · apply (Path.getLast?_parts_absolute path).mpr
        left
        apply unnamed
    · rw [if_neg, List.append_nil]
      · apply undots
      · intro last'
        rcases (Path.getLast?_parts_absolute path).mp last' with empty | slash
        · apply unnamed empty
        · apply last
          apply ends.mpr
          right
          apply slash

/-! ### What absolute paths lead to -/

variable {tree : FileTree} {path : String}

theorem isAbsolute_of_locate {place : Place} (h : tree.locate true path = .ok place) :
  Path.isAbsolute path = true
  := by
  rw [locate] at h
  split at h
  · cases h
  · split at h
    · cases h
    · split at h
      · cases h
      · next absolute =>
          simpa using absolute

theorem utf8ByteSize_eq (s : String) :
  s.utf8ByteSize = String.utf8Len s.toList
  := by
  rw [← String.utf8ByteSize_ofList, String.ofList_toList]

/-- Where a path leads, its absolute path leads, which is not longer. -/
theorem locate_absolute {location : List String}
    (h : tree.locate true path = .ok (.taken location)) :
  tree.locate true (Path.absolute path) = .ok (.taken location)
  := by
  have absolute := isAbsolute_of_locate h
  have shorter := Path.absolute_sublist absolute
  have size : (Path.absolute path).utf8ByteSize ≤ path.utf8ByteSize := by
    rw [utf8ByteSize_eq, utf8ByteSize_eq]
    apply String.utf8Len_le_of_sublist shorter
  rw [locate] at h ⊢
  split at h
  · cases h
  · next printable =>
      split at h
      · cases h
      · next short =>
          rw [if_neg (fun among => printable (shorter.subset among)),
            if_neg (Nat.not_lt_of_le (size.trans (Nat.le_of_not_lt short)))]
          simp only [absolute, Path.isAbsolute_absolute, Bool.not_true, Bool.false_eq_true,
            if_false] at h ⊢
          apply (undots_steps absolute).locateFrom h

theorem find_eq_ok {node : FileTree} :
  tree.find path = .ok node
    ↔ ∃ location, tree.locate true path = .ok (.taken location) ∧ tree.at? location = some node
  := by
  rw [find, location]
  rcases tree.locate true path with fault | location | ⟨directory, name⟩
  · simp [bind, Except.bind]
  · rcases found : tree.at? location with _ | node'
    · simp [bind, Except.bind, pure, Except.pure, found]
    · simp [bind, Except.bind, pure, Except.pure, found]
  · simp [bind, Except.bind]

theorem find_absolute {node : FileTree} (h : tree.find path = .ok node) :
  tree.find (Path.absolute path) = .ok node
  := by
  obtain ⟨location, leads, found⟩ := find_eq_ok.mp h
  apply find_eq_ok.mpr
  use location, locate_absolute leads

/-- A path with a fingerprint shares it, and what is there, with a path that leads where it does. -/
theorem fingerprint?_of_find {path' : String}
    (leads : ∀ node, tree.find path = .ok node → tree.find path' = .ok node)
    {fingerprint : Fingerprint} (h : tree.fingerprint? path = some fingerprint) :
  tree.fingerprint? path' = some fingerprint ∧ tree.content? path' = tree.content? path
  := by
  rw [fingerprint?] at h
  rcases found : tree.find path with fault | node
  · rw [found] at h
    cases h
  · rw [found] at h
    rw [fingerprint?, content?, content?, found, leads node found]
    use h

/-- A path with a fingerprint shares it, and what it leads to, with its absolute path. -/
theorem fingerprint?_absolute {fingerprint : Fingerprint}
    (h : tree.fingerprint? path = some fingerprint) :
  tree.fingerprint? (Path.absolute path) = some fingerprint
    ∧ tree.content? (Path.absolute path) = tree.content? path
  := fingerprint?_of_find (fun _ => find_absolute) h

/-! ### Paths with the same names -/

/-- What a path must be to lead anywhere. -/
structure IsUsable (path : String) : Prop where
  printable : '\x00' ∉ path.toList
  short : path.utf8ByteSize ≤ maxPathLength
  absolute : Path.isAbsolute path = true

theorem locate_eq_ok {place : Place} :
  tree.locate true path = .ok place
    ↔ IsUsable path ∧ tree.locateFrom true maxLinks [] (steps path) = .ok place
  := by
  rw [locate]
  constructor
  · intro h
    split at h
    · cases h
    · next printable =>
        split at h
        · cases h
        · next short =>
            split at h
            · cases h
            · next absolute =>
                use ⟨printable, Nat.le_of_not_lt short, by simpa using absolute⟩, h
  · rintro ⟨usable, h⟩
    rw [if_neg usable.printable, if_neg (Nat.not_lt_of_le usable.short), usable.absolute]
    apply h

theorem undots_dots (path : String) :
  Undots (if (Path.parts path).getLast? = some "" then ["."] else []) []
  := by
  split
  · apply Undots.drop Undots.nil
  · apply Undots.nil

/-- Where a path leads, its parts lead without empty ones. -/
theorem undots_filter_parts (absolute : Path.isAbsolute path = true) :
  Undots (steps path) ((Path.parts path).filter (· ≠ ""))
  := by
  have undots := (Undots.refl ((Path.parts path).filter (· ≠ ""))).append (undots_dots path)
  rw [steps_of_isAbsolute absolute]
  rw [List.append_nil] at undots
  apply undots

/-- Where a path leads, its names lead. -/
theorem undots_names (absolute : Path.isAbsolute path = true) :
  Undots (steps path) (Path.names path)
  := by
  have undots := (Undots.filter ((Path.parts path).filter (· ≠ ""))).append (undots_dots path)
  rw [steps_of_isAbsolute absolute, Path.names_eq_filter]
  rw [List.append_nil] at undots
  apply undots

/-- A path written with fewer characters than one that can be followed can be followed. -/
theorem IsUsable.of_sublist {path' : String} (usable : IsUsable path)
    (shorter : path'.toList.Sublist path.toList) (absolute : Path.isAbsolute path' = true) :
  IsUsable path'
  := by
  constructor
  · intro among
    apply usable.printable (shorter.subset among)
  · rw [utf8ByteSize_eq]
    apply (String.utf8Len_le_of_sublist shorter).trans
    rw [← utf8ByteSize_eq]
    apply usable.short
  · apply absolute

/-- The steps of the shortest absolute path with some names are these names. -/
theorem steps_pathOf {names : List String} (nonempty : names ≠ [])
    (proper : ∀ name ∈ names, name ≠ "" ∧ '/' ∉ name.toList) :
  steps (pathOf names) = names
  := by
  have parts : Path.parts ("/" ++ "/".intercalate names) = "" :: names := by
    rw [Path.parts_slash_append, Path.parts_intercalate nonempty]
    intro name among
    apply (proper name among).2
  have last : (Path.parts ("/" ++ "/".intercalate names)).getLast? ≠ some "" := by
    rw [parts, List.getLast?_cons_of_ne_nil nonempty]
    intro last
    cases (proper _ (List.mem_of_getLast? last)).1 rfl
  rw [pathOf, steps_of_isAbsolute (Path.isAbsolute_slash_append _), if_neg last, List.append_nil,
    parts]
  change names.filter (· ≠ "") = names
  rw [List.filter_eq_self]
  intro name among
  rw [decide_eq_true_iff]
  apply (proper name among).1

/-- The steps of the shortest absolute path with the names of another one are these names. -/
theorem steps_names (named : Path.names path ≠ []) :
  steps ("/" ++ "/".intercalate (Path.names path)) = Path.names path
  := by
  apply steps_pathOf named
  intro name among
  obtain ⟨part, nonempty, _⟩ := Path.mem_names.mp among
  use nonempty, Path.slash_not_mem_of_mem_parts part

/-- Where a path leads, the shortest absolute path with its names leads. -/
theorem find_names {node : FileTree} (nonempty : Path.names path ≠ [])
    (found : tree.find path = .ok node) :
  tree.find ("/" ++ "/".intercalate (Path.names path)) = .ok node
  := by
  obtain ⟨location, leads, placed⟩ := find_eq_ok.mp found
  obtain ⟨usable, leads⟩ := locate_eq_ok.mp leads
  apply find_eq_ok.mpr
  use location
  constructor
  · apply locate_eq_ok.mpr
    constructor
    · apply usable.of_sublist (Path.slash_names_sublist usable.absolute)
      apply Path.isAbsolute_slash_append
    · rw [steps_names nonempty]
      apply (undots_names usable.absolute).locateFrom leads
  · apply placed

end FileTree

/-- Fingerprints that tell do so for all paths with the same absolute path. -/
theorem FingerprintsTell.content?_eq_of_absolute {trees : List FileTree}
    (tell : FingerprintsTell trees) {tree other : FileTree} (ht : tree ∈ trees) (ho : other ∈ trees)
    {path path' : String} (same : Path.absolute path = Path.absolute path')
    {fingerprint : Fingerprint} (now : tree.fingerprint? path = some fingerprint)
    (before : other.fingerprint? path' = some fingerprint) :
  tree.content? path = other.content? path'
  := by
  obtain ⟨now', content⟩ := FileTree.fingerprint?_absolute now
  obtain ⟨before', content'⟩ := FileTree.fingerprint?_absolute before
  rw [← content, ← content', ← same]
  rw [← same] at before'
  apply tell tree ht other ho _ fingerprint now' before'

/-- Fingerprints that tell do so for all paths with the same names. -/
theorem FingerprintsTell.content?_eq_of_names {trees : List FileTree}
    (tell : FingerprintsTell trees) {tree other : FileTree} (ht : tree ∈ trees) (ho : other ∈ trees)
    {path path' : String} (nonempty : Path.names path ≠ [])
    (same : Path.names path = Path.names path') {fingerprint : Fingerprint}
    (now : tree.fingerprint? path = some fingerprint)
    (before : other.fingerprint? path' = some fingerprint) :
  tree.content? path = other.content? path'
  := by
  obtain ⟨now', content⟩ :=
    FileTree.fingerprint?_of_find (fun _ => FileTree.find_names nonempty) now
  rw [same] at nonempty now' content
  obtain ⟨before', content'⟩ :=
    FileTree.fingerprint?_of_find (fun _ => FileTree.find_names nonempty) before
  rw [← content, ← content']
  apply tell tree ht other ho _ fingerprint now' before'

/-- The format of a file is told by its last name. -/
theorem Format.ofToolPath?_congr {path path' : String} (same : Path.names path = Path.names path') :
  Format.ofToolPath? path = Format.ofToolPath? path'
  := by
  rw [ofToolPath?, ofToolPath?, Path.extension?, Path.extension?, Path.fileName?, Path.fileName?,
    same]

/-- A file that holds a manifest has a name. -/
theorem Manifest.names_ne_nil_of_inFile? {files : FileTree} {path : String} {manifest : Manifest}
    (h : Manifest.inFile? files path = some manifest) :
  Path.names path ≠ []
  := by
  intro empty
  have format : Format.ofToolPath? path = Format.ofToolPath? "" := by
    apply Format.ofToolPath?_congr
    rw [empty]
    rfl
  rw [Manifest.inFile?_eq, format] at h
  cases h

/-- A file that holds a manifest holds it under every path with the same names, as long as it keeps
its fingerprint. -/
theorem FingerprintsTell.inFile?_eq_of_names {trees : List FileTree}
    (tell : FingerprintsTell trees) {tree other : FileTree} (ht : tree ∈ trees) (ho : other ∈ trees)
    {path path' : String} (same : Path.names path = Path.names path') {manifest : Manifest}
    (loads : Manifest.inFile? tree path = some manifest)
    (stamped : tree.fingerprint? path = other.fingerprint? path') :
  Manifest.inFile? other path' = some manifest
  := by
  obtain ⟨fingerprint, now⟩ := Manifest.fingerprint?_of_inFile? loads
  have content := tell.content?_eq_of_names ht ho (Manifest.names_ne_nil_of_inFile? loads) same now
    (stamped.symm.trans now)
  rw [← loads, Manifest.inFile?_eq, Manifest.inFile?_eq, FileTree.toOption_read,
    FileTree.toOption_read, content, Format.ofToolPath?_congr same]

end Toolshed
