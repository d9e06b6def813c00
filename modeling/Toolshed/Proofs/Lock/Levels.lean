import Toolshed.Lock.Store
import Toolshed.Proofs.Files.Allotment
import Toolshed.Proofs.Lock.Names

/-!
# Stores of lockfiles as levels

A store holds at most one lockfile of a pin in each space.  What it holds is seen at the places of
its directories, and one file is written or removed at a time.
-/

namespace Toolshed.Lock

open FileTree

/-! ### Levels -/

/-- A pin whose name is read as that pin, and names one file. -/
structure Pin.IsKept (pin : Pin) : Prop where
  read : ofFileName? pin.fileName = some pin
  no_slash : '/' ∉ pin.version.toList

instance (pin : Pin) : Decidable pin.IsKept :=
  decidable_of_iff (Pin.ofFileName? pin.fileName = some pin ∧ '/' ∉ pin.version.toList)
    ⟨fun ⟨h, h'⟩ => ⟨h, h'⟩, fun ⟨h, h'⟩ => ⟨h, h'⟩⟩

theorem Pin.IsKept.isName {pin : Pin} (kept : pin.IsKept) :
  Path.IsName pin.fileName
  := isName_fileName kept.no_slash

/-- Which lockfile is held of a pin in a space. -/
abbrev Levels : Type :=
  Space → Pin → Option Lockfile

namespace Levels

/-- The lockfile of a pin in the space that takes precedence, with that space. -/
def first? (m : Levels) (pin : Pin) : Option (Space × Lockfile) :=
  Space.all.findSome? fun space => (m space pin).map fun l => (space, l)

/-- The levels with another lockfile of a pin in a space, or with none. -/
def set (m : Levels) (space : Space) (pin : Pin) (held : Option Lockfile) : Levels :=
  fun space' pin' => if space' = space ∧ pin' = pin then held else m space' pin'

/-- The levels without the lockfile of a pin in some spaces. -/
def erase (m : Levels) (spaces : List Space) (pin : Pin) : Levels :=
  fun space' pin' => if space' ∈ spaces ∧ pin' = pin then none else m space' pin'

end Levels

/-! ### Where levels are seen -/

/-- What a file with a content is read as. -/
def lockfileOf? (content : ByteArray) : Option Lockfile :=
  (String.fromUTF8? content).bind Lockfile.parse?

/-- At the place of a directory there is nothing of a pin, or a file with its lockfile. -/
def HoldsAt (files : FileTree) (directory : String) (place : List String) (pin : Pin) :
    Option Lockfile → Prop
  | none => files.at? (place ++ [pin.fileName]) = none
  | some l => Fits directory pin.fileName
    ∧ (files.contentAt? (place ++ [pin.fileName])).bind lockfileOf? = some l

section

variable {files later : FileTree} {directory : String} {place : List String} {pin : Pin}
  {held : Option Lockfile}

theorem HoldsAt.congr (holds : HoldsAt files directory place pin held)
    (same : later.surfaceAt? (place ++ [pin.fileName])
      = files.surfaceAt? (place ++ [pin.fileName])) :
  HoldsAt later directory place pin held
  := by
  cases held with
  | none =>
      rw [HoldsAt, ← surfaceAt?_eq_none] at holds ⊢
      rw [same, holds]
  | some l =>
      obtain ⟨fits, read⟩ := holds
      use fits
      rw [contentAt?_eq, same, ← contentAt?_eq, read]

theorem HoldsAt.hasFileAt {l : Lockfile} (holds : HoldsAt files directory place pin (some l)) :
  files.HasFileAt (place ++ [pin.fileName])
  := by
  obtain ⟨content, found, _⟩ := Option.bind_eq_some_iff.mp holds.2
  rw [HasFileAt, ← contentAt?, found]
  rfl

/-- Where something is held, there is a file, and it is not a link. -/
theorem HoldsAt.not_link (holds : HoldsAt files directory place pin held) (target : String) :
  files.at? (place ++ [pin.fileName]) ≠ some (.link target)
  := by
  intro found
  cases held with
  | none =>
      rw [HoldsAt, found] at holds
      cases holds
  | some l =>
      obtain ⟨_, _, _, file⟩ := hasFileAt_iff.mp holds.hasFileAt
      rw [found] at file
      cases file

/-- What is held of a pin is what its file is read as. -/
theorem HoldsAt.content? (holds : HoldsAt files directory place pin held)
    (allots : files.Allots directory place) (kept : pin.IsKept) :
  (files.content? (Path.join directory pin.fileName)).bind lockfileOf? = held
    ∧ (files.content? (Path.join directory pin.fileName)).isSome = held.isSome
  := by
  rw [allots.content?_join kept.isName holds.not_link]
  cases held with
  | none =>
      rw [HoldsAt] at holds
      rw [contentAt?, holds, Option.bind_none, ite_self]
      constructor
      · rfl
      · rfl
  | some l =>
      obtain ⟨fits, read⟩ := holds
      obtain ⟨content, found, read⟩ := Option.bind_eq_some_iff.mp read
      rw [if_pos fits, found]
      use read
      rfl

end

namespace Store

/-- The directories of a store have different places, and none of them is at or below the place of a
lockfile in another one. -/
structure IsLaidOut (s : Store) (files : FileTree) (place : Space → List String) : Prop where
  allotted : ∀ {space directory}, s.directory? space = some directory →
    files.Allots directory (place space)
  distinct : ∀ {space other}, s.directory? space ≠ none → s.directory? other ≠ none →
    place space = place other → space = other
  apart : ∀ {space other}, s.directory? space ≠ none → s.directory? other ≠ none →
    ∀ {name}, Pin.ofFileName? name ≠ none → ¬ place space ++ [name] <+: place other

/-- The files of a store show what is held in its spaces. -/
structure Shows (s : Store) (files : FileTree) (place : Space → List String) (m : Levels) :
    Prop where
  absent : ∀ {space}, s.directory? space = none → ∀ pin, m space pin = none
  holds : ∀ {space directory}, s.directory? space = some directory → ∀ {pin}, pin.IsKept →
    HoldsAt files directory (place space) pin (m space pin)

/-- A store is laid out, and its files show what is held in it. -/
structure Realizes (s : Store) (files : FileTree) (place : Space → List String) (m : Levels) :
    Prop where
  wellNamed : files.IsWellNamed
  laidOut : s.IsLaidOut files place
  shows : s.Shows files place m

namespace Realizes

variable {s : Store} {files later : FileTree} {place : Space → List String} {m : Levels}
  {space : Space} {directory : String} {pin : Pin}

/-- A directory is made, and nothing else is seen to change. -/
theorem makes (realizes : s.Realizes files place m) (placed : s.directory? space = some directory)
    (makes : Makes files later (place space)) :
  s.Realizes later place m
  := by
  obtain ⟨wellNamed, laidOut, shows⟩ := realizes
  have exists' : s.directory? space ≠ none := by simp [placed]
  refine ⟨makes.wellNamed wellNamed, ⟨?_, laidOut.distinct, laidOut.apart⟩, ⟨shows.absent, ?_⟩⟩
  · intro other directory' placed'
    apply (laidOut.allotted placed').mono makes.change
    intro way _
    apply makes.seen_cases
  · intro other directory' placed' pin kept
    apply (shows.holds placed' kept).congr
    apply makes.surfaceAt?_eq
    apply laidOut.apart (by simp [placed']) exists'
    simp [kept.read]

/-- At the place of a pin a file is changed, and nothing else is seen to change. -/
theorem changes {held : Option Lockfile} (realizes : s.Realizes files place m)
    (placed : s.directory? space = some directory) (kept : pin.IsKept)
    (change : OnlyFilesChange files later) (wellNamed : later.IsWellNamed)
    (seen : ∀ {location}, ¬ place space ++ [pin.fileName] <+: location →
      later.surfaceAt? location = files.surfaceAt? location)
    (holds : HoldsAt later directory (place space) pin held) :
  s.Realizes later place (m.set space pin held)
  := by
  obtain ⟨_, laidOut, shows⟩ := realizes
  have exists' : s.directory? space ≠ none := by simp [placed]
  have outside {other : Space} (placed' : s.directory? other ≠ none) :
      ¬ place space ++ [pin.fileName] <+: place other := by
    apply laidOut.apart exists' placed'
    simp [kept.read]
  refine ⟨wellNamed, ⟨?_, laidOut.distinct, laidOut.apart⟩, ⟨?_, ?_⟩⟩
  · intro other directory' placed'
    apply (laidOut.allotted placed').mono change
    intro way within
    left
    apply seen
    intro above
    apply outside (by simp [placed']) (above.trans within)
  · intro other missing pin'
    rw [Levels.set, if_neg]
    · apply shows.absent missing
    · rintro ⟨rfl, _⟩
      apply exists' missing
  · intro other directory' placed' pin' kept'
    rw [Levels.set]
    split
    · next same =>
        obtain ⟨rfl, rfl⟩ := same
        obtain rfl := Option.some.inj (placed.symm.trans placed')
        apply holds
    · next different =>
        apply (shows.holds placed' kept').congr
        apply seen
        intro within
        rcases List.prefix_concat_iff.mp within with same | within
        · obtain ⟨same, named⟩ := List.append_inj' same rfl
          obtain rfl := laidOut.distinct exists' (by simp [placed']) same
          apply different
          use rfl
          have read := kept.read
          rw [List.singleton_inj.mp named, kept'.read] at read
          apply Option.some.inj read
        · apply outside (by simp [placed']) within

/-- The directory of a space is made if it is missing, and then its path leads to it. -/
theorem exists_makeDirectories (realizes : s.Realizes files place m)
    (placed : s.directory? space = some directory) :
  ∃ made entries, files.makeDirectories directory = .ok made ∧ s.Realizes made place m
    ∧ made.at? (place space) = some (.directory entries)
    ∧ made.locate true directory = .ok (.taken (place space))
  := by
  obtain ⟨made, same, makes⟩ := (realizes.laidOut.allotted placed).exists_makeDirectories
  have realizes := realizes.makes placed makes
  obtain ⟨entries, there⟩ := makes.directory
  use made, entries, same, realizes, there
  apply (realizes.laidOut.allotted placed).leads there

/-- A lockfile whose name fits is written into its directory, which is made if it is missing. -/
theorem exists_write (realizes : s.Realizes files place m)
    (placed : s.directory? space = some directory) (kept : pin.IsKept)
    (fits : Fits directory pin.fileName) {content : ByteArray} {l : Lockfile}
    (read : lockfileOf? content = some l) (modified : Int) :
  ∃ made later, files.makeDirectories directory = .ok made
    ∧ made.write (Path.join directory pin.fileName) content modified false = .ok later
    ∧ s.Realizes later place (m.set space pin (some l))
  := by
  obtain ⟨made, entries, same, realizes, there, leads⟩ := realizes.exists_makeDirectories placed
  have old : made.at? (place space ++ [pin.fileName]) = none
      ∨ made.HasFileAt (place space ++ [pin.fileName]) := by
    have holds := realizes.shows.holds placed kept
    rcases held : m space pin with _ | l
    · left
      rw [held] at holds
      apply holds
    · right
      rw [held] at holds
      apply holds.hasFileAt
  obtain ⟨isExecutable, written⟩ := exists_write_join leads kept.isName fits there old content
    modified false
  have edits := editsFiles_of_write written
  refine ⟨made, _, same, written, ?_⟩
  apply realizes.changes placed kept edits.onlyFilesChange (edits.isWellNamed realizes.wellNamed)
  · intro location apart
    apply surfaceAt?_put there _ apart
  · use fits
    rw [contentAt?, at?_put there]
    apply read

/-- A lockfile whose name does not fit is not written, though its directory is made. -/
theorem exists_write_error (realizes : s.Realizes files place m)
    (placed : s.directory? space = some directory) (kept : pin.IsKept)
    (long : ¬ Fits directory pin.fileName) (content : ByteArray) (modified : Int) :
  ∃ made fault, files.makeDirectories directory = .ok made
    ∧ made.write (Path.join directory pin.fileName) content modified false = .error fault
    ∧ s.Realizes made place m
  := by
  obtain ⟨made, entries, same, realizes, there, leads⟩ := realizes.exists_makeDirectories placed
  obtain ⟨fault, fails⟩ := FileTree.exists_write_error leads kept.isName long there content modified
    false
  exact ⟨made, fault, same, fails, realizes⟩

/-- A lockfile that is held is removed. -/
theorem exists_removeFile (realizes : s.Realizes files place m)
    (placed : s.directory? space = some directory) (kept : pin.IsKept)
    (held : m space pin ≠ none) :
  ∃ later, files.removeFile (Path.join directory pin.fileName) = .ok later
    ∧ s.Realizes later place (m.set space pin none)
  := by
  have holds := realizes.shows.holds placed kept
  obtain ⟨l, same⟩ := Option.ne_none_iff_exists'.mp held
  rw [same] at holds
  have file := holds.hasFileAt
  obtain ⟨_, _, _, found⟩ := hasFileAt_iff.mp file
  obtain ⟨entries, there⟩ := exists_directory_of_at? (List.cons_ne_nil _ _) found
  have leads := (realizes.laidOut.allotted placed).leads there
  have removed := removeFile_join leads kept.isName holds.1 file
  have edits := EditsFiles.remove file
  refine ⟨_, removed, ?_⟩
  apply realizes.changes placed kept edits.onlyFilesChange (edits.isWellNamed realizes.wellNamed)
  · intro location apart
    apply surfaceAt?_drop there apart
  · apply at?_drop there

end Realizes

/-! ### A small store -/

/-- A store with a project, in which new lockfiles are saved. -/
def smallStore : Store :=
  ⟨⟨some "/p", "/u", "/s", 0, 1⟩, .project⟩

/-- Where the directories of the small store are made. -/
def smallPlace : Space → List String
  | .project => ["p", ".ai", "lockfiles"]
  | .user => ["u", "lockfiles"]
  | .system => ["s", "lockfiles"]

theorem smallStore_realizes :
  smallStore.Realizes .empty smallPlace fun _ _ => none
  := by
  have allots {path : String} {place : List String} (usable : FileTree.IsUsable path)
      (names : Path.names path = place) (proper : ∀ name ∈ place, FileTree.IsEntryName name) :
      FileTree.Allots .empty path place :=
    ⟨usable, [], [], place, names, rfl, FileTree.GoesDown.empty proper⟩
  refine ⟨by decide, ⟨?_, ?_, ?_⟩, ⟨fun _ _ => rfl, ?_⟩⟩
  · intro space directory placed
    cases space with
    | project =>
        obtain rfl := Option.some.inj placed
        apply allots (by decide +kernel) (by decide +kernel) (by decide)
    | user =>
        obtain rfl := Option.some.inj placed
        apply allots (by decide +kernel) (by decide +kernel) (by decide)
    | system =>
        obtain rfl := Option.some.inj placed
        apply allots (by decide +kernel) (by decide +kernel) (by decide)
  · intro space other _ _ same
    revert same
    cases space <;> cases other <;> decide
  · intro space other _ _ name _ within
    cases space <;> cases other <;> simp [smallPlace] at within
  · intro space directory _ pin _
    cases space with
    | project => rfl
    | user => rfl
    | system => rfl

end Store

end Toolshed.Lock
