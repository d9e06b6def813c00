import Toolshed.Proofs.Lock.Levels

/-!
# What is observed of a store

The lockfile that a store gives for a pin is the one in the space that takes precedence, and so are
the entries that it lists.  Writing and deleting say whether they can, and change the lockfiles of
the pin that they are about.
-/

namespace Toolshed.Lock

open FileTree

/-! ### One entry for a pin -/

/-- An entry that is added is the first one of its pin, and otherwise it is not found. -/
theorem find?_foldl_addEntry (found entries : List Entry) (pin : Pin) :
  (entries.foldl Store.addEntry found).find? (·.pin = pin)
    = (found ++ entries).find? (·.pin = pin)
  := by
  induction entries generalizing found with
  | nil => rw [List.foldl_nil, List.append_nil]
  | cons entry entries ih =>
      rw [List.foldl_cons, ih, Store.addEntry]
      split
      · next seen =>
          obtain ⟨other, among, same⟩ := List.any_eq_true.mp seen
          rw [List.find?_append, List.find?_append]
          by_cases about : entry.pin = pin
          · have first : (found.find? (·.pin = pin)).isSome = true := by
              apply List.find?_isSome.mpr
              use other, among
              rw [← about]
              apply same
            obtain ⟨e, first⟩ := Option.isSome_iff_exists.mp first
            rw [first, Option.some_or, Option.some_or]
          · rw [List.find?_cons_of_neg]
            rw [decide_eq_true_iff]
            apply about
      · rw [List.append_assoc]
        rfl

theorem nodup_foldl_addEntry {found : List Entry} (entries : List Entry)
    (distinct : (found.map Entry.pin).Nodup) :
  ((entries.foldl Store.addEntry found).map Entry.pin).Nodup
  := by
  induction entries generalizing found with
  | nil => apply distinct
  | cons entry entries ih =>
      rw [List.foldl_cons]
      apply ih
      rw [Store.addEntry]
      split
      · apply distinct
      · next new =>
          rw [List.map_append, List.map_singleton, ← List.concat_eq_append]
          apply distinct.concat
          intro among
          obtain ⟨other, among, same⟩ := List.mem_map.mp among
          apply new
          apply List.any_eq_true.mpr
          use other, among
          rw [decide_eq_true_iff]
          apply same

/-- Among entries of different pins, an entry is the first one of its pin. -/
theorem mem_iff_find? {entries : List Entry} (distinct : (entries.map Entry.pin).Nodup)
    (entry : Entry) :
  entry ∈ entries ↔ entries.find? (·.pin = entry.pin) = some entry
  := by
  constructor
  · intro among
    rcases first : entries.find? (·.pin = entry.pin) with _ | other
    · have different := List.find?_eq_none.mp first entry among
      simp at different
    · have same := List.find?_some first
      rw [decide_eq_true_iff] at same
      rw [first, List.inj_on_of_nodup_map distinct (List.mem_of_find?_eq_some first) among same]
  · apply List.mem_of_find?_eq_some

/-! ### Spaces in order -/

theorem findSome?_filterMap {α β γ : Type} (f : α → Option β) (g : β → Option γ) (xs : List α) :
  (xs.filterMap f).findSome? g = xs.findSome? fun x => (f x).bind g
  := by
  rw [← List.head?_filterMap, List.filterMap_filterMap, List.head?_filterMap]

/-- What is found first is looked at, if that succeeds whatever is found. -/
theorem bind_findSome? {α β γ : Type} {f : α → Option β} {g : β → Option γ} {xs : List α}
    (succeeds : ∀ x b, f x = some b → g b ≠ none) :
  (xs.findSome? f).bind g = xs.findSome? fun x => (f x).bind g
  := by
  induction xs with
  | nil => rfl
  | cons x xs ih =>
      rw [List.findSome?_cons, List.findSome?_cons]
      rcases first : f x with _ | b
      · apply ih
      · obtain ⟨c, found⟩ := Option.ne_none_iff_exists'.mp (succeeds x b first)
        rw [Option.bind_some, found]

namespace Store

variable {s : Store} {files : FileTree} {place : Space → List String} {m : Levels} {pin : Pin}

theorem findSome?_directories {β : Type} (g : String × Space → Option β) :
  s.directories.findSome? g
    = Space.all.findSome? fun space => (s.directory? space).bind fun path => g (path, space)
  := by
  rw [directories, findSome?_filterMap]
  congr 1
  funext space
  apply Option.bind_map

theorem findSome?_places {β : Type} (pin : Pin) (g : String × Space → Option β) :
  (s.places pin).findSome? g = Space.all.findSome? fun space =>
    (s.directory? space).bind fun directory => g (Path.join directory pin.fileName, space)
  := by
  rw [places, List.findSome?_map, findSome?_directories]
  rfl

theorem mem_places {path : String} {space : Space} :
  (path, space) ∈ s.places pin
    ↔ ∃ directory, s.directory? space = some directory ∧ Path.join directory pin.fileName = path
  := by
  simp only [places, directories, List.mem_map, List.mem_filterMap, Option.map_eq_some_iff,
    Prod.exists, Prod.mk.injEq]
  constructor
  · rintro ⟨_, _, ⟨_, _, directory, placed, rfl, rfl⟩, rfl, rfl⟩
    use directory, placed
  · rintro ⟨directory, placed, rfl⟩
    exact ⟨directory, space, ⟨space, Space.mem_all space, directory, placed, rfl, rfl⟩, rfl, rfl⟩

theorem nodup_list (s : Store) (files : FileTree) :
  ((s.list files).map Entry.pin).Nodup
  := by
  rw [list]
  apply nodup_foldl_addEntry
  apply List.nodup_nil

theorem isFile_eq (files : FileTree) (path : String) :
  files.isFile path = (files.content? path).isSome
  := by
  rw [isFile, content?]
  rcases files.find path with fault | ⟨content, modified, isExecutable⟩ | target | entries
  · rfl
  · rfl
  · rfl
  · rfl

theorem read?_eq (files : FileTree) (path : String) :
  read? files path = (files.content? path).bind lockfileOf?
  := by
  rw [read?, isFile_eq, toOption_read]
  rcases files.content? path with _ | content
  · rfl
  · rfl

namespace Realizes

variable (realizes : s.Realizes files place m) (kept : pin.IsKept)

include realizes kept

/-- The file of a pin in a space is read as what is held of it there. -/
theorem content?_join {space : Space} {directory : String}
    (placed : s.directory? space = some directory) :
  (files.content? (Path.join directory pin.fileName)).bind lockfileOf? = m space pin
    ∧ (files.content? (Path.join directory pin.fileName)).isSome = (m space pin).isSome
  := (realizes.shows.holds placed kept).content? (realizes.laidOut.allotted placed) kept

/-- The first lockfile of a pin is the one in the space that takes precedence. -/
theorem get?_eq :
  s.get? files pin = (m.first? pin).map Prod.snd
  := by
  rw [get?, findSome?_places, Levels.first?, List.map_findSome?]
  congr 1
  funext space
  rw [Function.comp_apply, Option.map_map]
  rcases placed : s.directory? space with _ | directory
  · rw [realizes.shows.absent placed]
    rfl
  · rw [Option.bind_some]
    dsimp only
    rw [read?_eq, (realizes.content?_join kept placed).1]
    symm
    apply congrFun Option.map_id

/-- There is a file of a pin exactly if a lockfile is held of it. -/
theorem contains_eq :
  s.contains files pin = (m.first? pin).isSome
  := by
  rw [Bool.eq_iff_iff, contains, List.any_eq_true, Levels.first?, List.findSome?_isSome_iff]
  simp only [Option.isSome_map]
  constructor
  · rintro ⟨⟨path, space⟩, among, isFile⟩
    obtain ⟨directory, placed, rfl⟩ := mem_places.mp among
    rw [isFile_eq, (realizes.content?_join kept placed).2] at isFile
    use space, Space.mem_all space, isFile
  · rintro ⟨space, _, held⟩
    rcases placed : s.directory? space with _ | directory
    · rw [realizes.shows.absent placed] at held
      cases held
    · use (Path.join directory pin.fileName, space), mem_places.mpr ⟨directory, placed, rfl⟩
      rw [isFile_eq, (realizes.content?_join kept placed).2]
      apply held

omit kept

/-- The entries of a directory are those of the pins of which a lockfile is held there. -/
theorem mem_entriesIn {space : Space} {directory : String}
    (placed : s.directory? space = some directory) {entry : Entry} :
  entry ∈ entriesIn files directory space ↔ entry.pin.IsKept ∧ m space entry.pin ≠ none
    ∧ entry = ⟨entry.pin, space, Path.join directory entry.pin.fileName⟩
  := by
  have named {pin : Pin} (kept : pin.IsKept) :
      m space pin ≠ none ↔ files.at? (place space ++ [pin.fileName]) ≠ none := by
    have holds := realizes.shows.holds placed kept
    rcases held : m space pin with _ | l
    · rw [held, HoldsAt] at holds
      simp [holds]
    · rw [held] at holds
      obtain ⟨_, _, _, found⟩ := hasFileAt_iff.mp holds.hasFileAt
      simp [found]
  rw [entriesIn]
  rcases (realizes.laidOut.allotted placed).names_cases with
    ⟨missing, fault, fails⟩ | ⟨entries, there, names⟩
  · rw [fails]
    simp only [List.not_mem_nil, false_iff, not_and]
    intro kept held
    rw [named kept, at?_append, missing] at held
    cases held rfl
  · rw [names]
    have isName {name : String} (among : name ∈ Assoc.keys entries) : Path.IsName name :=
      (isWellNamed_directory.mp (isWellNamed_of_at? realizes.wellNamed there)).1.2 name among
    have among {name : String} : name ∈ Assoc.keys entries
        ↔ files.at? (place space ++ [name]) ≠ none := by
      rw [at?_concat there, child?, ← Option.isSome_iff_ne_none, Assoc.isSome_get?]
    simp only [List.mem_filterMap, Option.map_eq_some_iff]
    constructor
    · rintro ⟨name, found, pin, read, rfl⟩
      have apart := (isName found).no_slash
      obtain rfl := Pin.fileName_of_ofFileName? apart read
      have kept : pin.IsKept := by
        use read
        intro slash
        apply apart
        rw [Pin.toList_fileName]
        simp [slash]
      use kept, (named kept).mpr (among.mp found)
    · rintro ⟨kept, held, same⟩
      use entry.pin.fileName, among.mpr ((named kept).mp held), entry.pin, kept.read
      apply same.symm

/-- The entry of a pin in a directory tells that a lockfile is held there. -/
theorem find?_entriesIn {space : Space} {directory : String}
    (placed : s.directory? space = some directory) (kept : pin.IsKept) :
  (entriesIn files directory space).find? (·.pin = pin)
    = (m space pin).map fun _ => ⟨pin, space, Path.join directory pin.fileName⟩
  := by
  have among {entry : Entry} : entry ∈ entriesIn files directory space ↔ _ :=
    realizes.mem_entriesIn placed
  rcases first : (entriesIn files directory space).find? (·.pin = pin) with _ | entry
  · rw [first]
    rcases held : m space pin with _ | l
    · rfl
    · have listed : ⟨pin, space, Path.join directory pin.fileName⟩
          ∈ entriesIn files directory space := by
        apply among.mpr
        use kept
        simp [held]
      have other := List.find?_eq_none.mp first _ listed
      simp at other
  · have about := List.find?_some first
    rw [decide_eq_true_iff] at about
    obtain ⟨_, held, same⟩ := among.mp (List.mem_of_find?_eq_some first)
    rw [about] at held same
    obtain ⟨l, held⟩ := Option.ne_none_iff_exists'.mp held
    rw [first, held, same]
    rfl

/-- A lockfile is held only in a space that has a directory. -/
theorem exists_directory {space : Space} {l : Lockfile} (held : m space pin = some l) :
  ∃ directory, s.directory? space = some directory
  := by
  rw [← Option.isSome_iff_exists, Option.isSome_iff_ne_none]
  intro missing
  rw [realizes.shows.absent missing] at held
  cases held

/-- The first entry of a pin is that of the space that takes precedence. -/
theorem find?_list (kept : pin.IsKept) :
  (s.list files).find? (·.pin = pin) = (m.first? pin).bind fun held =>
    (s.directory? held.1).map fun path => ⟨pin, held.1, Path.join path pin.fileName⟩
  := by
  have entryIn (space : Space) : ((s.directory? space).bind fun path =>
      (entriesIn files path space).find? (·.pin = pin))
        = (m space pin).bind fun _ => (s.directory? space).map fun path =>
          ⟨pin, space, Path.join path pin.fileName⟩ := by
    rcases placed : s.directory? space with _ | path
    · rw [realizes.shows.absent placed]
      rfl
    · rw [Option.bind_some, realizes.find?_entriesIn placed kept]
      rcases m space pin with _ | l
      · rfl
      · rfl
  rw [list, find?_foldl_addEntry, List.nil_append, List.find?_flatMap, findSome?_directories,
    Levels.first?, bind_findSome?]
  · congr 1
    funext space
    rw [Option.bind_map]
    apply entryIn
  · intro space held found
    obtain ⟨l, held, rfl⟩ := Option.map_eq_some_iff.mp found
    obtain ⟨path, placed⟩ := realizes.exists_directory held
    rw [placed]
    rintro ⟨⟩

theorem isKept_of_mem_list {entry : Entry} (listed : entry ∈ s.list files) :
  entry.pin.IsKept
  := by
  rw [mem_iff_find? (nodup_list s files), list, find?_foldl_addEntry, List.nil_append] at listed
  obtain ⟨⟨path, space⟩, within, among⟩ := List.mem_flatMap.mp (List.mem_of_find?_eq_some listed)
  obtain ⟨space, _, within⟩ := List.mem_filterMap.mp within
  obtain ⟨path, placed, same⟩ := Option.map_eq_some_iff.mp within
  obtain ⟨rfl, rfl⟩ := Prod.mk.inj same
  apply ((realizes.mem_entriesIn placed).mp among).1

/-- The list has an entry for each pin of which a lockfile is held, that of the space that takes
precedence. -/
theorem mem_list {entry : Entry} :
  entry ∈ s.list files ↔ entry.pin.IsKept ∧ ∃ held directory, m.first? entry.pin = some held
    ∧ s.directory? held.1 = some directory
    ∧ entry = ⟨entry.pin, held.1, Path.join directory entry.pin.fileName⟩
  := by
  rw [mem_iff_find? (nodup_list s files)]
  constructor
  · intro first
    have kept := realizes.isKept_of_mem_list (List.mem_of_find?_eq_some first)
    use kept
    rw [realizes.find?_list kept] at first
    obtain ⟨held, found, first⟩ := Option.bind_eq_some_iff.mp first
    obtain ⟨path, placed, same⟩ := Option.map_eq_some_iff.mp first
    use held, path, found, placed, same.symm
  · rintro ⟨kept, held, path, found, placed, same⟩
    rw [realizes.find?_list kept, found, Option.bind_some, placed, Option.map_some, ← same]

/-- There is an entry of a pin exactly if a lockfile is held of it. -/
theorem exists_mem_list (kept : pin.IsKept) :
  (∃ entry ∈ s.list files, entry.pin = pin) ↔ (m.first? pin).isSome = true
  := by
  constructor
  · rintro ⟨entry, listed, rfl⟩
    obtain ⟨_, held, _, found, _⟩ := realizes.mem_list.mp listed
    rw [found]
    rfl
  · intro found
    obtain ⟨held, found⟩ := Option.isSome_iff_exists.mp found
    obtain ⟨space, _, first⟩ := List.exists_of_findSome?_eq_some found
    obtain ⟨l, holds, rfl⟩ := Option.map_eq_some_iff.mp first
    obtain ⟨path, placed⟩ := realizes.exists_directory holds
    refine ⟨⟨pin, space, Path.join path pin.fileName⟩, ?_, rfl⟩
    apply realizes.mem_list.mpr
    exact ⟨kept, (space, l), path, found, placed, rfl⟩

end Realizes

end Store

end Toolshed.Lock
