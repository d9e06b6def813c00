import Toolshed.Proofs.Search.Pages

/-!
# Items that leave searches without an answer

An item has an answer for every object of filters if and only if its date, if it is longer than ten
bytes, has a character that ends after ten bytes.  Along every run in which this holds of all items,
each search has an answer.  One file with another item is enough for a search that has none.
-/

namespace Toolshed.Filter

open Json

/-! ### Dates that can be cut -/

/-- A date has no more than ten bytes, or a character ends after ten of them. -/
def IsCuttable (date : List Char) : Prop :=
  10 < byteLength date → ∃ front, front <+: date ∧ byteLength front = 10

/-- The date of an item, if it has one, can be cut. -/
def HasCuttableDate (item : Item) : Prop :=
  ∀ date, (item "created_at").bind Value.scalar? = some date → IsCuttable (normalDate date)

theorem isCutInside_iff {date bound : List Char} :
  IsCutInside date bound ↔ byteLength bound = 10 ∧ ¬ IsCuttable date
  := by
  rw [IsCutInside, IsCuttable]
  simp

/-- Filters do not break off at an item whose date can be cut. -/
theorem HasCuttableDate.not_breakOff {item : Item} (cuttable : HasCuttableDate item)
    (filters : Fields) :
  ¬ BreakOff item filters
  := by
  rintro ⟨_, _, _, _, _, _, date, _, dated, _, cut⟩
  apply (isCutInside_iff.mp cut).2 (cuttable date dated)

/-- A filter that asks for dates from a day on. -/
def fromDay : String × Value :=
  ("date_from", .string "2024-01-01")

/-- The filter has an answer just for the items whose date can be cut. -/
theorem matches?_fromDay_eq_none_iff {item : Item} :
  matches? item [fromDay] = none ↔ ¬ HasCuttableDate item
  := by
  have length : byteLength (normalDate "2024-01-01") = 10 := by
    decide +kernel
  rw [fromDay, matches?_singleton, passesOne?_eq_none_iff, BreaksOn, HasCuttableDate]
  simp only [isCutInside_iff, Value.scalar?, Option.some.injEq, exists_and_left, exists_eq_left',
    length, true_or, true_and, not_forall, exists_prop]

/-- An item has an answer for all filters if and only if its date can be cut. -/
theorem forall_isSome_matches?_iff {item : Item} :
  (∀ filters, (matches? item filters).isSome = true) ↔ HasCuttableDate item
  := by
  constructor
  · intro answered
    by_contra uncuttable
    have answered := answered [fromDay]
    rw [matches?_fromDay_eq_none_iff.mpr uncuttable] at answered
    cases answered
  · intro cuttable filters
    rw [Option.isSome_iff_ne_none, ne_eq, matches?_eq_none_iff]
    apply cuttable.not_breakOff

instance (item : Item) : Decidable (HasCuttableDate item) :=
  decidable_of_iff ((matches? item [fromDay]).isSome = true) <| by
    rw [Option.isSome_iff_ne_none, ne_eq, matches?_fromDay_eq_none_iff, not_not]

end Toolshed.Filter

namespace Toolshed.Search

/-- What is searched in some of the spaces is searched in all of them. -/
theorem IsCandidate.everywhere {settings : Settings} {files : FileTree} {kind : ItemKind}
    {source : Source} {c : Candidate} (candidate : IsCandidate settings files kind source c) :
  IsCandidate settings files kind .all c
  := by
  cases candidate with
  | below _ placed here leads plain => apply IsCandidate.below rfl placed here leads plain

namespace Engine

variable {host : Host} {o : Options} {e : Engine} {cs : List Candidate}

/-! ### Items that are taken -/

/-- Files with the same path have the same item, up to its space. -/
theorem readHit?_of_path {files : FileTree} {kind : ItemKind} {c c' : Candidate}
    (same : c'.path = c.path) :
  readHit? files kind c' = (readHit? files kind c).map fun item => { item with space := c'.space }
  := by
  rw [readHit?_eq, readHit?_eq, same, Option.map_map]
  rfl

/-- The space of an item has nothing to do with its date. -/
theorem hasCuttableDate_space (item : Hit) (space : Space) :
  Filter.HasCuttableDate { item with space }.field? ↔ Filter.HasCuttableDate item.field?
  := by
  rfl

/-- Where there are no hits, filters break off at an item that is kept or read. -/
theorem exists_of_hitsAmong?_eq_none
    (missing : (e.hitsAmong? host o (.ofOptions o) cs).1 = none) :
  ∃ item, BreaksOff o item ∧ ((∃ entry ∈ e.hits.entries, entry.value = item)
    ∨ ∃ c ∈ cs, readHit? host.files o.kind c = some item)
  := by
  induction cs generalizing e with
  | nil => cases missing
  | cons c cs ih =>
      have later
          (missing : ((e.hit? host o.kind c).2.hitsAmong? host o (.ofOptions o) cs).1 = none) :
          ∃ item, BreaksOff o item ∧ ((∃ entry ∈ e.hits.entries, entry.value = item)
            ∨ ∃ c' ∈ c :: cs, readHit? host.files o.kind c' = some item) := by
        obtain ⟨item, breaks, ⟨entry, kept, same⟩ | ⟨c', among, read⟩⟩ := ih missing
        · rcases mem_hit? kept with old | new
          · exact ⟨item, breaks, .inl ⟨entry, old, same⟩⟩
          · exact ⟨item, breaks, .inr ⟨c, List.mem_cons_self, same ▸ new.value⟩⟩
        · exact ⟨item, breaks, .inr ⟨c', List.mem_cons_of_mem c among, read⟩⟩
      rw [hitsAmong?_cons] at missing
      rcases taken : (e.hit? host o.kind c).1 with _ | item
      · rw [taken] at missing
        apply later missing
      · rw [taken] at missing
        dsimp only at missing
        rcases shown : shows? o (.ofOptions o) item with _ | _ | _
        · refine ⟨item, shows?_eq_none_iff.mp shown, ?_⟩
          rcases e.hit?_cases host o.kind c with ⟨entry, stored, _, hit⟩ | ⟨e', read, _, _⟩
          · rw [hit] at taken
            left
            use entry, (Cache.mem_of_find? stored).1, Option.some.inj taken
          · rw [read] at taken
            right
            use c, List.mem_cons_self
        · rw [shown] at missing
          apply later missing
        · rw [shown] at missing
          apply later (Option.map_eq_none_iff.mp missing)

/-- There are no hits if filters break off at all that is kept or can be read of a file. -/
theorem hitsAmong?_eq_none {c : Candidate} {item : Hit} (among : c ∈ cs)
    (kept : ∀ entry ∈ e.hits.entries, entry.key = c.path → BreaksOff o entry.value)
    (breaks : ∀ c' item, c'.path = c.path → readHit? host.files o.kind c' = some item →
      BreaksOff o item)
    (read : readHit? host.files o.kind c = some item) :
  (e.hitsAmong? host o (.ofOptions o) cs).1 = none
  := by
  induction cs generalizing e with
  | nil => cases among
  | cons first cs ih =>
      rw [hitsAmong?_cons]
      rcases List.mem_cons.mp among with rfl | among
      · have taken : ∃ item, (e.hit? host o.kind c).1 = some item ∧ BreaksOff o item := by
          rcases e.hit?_cases host o.kind c with ⟨entry, stored, _, hit⟩ | ⟨e', anew, _, _⟩
          · obtain ⟨old, key⟩ := Cache.mem_of_find? stored
            rw [hit]
            exact ⟨entry.value, rfl, kept entry old key⟩
          · rw [anew]
            exact ⟨item, read, breaks c item rfl read⟩
        obtain ⟨item', taken, breaks'⟩ := taken
        rw [taken]
        dsimp only
        rw [shows?_eq_none_iff.mpr breaks']
      · have rest : ((e.hit? host o.kind first).2.hitsAmong? host o (.ofOptions o) cs).1
            = none := by
          apply ih among
          intro entry kept' key
          rcases mem_hit? kept' with old | new
          · apply kept entry old key
          · apply breaks first entry.value (new.key.symm.trans key) new.value
        split
        · apply rest
        · split
          · rfl
          · apply rest
          · rw [rest]
            rfl

/-! ### Searches for dated items -/

/-- The options of a search for all items from a day on. -/
def fromDay (kind : ItemKind) (source : Source) : Options :=
  { Options.default with kind, source, filters := [Filter.fromDay] }

theorem breaksOff_fromDay_iff {kind : ItemKind} {source : Source} {item : Hit} :
  BreaksOff (fromDay kind source) item ↔ ¬ Filter.HasCuttableDate item.field?
  := by
  have all : Query.parse (Options.cutQuery (fromDay kind source).query) = .all := by
    change Query.parse (Options.cutQuery "") = .all
    decide +kernel
  have meets : MeetsQueries (fromDay kind source) item := by
    rw [MeetsQueries, all]
    use rfl
    apply List.forall_mem_nil
  rw [BreaksOff, ← Filter.matches?_eq_none_iff, ← Filter.matches?_fromDay_eq_none_iff]
  exact and_iff_right meets

/-- Searches of a new engine all have an answer if and only if the dates of all items can be cut. -/
theorem forall_isSome_search_iff (settings : Settings) (host : Host) (kind : ItemKind)
    (source : Source) :
  (∀ o, o.kind = kind → o.source = source →
      ((empty settings).search host o).1.isSome = true)
    ↔ ∀ c item, IsCandidate settings host.files kind source c →
      readHit? host.files kind c = some item → Filter.HasCuttableDate item.field?
  := by
  constructor
  · intro answered c item candidate read
    by_contra uncuttable
    have missing : ((empty settings).search host (fromDay kind source)).1 = none := by
      rw [search_fst, Option.map_eq_none_iff]
      apply hitsAmong?_eq_none (mem_candidates.mpr candidate) _ _ read
      · intro entry kept
        cases kept
      · intro c' item' same read'
        change readHit? host.files kind c' = some item' at read'
        rw [readHit?_of_path same, read] at read'
        obtain rfl := Option.some.inj read'
        rw [breaksOff_fromDay_iff, hasCuttableDate_space]
        apply uncuttable
    have answered := answered (fromDay kind source) rfl rfl
    rw [missing] at answered
    cases answered
  · rintro cuttable o rfl rfl
    rw [Option.isSome_iff_ne_none, search_fst, ne_eq, Option.map_eq_none_iff]
    intro missing
    obtain ⟨item, breaks, ⟨_, kept, _⟩ | ⟨c, among, read⟩⟩ := exists_of_hitsAmong?_eq_none missing
    · cases kept
    · apply (cuttable c item (mem_candidates.mp among) read).not_breakOff _ breaks.2

end Engine

namespace Session

variable {settings : Settings} {host : Host} {events : List Event}

/-! ### Searches along a run -/

/-- Every item that is found during a run has a date that can be cut, if it has one. -/
def AllCuttable (settings : Settings) (host : Host) (events : List Event) : Prop :=
  ∀ files ∈ trees host events, ∀ kind source c item, IsCandidate settings files kind source c →
    Engine.readHit? files kind c = some item → Filter.HasCuttableDate item.field?

theorem AllCuttable.of_append {before after : List Event}
    (cuttable : AllCuttable settings host (before ++ after)) :
  AllCuttable settings host before
  := by
  intro files among
  apply cuttable files (mem_trees_append among)

/-- What is kept then has such a date as well. -/
theorem AllCuttable.kept (cuttable : AllCuttable settings host events) :
  ∀ entry ∈ (run settings host events).engine.hits.entries,
    Filter.HasCuttableDate entry.value.field?
  := by
  induction events using List.reverseRecOn with
  | nil =>
      intro entry among
      cases among
  | append_singleton events event ih =>
      intro entry among
      rw [run_concat] at among
      cases event with
      | change files => apply ih cuttable.of_append entry among
      | wait time => apply ih cuttable.of_append entry among
      | search o =>
          rw [step, Engine.search_snd] at among
          rcases Engine.mem_hitsAmong? among with old | ⟨c, listed, read⟩
          · apply ih cuttable.of_append entry old
          · rw [settings_run] at listed
            apply cuttable _ (mem_trees_append (files_mem_trees settings host events)) o.kind
              o.source c _ (mem_candidates.mp listed) read.value
      | clear => cases among

/-- Each search has an answer then. -/
theorem AllCuttable.isSome_answer (cuttable : AllCuttable settings host events) (o : Options) :
  ((run settings host events).answer o).isSome = true
  := by
  rw [Option.isSome_iff_ne_none, answer, Engine.search_fst, ne_eq, Option.map_eq_none_iff]
  intro missing
  obtain ⟨item, breaks, ⟨entry, kept, rfl⟩ | ⟨c, among, read⟩⟩ :=
    Engine.exists_of_hitsAmong?_eq_none missing
  · apply (cuttable.kept entry kept).not_breakOff _ breaks.2
  · rw [settings_run] at among
    have found := cuttable _ (files_mem_trees settings host events) o.kind o.source c item
      (mem_candidates.mp among) read
    apply found.not_breakOff _ breaks.2

/-- An item has no answer if and only if filters break off at it, and it has one for all filters if
and only if its date can be cut.  Searches of a new engine, for a kind of items and a choice of
spaces, all have an answer if and only if the dates of all items of theirs can be cut; and along
every run in which the dates of all items can be cut, each search has an answer. -/
theorem isSome_answer_iff_hasCuttableDate (settings : Settings) :
  (∀ item filters, Filter.matches? item filters = none ↔ Filter.BreakOff item filters)
    ∧ (∀ item, (∀ filters, (Filter.matches? item filters).isSome = true)
      ↔ Filter.HasCuttableDate item)
    ∧ (∀ host kind source,
      (∀ o, o.kind = kind → o.source = source →
          ((Engine.empty settings).search host o).1.isSome = true)
        ↔ ∀ c item, IsCandidate settings host.files kind source c →
          Engine.readHit? host.files kind c = some item → Filter.HasCuttableDate item.field?)
    ∧ ∀ host events, AllCuttable settings host events →
      ∀ o, ((run settings host events).answer o).isSome = true
  := by
  refine ⟨?_, ?_, ?_, ?_⟩
  · intro item filters
    apply Filter.matches?_eq_none_iff
  · intro item
    apply Filter.forall_isSome_matches?_iff
  · intro host kind source
    apply Engine.forall_isSome_search_iff
  · intro host events cuttable o
    apply cuttable.isSome_answer

/-- A machine with one tool of the system, which bears a date. -/
def datedTool (date : String) : Host :=
  let text := "\x7b\"created_at\":\"" ++ date ++ "\"\x7d"
  ⟨.directory [("s", .directory [("tools", .directory [("a.json", .file text.toUTF8 1 false)])])],
    0, []⟩

/-- A session with a usual date answers all searches; with a date that has a letter of two bytes in
the place of the last digit of the day, some search of all tools has no answer. -/
theorem isSome_answer_iff_hasCuttableDate_datedTool :
  (AllCuttable threeSpaces (datedTool "2024-06-01T10:00:00Z") [.wait 1]
      ∧ ∀ o,
        ((run threeSpaces (datedTool "2024-06-01T10:00:00Z") [.wait 1]).answer o).isSome = true)
    ∧ ∃ o, o.kind = .tool ∧ o.source = .all
      ∧ ((Engine.empty threeSpaces).search (datedTool "2024-06-0é and later") o).1 = none
  := by
  obtain ⟨_, _, anew, along⟩ := isSome_answer_iff_hasCuttableDate threeSpaces
  have cuttable : AllCuttable threeSpaces (datedTool "2024-06-01T10:00:00Z") [.wait 1] := by
    intro files among kind source c item candidate read
    obtain rfl := List.mem_singleton.mp among
    have every : ∀ kind,
        ∀ c ∈ candidates threeSpaces (datedTool "2024-06-01T10:00:00Z").files kind .all,
          ∀ item ∈ Engine.readHit? (datedTool "2024-06-01T10:00:00Z").files kind c,
            Filter.HasCuttableDate item.field? := by
      decide +kernel
    apply every kind c (mem_candidates.mpr candidate.everywhere) item read
  have uncuttable :
      ∃ c ∈ candidates threeSpaces (datedTool "2024-06-0é and later").files .tool .all,
        ∃ item ∈ Engine.readHit? (datedTool "2024-06-0é and later").files .tool c,
          ¬ Filter.HasCuttableDate item.field? := by
    decide +kernel
  refine ⟨⟨cuttable, along _ _ cuttable⟩, ?_⟩
  obtain ⟨c, listed, item, read, uncut⟩ := uncuttable
  by_contra answered
  apply uncut
  apply (anew _ .tool .all).mp _ c item (mem_candidates.mp listed) read
  intro o tools everywhere
  rw [Option.isSome_iff_ne_none]
  intro missing
  apply answered ⟨o, tools, everywhere, missing⟩

end Session

end Toolshed.Search
