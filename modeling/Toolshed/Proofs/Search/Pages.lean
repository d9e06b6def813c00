import Toolshed.Proofs.Search.Filters
import Toolshed.Proofs.Search.Session

/-!
# Pages of a search

The answers to searches that differ in their limit, their offset and their order only are pages of
the same hits.  One after another, the pages show each matching item once.  Filters that break off
at an item leave no answer at all.
-/

namespace Toolshed.Search

/-! ### Matching items -/

/-- An item satisfies the queries of a search. -/
def MeetsQueries (o : Options) (item : Hit) : Prop :=
  (Query.parse (Options.cutQuery o.query)).matchesText o.distance item.searchableText = true
    ∧ ∀ q ∈ o.fields,
      (Query.parse (Options.cutQuery q.2)).matchesText o.distance (item.fieldText q.1) = true

/-- An item satisfies the queries of a search, and passes all its filters. -/
def Matches (o : Options) (item : Hit) : Prop :=
  MeetsQueries o item
    ∧ ∀ filter ∈ o.filters, Filter.passesOne? item.field? filter.1 filter.2 = some true

/-- An item satisfies the queries of a search, and its filters break off. -/
def BreaksOff (o : Options) (item : Hit) : Prop :=
  MeetsQueries o item ∧ Filter.BreakOff item.field? o.filters

theorem matchesHit_iff {o : Options} {item : Hit} :
  (Request.ofOptions o).matchesHit item = true ↔ MeetsQueries o item
  := by
  simp only [Request.matchesHit, Request.ofOptions, MeetsQueries, Bool.and_eq_true,
    List.all_eq_true, List.forall_mem_map]

namespace Engine

variable {o : Options} {item : Hit} {items : List Hit}

theorem shows?_eq_true_iff :
  shows? o (.ofOptions o) item = some true ↔ Matches o item
  := by
  rw [shows?, Matches, ← matchesHit_iff, ← Filter.matches?_eq_true_iff]
  split
  · next meets => simp [meets]
  · next fails => simp [fails]

theorem shows?_eq_none_iff :
  shows? o (.ofOptions o) item = none ↔ BreaksOff o item
  := by
  rw [shows?, BreaksOff, ← matchesHit_iff, ← Filter.matches?_eq_none_iff]
  split
  · next meets => simp [meets]
  · next fails => simp [fails]

instance (o : Options) (item : Hit) : Decidable (Matches o item) :=
  decidable_of_iff _ shows?_eq_true_iff

/-- The hit for an item that matches. -/
def hitFor (o : Options) (item : Hit) : Hit :=
  { item with score := (Request.ofOptions o).scoreOf item }

/-- The hits are those for the matching items, in their order. -/
theorem hitsIn?_eq_some (whole : ∀ item ∈ items, ¬ BreaksOff o item) :
  hitsIn? o (.ofOptions o) items
    = some ((items.filter fun item => Matches o item).map (hitFor o))
  := by
  induction items with
  | nil => rfl
  | cons item items ih =>
      obtain ⟨first, rest⟩ := List.forall_mem_cons.mp whole
      rw [← shows?_eq_none_iff] at first
      rw [hitsIn?, List.filter_cons]
      rcases shown : shows? o (.ofOptions o) item with _ | _ | _
      · cases first shown
      · have fails : ¬ Matches o item := by
          rw [← shows?_eq_true_iff, shown]
          decide
        rw [if_neg (by simpa using fails)]
        apply ih rest
      · have holds : Matches o item := shows?_eq_true_iff.mp shown
        rw [if_pos (by simpa using holds), ih rest]
        rfl

/-- There are no hits if the filters break off at one of the items. -/
theorem hitsIn?_eq_none (among : item ∈ items) (breaks : BreaksOff o item) :
  hitsIn? o (.ofOptions o) items = none
  := by
  induction items with
  | nil => cases among
  | cons first items ih =>
      rw [hitsIn?]
      rcases List.mem_cons.mp among with rfl | among
      · rw [shows?_eq_none_iff.mpr breaks]
      · rw [ih among]
        split <;> rfl

end Engine

/-! ### Orders -/

/-- Hits are ordered by a key, and those with the same key stand as they did. -/
structure IsOrdered (key : Hit → String) (le : String → String → Prop) (found hits : List Hit) :
    Prop where
  ordered : hits.Pairwise fun a b => le (key a) (key b)
  stable : ∀ k, (hits.filter fun hit => key hit = k) = found.filter fun hit => key hit = k

theorem isOrdered_mergeSort (key : Hit → String) {le : String → String → Prop} [DecidableRel le]
    [IsTrans String le] [Std.Total le] (found : List Hit) :
  IsOrdered key le found (found.mergeSort fun a b => decide (le (key a) (key b)))
  := by
  have trans (a b c : Hit) : decide (le (key a) (key b)) = true →
      decide (le (key b) (key c)) = true → decide (le (key a) (key c)) = true := by
    simp only [decide_eq_true_iff]
    apply IsTrans.trans
  have total (a b : Hit) :
      (decide (le (key a) (key b)) || decide (le (key b) (key a))) = true := by
    simp only [Bool.or_eq_true, decide_eq_true_iff]
    apply Std.Total.total
  constructor
  · apply (List.pairwise_mergeSort trans total found).imp
    intro a b
    apply of_decide_eq_true
  · intro k
    -- Hits with the same key are in order, so that sorting keeps them as a sublist.
    have sorted : (found.filter fun hit => key hit = k).Pairwise fun a b =>
        decide (le (key a) (key b)) = true := by
      apply List.pairwise_of_forall_mem_list
      intro a ha b hb
      rw [decide_eq_true_iff, of_decide_eq_true (List.mem_filter.mp ha).2,
        of_decide_eq_true (List.mem_filter.mp hb).2]
      rcases Std.Total.total (r := le) k k with h | h
      · apply h
      · apply h
    have kept := (List.sublist_mergeSort trans total sorted List.filter_sublist).filter
      fun hit => key hit = k
    rw [List.filter_filter] at kept
    simp only [Bool.and_self] at kept
    symm
    apply kept.eq_of_length
    apply ((List.mergeSort_perm found _).filter _).length_eq.symm

/-! ### Pages -/

/-- The options of a search for the same items that shows them in another way. -/
def Options.showing (o : Options) (limit offset : Nat) (order : Order) : Options :=
  { o with limit, offset, order }

/-- The options of a search for a page. -/
def Options.page (o : Options) (i : Nat) : Options :=
  o.showing o.limit (i * clampLimit o.limit maxLimit) o.order

/-- The pieces of a list of one length, one after another, make up its front. -/
theorem flatMap_pieces {α : Type} (xs : List α) (size n : Nat) :
  ((List.range n).flatMap fun i => (xs.drop (i * size)).take size) = xs.take (n * size)
  := by
  induction n with
  | zero => simp
  | succ n ih =>
      rw [List.range_succ, List.flatMap_append, ih, List.flatMap_singleton, Nat.succ_mul,
        List.take_add]

namespace Session

variable {settings : Settings} {host : Host} {events : List Event} {o : Options}

/-- The files do not change during some events. -/
def IsStill (events : List Event) : Prop :=
  ∀ event ∈ events, event.files? = none

theorem trees_of_isStill (still : IsStill events) :
  trees host events = [host.files]
  := by
  rw [trees, List.filterMap_eq_nil_iff.mpr still]

theorem files_of_isStill (still : IsStill events) :
  (run settings host events).host.files = host.files
  := by
  have among := files_mem_trees settings host events
  rw [trees_of_isStill still] at among
  apply List.mem_singleton.mp among

/-- The hits for all matching items, in the order of their candidates. -/
def matching (settings : Settings) (files : FileTree) (o : Options) : List Hit :=
  ((Engine.itemsOf settings files o).filter fun item => Matches o item).map (Engine.hitFor o)

theorem mem_itemsOf {files : FileTree} {item : Hit} :
  item ∈ Engine.itemsOf settings files o ↔ ∃ c, IsCandidate settings files o.kind o.source c
    ∧ Engine.readHit? files o.kind c = some item
  := by
  rw [Engine.itemsOf, List.mem_filterMap]
  simp only [mem_candidates]

theorem mem_matching {files : FileTree} {hit : Hit} :
  hit ∈ matching settings files o ↔ ∃ c item, IsCandidate settings files o.kind o.source c
    ∧ Engine.readHit? files o.kind c = some item ∧ Matches o item ∧ hit = Engine.hitFor o item
  := by
  rw [matching, List.mem_map]
  simp only [List.mem_filter, decide_eq_true_iff, mem_itemsOf]
  constructor
  · rintro ⟨item, ⟨⟨c, candidate, read⟩, holds⟩, rfl⟩
    use c, item
  · rintro ⟨c, item, candidate, read, holds, rfl⟩
    exact ⟨item, ⟨⟨c, candidate, read⟩, holds⟩, rfl⟩

/-- The paths of items are those of the candidates that can be read. -/
theorem map_path_itemsOf_sublist (settings : Settings) (files : FileTree) (o : Options) :
  (Engine.itemsOf settings files o).map Hit.path
    |>.Sublist ((candidates settings files o.kind o.source).map Candidate.path)
  := by
  rw [Engine.itemsOf]
  induction candidates settings files o.kind o.source with
  | nil => apply List.nil_sublist
  | cons c cs ih =>
      rw [List.filterMap_cons]
      split
      · apply ih.cons
      · next item read =>
          rw [List.map_cons, List.map_cons, (Engine.readHit?_eq_some read).2.1]
          apply ih.cons_cons

theorem nodup_matching (wellNamed : host.files.IsWellNamed)
    (apart : SpacesApart settings [host.files]) (o : Options) :
  ((matching settings host.files o).map Hit.path).Nodup
  := by
  rw [matching, List.map_map]
  apply List.Nodup.sublist _ (apart.nodup_candidates wellNamed o.kind o.source)
  apply (List.filter_sublist.map _).trans (map_path_itemsOf_sublist settings host.files o)

/-- As long as the files do not change, an answer has the hits among the items in the files. -/
theorem answer_of_isStill (wellNamed : host.files.IsWellNamed)
    (apart : SpacesApart settings [host.files]) (still : IsStill events) (o : Options) :
  (run settings host events).answer o
    = (Engine.hitsIn? o (.ofOptions o) (Engine.itemsOf settings host.files o)).map
      (Engine.responseTo o)
  := by
  have one : trees host events = [host.files] := trees_of_isStill still
  have tell : FingerprintsTell (trees host events) := by
    rw [one]
    intro tree among other among' path _ _ _
    rw [List.mem_singleton.mp among, List.mem_singleton.mp among']
  have apart' : SearchesApart settings host (events ++ [.search o]) := by
    have one' : trees host (events ++ [.search o]) = [host.files] := by
      apply trees_of_isStill
      intro event among
      rcases List.mem_append.mp among with among | among
      · apply still event among
      · rw [List.mem_singleton.mp among]
        rfl
    apply SearchesApart.of_spacesApart
    · rw [one']
      apply apart
    · rw [one', List.forall_mem_singleton]
      apply wellNamed
  have known := answer_eq tell apart'
  dsimp only at known
  rw [files_of_isStill still] at known
  apply known

/-- An answer shows a part of the hits for the matching items, unless filters break off. -/
theorem answer_eq_some (wellNamed : host.files.IsWellNamed)
    (apart : SpacesApart settings [host.files]) (still : IsStill events)
    (whole : ∀ item ∈ Engine.itemsOf settings host.files o, ¬ BreaksOff o item)
    (limit offset : Nat) (order : Order) :
  (run settings host events).answer (o.showing limit offset order)
    = some (Engine.responseTo (o.showing limit offset order) (matching settings host.files o))
  := by
  rw [answer_of_isStill wellNamed apart still]
  have found := Engine.hitsIn?_eq_some (o := o.showing limit offset order) whole
  change Option.map _ (Engine.hitsIn? _ _ (Engine.itemsOf settings host.files o)) = _
  rw [found]
  rfl

theorem answer_eq_none (wellNamed : host.files.IsWellNamed)
    (apart : SpacesApart settings [host.files]) (still : IsStill events) {item : Hit}
    (among : item ∈ Engine.itemsOf settings host.files o) (breaks : BreaksOff o item)
    (limit offset : Nat) (order : Order) :
  (run settings host events).answer (o.showing limit offset order) = none
  := by
  rw [answer_of_isStill wellNamed apart still]
  have missing := Engine.hitsIn?_eq_none (o := o.showing limit offset order) among breaks
  change Option.map _ (Engine.hitsIn? _ _ (Engine.itemsOf settings host.files o)) = _
  rw [missing]
  rfl

/-- There is no answer if and only if filters break off at an item; otherwise an answer has the
total of all hits for the matching items. -/
theorem answer_showing (wellNamed : host.files.IsWellNamed)
    (apart : SpacesApart settings [host.files]) (still : IsStill events) (limit offset : Nat)
    (order : Order) :
  let answer := (run settings host events).answer (o.showing limit offset order)
  (answer = none ↔ ∃ c item, IsCandidate settings host.files o.kind o.source c
      ∧ Engine.readHit? host.files o.kind c = some item ∧ BreaksOff o item)
    ∧ ∀ response, answer = some response →
      response = Engine.responseTo (o.showing limit offset order) (matching settings host.files o)
  := by
  intro answer
  by_cases whole : ∀ item ∈ Engine.itemsOf settings host.files o, ¬ BreaksOff o item
  · have answered := answer_eq_some wellNamed apart still whole limit offset order
    constructor
    · constructor
      · intro missing
        cases answered.symm.trans missing
      · rintro ⟨c, item, candidate, read, breaks⟩
        cases whole item (mem_itemsOf.mpr ⟨c, candidate, read⟩) breaks
    · intro response same
      apply Option.some.inj (same.symm.trans answered)
  · simp only [not_forall, not_not] at whole
    obtain ⟨item, among, breaks⟩ := whole
    have missing := answer_eq_none wellNamed apart still among breaks limit offset order
    obtain ⟨c, candidate, read⟩ := mem_itemsOf.mp among
    constructor
    · apply iff_of_true missing ⟨c, item, candidate, read, breaks⟩
    · intro response same
      cases missing.symm.trans same

/-- The first pages, one after another, are the hits in order as soon as they have room for all. -/
theorem flatMap_hits (wellNamed : host.files.IsWellNamed)
    (apart : SpacesApart settings [host.files]) {runs : Nat → List Event} {pages : Nat → Response}
    {n : Nat} (answered : ∀ i < n, IsStill (runs i)
      ∧ (run settings host (runs i)).answer (o.page i) = some (pages i))
    (room : (matching settings host.files o).length
      ≤ n * Options.clampLimit o.limit Options.maxLimit) :
  ((List.range n).flatMap fun i => (pages i).hits)
    = inOrder o.order (matching settings host.files o)
  := by
  have length := (Engine.inOrder_perm o.order (matching settings host.files o)).length_eq
  rw [← List.take_of_length_le (length.trans_le room), ← flatMap_pieces]
  apply List.flatMap_congr
  intro i among
  obtain ⟨still, answer⟩ := answered i (List.mem_range.mp among)
  rw [(answer_showing wellNamed apart still _ _ _).2 (pages i) answer]
  rfl

/-- While the files do not change and no path is that of files in two spaces, the answers to
searches that differ in their limit, their offset and their order only are pages of the same hits,
those for the matching items of the candidates, each of them once.  There is no answer if and only
if filters break off at an item.  The total is the number of these hits; the first pages show all of
them as soon as they have room, in the order that is asked for, and alike hits in the order of their
candidates. -/
theorem pages_partition (settings : Settings) {host : Host} (wellNamed : host.files.IsWellNamed)
    (apart : SpacesApart settings [host.files]) (o : Options) :
  let found := matching settings host.files o
  (∀ hit, hit ∈ found ↔ ∃ c item, IsCandidate settings host.files o.kind o.source c
      ∧ Engine.readHit? host.files o.kind c = some item ∧ Matches o item
      ∧ hit = Engine.hitFor o item)
    ∧ (found.map Hit.path).Nodup
    ∧ (∀ events, IsStill events → ∀ limit offset order,
      let answer := (run settings host events).answer (o.showing limit offset order)
      (answer = none ↔ ∃ c item, IsCandidate settings host.files o.kind o.source c
          ∧ Engine.readHit? host.files o.kind c = some item ∧ BreaksOff o item)
        ∧ ∀ response, answer = some response → response.total = found.length)
    ∧ ∀ (runs : Nat → List Event) (pages : Nat → Response) (n : Nat),
      (∀ i < n, IsStill (runs i)
        ∧ (run settings host (runs i)).answer (o.page i) = some (pages i)) →
      found.length ≤ n * Options.clampLimit o.limit Options.maxLimit →
      let shown := (List.range n).flatMap fun i => (pages i).hits
      shown.Perm found
        ∧ (o.order = .name → IsOrdered (fun hit => Text.lower hit.name) (· ≤ ·) found shown)
        ∧ (o.order = .date → IsOrdered Hit.date (· ≥ ·) found shown)
  := by
  intro found
  refine ⟨fun hit => mem_matching, nodup_matching wellNamed apart o, ?_, ?_⟩
  · intro events still limit offset order
    obtain ⟨missing, answered⟩ := answer_showing wellNamed apart still limit offset order
    use missing
    intro response answer
    rw [answered response answer]
    rfl
  · intro runs pages n answered room
    rw [flatMap_hits wellNamed apart answered room]
    refine ⟨Engine.inOrder_perm o.order found, ?_, ?_⟩
    · intro byName
      rw [byName]
      apply isOrdered_mergeSort
    · intro byDate
      rw [byDate]
      apply isOrdered_mergeSort

/-- A search for all tools by their names, one on a page. -/
def oneByOne : Options :=
  { everywhere with limit := 1, order := .name }

/-- The pages before one are asked for. -/
def pagesBefore (o : Options) (i : Nat) : List Event :=
  (List.range i).map fun j => .search (o.page j)

/-- Two pages, asked for one after the other, show the tools of two spaces in order. -/
theorem pages_partition_of_twoTools :
  let host := twoTools "1.0.0" 1
  let found := matching threeSpaces host.files oneByOne
  host.files.IsWellNamed ∧ SpacesApart threeSpaces [host.files] ∧ found.length = 2
    ∧ ∃ first second,
      (run threeSpaces host (pagesBefore oneByOne 0)).answer (oneByOne.page 0) = some first
        ∧ (run threeSpaces host (pagesBefore oneByOne 1)).answer (oneByOne.page 1) = some second
        ∧ first.total = 2 ∧ (first.hits ++ second.hits).Perm found
        ∧ IsOrdered (fun hit => Text.lower hit.name) (· ≤ ·) found (first.hits ++ second.hits)
  := by
  intro host found
  have wellNamed : host.files.IsWellNamed := by decide +kernel
  have apart : SpacesApart threeSpaces [host.files] := by decide +kernel
  have two : found.length = 2 := by decide +kernel
  have still (i : Nat) : IsStill (pagesBefore oneByOne i) := by
    intro event among
    obtain ⟨j, _, rfl⟩ := List.mem_map.mp among
    rfl
  obtain ⟨_, _, totals, partition⟩ := pages_partition threeSpaces wellNamed apart oneByOne
  obtain ⟨first, firstly⟩ := Option.isSome_iff_exists.mp
    (show ((run threeSpaces host (pagesBefore oneByOne 0)).answer (oneByOne.page 0)).isSome
        = true by
      decide +kernel)
  obtain ⟨second, secondly⟩ := Option.isSome_iff_exists.mp
    (show ((run threeSpaces host (pagesBefore oneByOne 1)).answer (oneByOne.page 1)).isSome
        = true by
      decide +kernel)
  have shown := partition (pagesBefore oneByOne) (fun i => if i = 0 then first else second) 2
    (by
      intro i less
      use still i
      rcases i with _ | _ | i
      · apply firstly
      · apply secondly
      · omega)
    (by
      rw [two]
      decide)
  have both : ((List.range 2).flatMap fun i => (if i = 0 then first else second).hits)
      = first.hits ++ second.hits := by
    simp [List.range_succ]
  dsimp only at shown
  rw [both] at shown
  refine ⟨wellNamed, apart, two, first, second, firstly, secondly, ?_, shown.1, shown.2.1 rfl⟩
  rw [← two]
  apply (totals _ (still 0) _ _ _).2 first firstly

end Session

end Toolshed.Search
