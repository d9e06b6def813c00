import Toolshed.Search.Engine
import Toolshed.Proofs.Cache.Entries
import Toolshed.Proofs.Files.Fingerprints

/-!
# What a search finds

A search judges the items of its candidates one after another, as they are read or as they are kept.
Where all that is kept of the candidates is what would be read of them, it finds what it would find
if nothing were kept.  Whatever it keeps in addition has been read of one of its candidates.
-/

namespace Toolshed.Search

/-! ### Items in files -/

namespace Engine

variable {files : FileTree} {kind : ItemKind} {c : Candidate}

theorem readHit?_eq (files : FileTree) (kind : ItemKind) (c : Candidate) :
  readHit? files kind c = (files.read c.path).toOption.map fun text =>
    .ofFields kind c.space c.path text
      (((Format.ofItem? kind c.path).bind fun format =>
        (format.fields text.toList).toOption).getD [])
  := by
  rw [readHit?]
  rcases files.read c.path with fault | text
  · rfl
  · rcases Format.ofItem? kind c.path with _ | format
    · rfl
    · rfl

/-- An item depends on the content of its file only. -/
theorem readHit?_congr {other : FileTree} (same : files.content? c.path = other.content? c.path) :
  readHit? files kind c = readHit? other kind c
  := by
  rw [readHit?_eq, readHit?_eq, FileTree.toOption_read, FileTree.toOption_read, same]

/-- An item bears the kind for which it is read, and the path and the space of its file. -/
theorem readHit?_eq_some {hit : Hit} (h : readHit? files kind c = some hit) :
  hit.kind = kind ∧ hit.path = c.path ∧ hit.space = c.space
  := by
  rw [readHit?_eq] at h
  obtain ⟨text, _, rfl⟩ := Option.map_eq_some_iff.mp h
  exact ⟨rfl, rfl, rfl⟩

end Engine

/-! ### Items that are kept -/

/-- What is kept of a file is what is read of it for a kind of items and a space. -/
structure IsReadOf (files : FileTree) (kind : ItemKind) (c : Candidate) (entry : CacheEntry Hit) :
    Prop where
  key : entry.key = c.path
  fingerprint : files.fingerprint? c.path = some entry.fingerprint
  value : Engine.readHit? files kind c = some entry.value

namespace Engine

/-- An item is taken from what is kept, if that is fresh, or it is read, and kept in addition. -/
theorem hit?_cases (host : Host) (kind : ItemKind) (c : Candidate) (e : Engine) :
  (∃ entry, e.hits.find? c.path = some entry
      ∧ e.hits.isFresh host.now (host.files.fingerprint? c.path) entry = true
      ∧ e.hit? host kind c = (some entry.value,
        { e with hits := { e.hits with hits := e.hits.hits + 1 } }))
    ∨ ∃ e', e.hit? host kind c = (readHit? host.files kind c, e') ∧ e'.settings = e.settings
      ∧ ∀ entry ∈ e'.hits.entries,
        entry ∈ e.hits.entries ∨ IsReadOf host.files kind c entry
  := by
  rw [hit?]
  rcases e.hits.get_cases host.now c.path (host.files.fingerprint? c.path) with
    ⟨entry, stored, same, young, hit⟩ | ⟨hits, miss, _, fewer⟩
  · left
    rw [hit]
    refine ⟨entry, stored, ?_, rfl⟩
    rw [Cache.isFresh, Bool.and_eq_true, decide_eq_true_iff, decide_eq_true_iff]
    exact ⟨young, same⟩
  · right
    rw [miss]
    dsimp only
    split
    · next hit fingerprint read current =>
        refine ⟨{ e with hits := hits.insert host.now c.path hit fingerprint }, ?_, rfl, ?_⟩
        · rw [read]
        · intro entry among
          rcases Cache.mem_insert among with ⟨old, _⟩ | rfl
          · left
            apply (fewer entry old).1
          · right
            exact ⟨rfl, current, read⟩
    · refine ⟨{ e with hits := hits }, rfl, rfl, ?_⟩
      intro entry among
      left
      apply (fewer entry among).1

variable {host : Host} {kind : ItemKind} {e : Engine}

theorem hit?_settings (c : Candidate) :
  (e.hit? host kind c).2.settings = e.settings
  := by
  rcases e.hit?_cases host kind c with ⟨_, _, _, hit⟩ | ⟨e', read, same, _⟩
  · rw [hit]
  · rw [read, same]

/-- What is kept after an item is taken was kept before, or has been read. -/
theorem mem_hit? {c : Candidate} {entry : CacheEntry Hit}
    (among : entry ∈ (e.hit? host kind c).2.hits.entries) :
  entry ∈ e.hits.entries ∨ IsReadOf host.files kind c entry
  := by
  rcases e.hit?_cases host kind c with ⟨_, _, _, hit⟩ | ⟨e', read, _, new⟩
  · rw [hit] at among
    left
    apply among
  · rw [read] at among
    apply new entry among

/-- What is kept of the files of some candidates, and is fresh, is what would be read of them. -/
def Agrees (e : Engine) (files : FileTree) (kind : ItemKind) (all : List Candidate) : Prop :=
  ∀ entry ∈ e.hits.entries, ∀ c ∈ all, entry.key = c.path →
    files.fingerprint? c.path = some entry.fingerprint →
    readHit? files kind c = some entry.value

/-- A file is a candidate once. -/
def IsListedOnce (all : List Candidate) : Prop :=
  ∀ c ∈ all, ∀ c' ∈ all, c.path = c'.path → c = c'

section

variable {all : List Candidate} {c : Candidate}

/-- Where what is kept agrees with the files, an item is the one in its file. -/
theorem Agrees.hit?_eq (agrees : e.Agrees host.files kind all) (among : c ∈ all) :
  (e.hit? host kind c).1 = readHit? host.files kind c
  := by
  rcases e.hit?_cases host kind c with ⟨entry, stored, fresh, hit⟩ | ⟨e', read, _, _⟩
  · obtain ⟨kept, key⟩ := Cache.mem_of_find? stored
    rw [hit, agrees entry kept c among key (Cache.fingerprint_of_isFresh fresh)]
  · rw [read]

/-- What is kept in addition agrees with the files as well. -/
theorem Agrees.hit? (agrees : e.Agrees host.files kind all) (once : IsListedOnce all)
    (among : c ∈ all) :
  (e.hit? host kind c).2.Agrees host.files kind all
  := by
  intro entry kept c' among' key same
  rcases mem_hit? kept with old | new
  · apply agrees entry old c' among' key same
  · obtain rfl := once c among c' among' (new.key.symm.trans key)
    apply new.value

end

/-! ### Judging the items -/

/-- An item is shown.  There is no answer when its date cannot be compared. -/
def shows? (o : Options) (r : Request) (hit : Hit) : Option Bool :=
  if r.matchesHit hit then Filter.matches? hit.field? o.filters else some false

/-- The hits among some items. -/
def hitsIn? (o : Options) (r : Request) : List Hit → Option (List Hit)
  | [] => some []
  | hit :: hits =>
    match shows? o r hit with
    | none => none
    | some false => hitsIn? o r hits
    | some true => (hitsIn? o r hits).map ({ hit with score := r.scoreOf hit } :: ·)

theorem hitsAmong?_cons (host : Host) (o : Options) (r : Request) (c : Candidate)
    (cs : List Candidate) (e : Engine) :
  e.hitsAmong? host o r (c :: cs)
    = match (e.hit? host o.kind c).1 with
      | none => (e.hit? host o.kind c).2.hitsAmong? host o r cs
      | some hit =>
        match shows? o r hit with
        | none => (none, (e.hit? host o.kind c).2)
        | some false => (e.hit? host o.kind c).2.hitsAmong? host o r cs
        | some true =>
          (((e.hit? host o.kind c).2.hitsAmong? host o r cs).1.map
              ({ hit with score := r.scoreOf hit } :: ·),
            ((e.hit? host o.kind c).2.hitsAmong? host o r cs).2)
  := by
  rw [hitsAmong?]
  rcases e.hit? host o.kind c with ⟨_ | hit, e'⟩
  · rfl
  · have same : (if r.matchesHit hit then Filter.matches? hit.field? o.filters else some false)
        = shows? o r hit := rfl
    rcases shown : shows? o r hit with _ | _ | _
    · simp only [same, shown]
    · simp only [same, shown]
    · simp only [same, shown]

section

variable {host : Host} {o : Options} {r : Request} {e : Engine} {cs : List Candidate}

/-- Where what is kept agrees with the files, the hits are those among the items in the files. -/
theorem Agrees.hitsAmong?_eq {all : List Candidate}
    (agrees : e.Agrees host.files o.kind all) (once : IsListedOnce all)
    (among : ∀ c ∈ cs, c ∈ all) :
  (e.hitsAmong? host o r cs).1 = hitsIn? o r (cs.filterMap (readHit? host.files o.kind))
  := by
  induction cs generalizing e with
  | nil => rfl
  | cons c cs ih =>
      rw [List.forall_mem_cons] at among
      have same := agrees.hit?_eq among.1
      have rest := ih (agrees.hit? once among.1) among.2
      rw [hitsAmong?_cons, same, List.filterMap_cons]
      rcases readHit? host.files o.kind c with _ | hit
      · apply rest
      · dsimp only
        rw [hitsIn?]
        rcases shows? o r hit with _ | _ | _
        · rfl
        · apply rest
        · dsimp only
          rw [rest]

/-- The candidates behind the first one are judged with what is kept then, or not at all. -/
theorem hitsAmong?_cons_engine (host : Host) (o : Options) (r : Request) (c : Candidate)
    (cs : List Candidate) (e : Engine) :
  (e.hitsAmong? host o r (c :: cs)).2 = (e.hit? host o.kind c).2
    ∨ (e.hitsAmong? host o r (c :: cs)).2 = ((e.hit? host o.kind c).2.hitsAmong? host o r cs).2
  := by
  rw [hitsAmong?_cons]
  rcases (e.hit? host o.kind c).1 with _ | hit
  · right
    rfl
  · dsimp only
    rcases shows? o r hit with _ | _ | _
    · left
      rfl
    · right
      rfl
    · right
      rfl

/-- What is kept after candidates are judged was kept before, or has been read of one of them. -/
theorem mem_hitsAmong? {entry : CacheEntry Hit}
    (kept : entry ∈ (e.hitsAmong? host o r cs).2.hits.entries) :
  entry ∈ e.hits.entries ∨ ∃ c ∈ cs, IsReadOf host.files o.kind c entry
  := by
  induction cs generalizing e with
  | nil => exact .inl kept
  | cons c cs ih =>
      have first (among : entry ∈ (e.hit? host o.kind c).2.hits.entries) :
          entry ∈ e.hits.entries ∨ ∃ c' ∈ c :: cs, IsReadOf host.files o.kind c' entry := by
        rcases mem_hit? among with old | new
        · exact .inl old
        · exact .inr ⟨c, List.mem_cons_self, new⟩
      rcases hitsAmong?_cons_engine host o r c cs e with same | same
      · rw [same] at kept
        apply first kept
      · rw [same] at kept
        rcases ih kept with old | ⟨c', among, new⟩
        · apply first old
        · exact .inr ⟨c', List.mem_cons_of_mem c among, new⟩

theorem hitsAmong?_settings :
  (e.hitsAmong? host o r cs).2.settings = e.settings
  := by
  induction cs generalizing e with
  | nil => rfl
  | cons c cs ih =>
      rcases hitsAmong?_cons_engine host o r c cs e with same | same
      · rw [same, hit?_settings]
      · rw [same, ih, hit?_settings]

end

/-- The hits among some items are some of them, with a score. -/
theorem exists_of_mem_hitsIn? {o : Options} {r : Request} {items hits : List Hit}
    (h : hitsIn? o r items = some hits) {hit : Hit} (among : hit ∈ hits) :
  ∃ item ∈ items, hit = { item with score := r.scoreOf item }
  := by
  induction items generalizing hits with
  | nil =>
      cases h
      cases among
  | cons item items ih =>
      have later {hits : List Hit} (h : hitsIn? o r items = some hits) (among : hit ∈ hits) :
          ∃ item' ∈ item :: items, hit = { item' with score := r.scoreOf item' } := by
        obtain ⟨item', among', same⟩ := ih h among
        exact ⟨item', List.mem_cons_of_mem item among', same⟩
      rw [hitsIn?] at h
      split at h
      · cases h
      · apply later h among
      · obtain ⟨others, rest, rfl⟩ := Option.map_eq_some_iff.mp h
        rcases List.mem_cons.mp among with rfl | among
        · exact ⟨item, List.mem_cons_self, rfl⟩
        · apply later rest among

/-! ### Searches -/

/-- Hits in an order are the same hits. -/
theorem inOrder_perm (order : Order) (hits : List Hit) :
  (inOrder order hits).Perm hits
  := by
  cases order with
  | score => apply List.mergeSort_perm
  | date => apply List.mergeSort_perm
  | name => apply List.mergeSort_perm

/-- The answer to a search whose hits are known. -/
def responseTo (o : Options) (hits : List Hit) : Response :=
  let limit := Options.clampLimit o.limit Options.maxLimit
  ⟨((inOrder o.order hits).drop o.offset).take limit, hits.length, Options.cutQuery o.query, o.kind,
    o.source, limit, o.offset⟩

/-- The items in the files that a search goes through. -/
def itemsOf (s : Settings) (files : FileTree) (o : Options) : List Hit :=
  (candidates s files o.kind o.source).filterMap (readHit? files o.kind)

theorem search_fst (host : Host) (o : Options) (e : Engine) :
  (e.search host o).1
    = (e.hitsAmong? host o (.ofOptions o)
      (candidates e.settings host.files o.kind o.source)).1.map (responseTo o)
  := by
  rfl

theorem search_snd (host : Host) (o : Options) (e : Engine) :
  (e.search host o).2
    = (e.hitsAmong? host o (.ofOptions o) (candidates e.settings host.files o.kind o.source)).2
  := by
  rfl

/-- Where what is kept agrees with the files, a search finds the hits among the items in the
files. -/
theorem Agrees.search_eq {host : Host} {o : Options} {e : Engine}
    (agrees : e.Agrees host.files o.kind (candidates e.settings host.files o.kind o.source))
    (once : IsListedOnce (candidates e.settings host.files o.kind o.source)) :
  (e.search host o).1
    = (hitsIn? o (.ofOptions o) (itemsOf e.settings host.files o)).map (responseTo o)
  := by
  rw [search_fst, agrees.hitsAmong?_eq once fun _ among => among]
  rfl

/-- A hit of an answer has been read of a candidate. -/
theorem exists_of_mem_answer {s : Settings} {files : FileTree} {o : Options} {answer : Response}
    (h : (hitsIn? o (.ofOptions o) (itemsOf s files o)).map (responseTo o) = some answer)
    {hit : Hit} (among : hit ∈ answer.hits) :
  ∃ c ∈ candidates s files o.kind o.source, ∃ item, readHit? files o.kind c = some item
    ∧ hit = { item with score := (Request.ofOptions o).scoreOf item }
  := by
  obtain ⟨hits, found, rfl⟩ := Option.map_eq_some_iff.mp h
  have listed := (inOrder_perm o.order hits).mem_iff.mp
    (List.mem_of_mem_drop (List.mem_of_mem_take among))
  obtain ⟨item, present, same⟩ := exists_of_mem_hitsIn? found listed
  obtain ⟨c, candidate, read⟩ := List.mem_filterMap.mp present
  exact ⟨c, candidate, item, read, same⟩

end Engine

end Toolshed.Search
