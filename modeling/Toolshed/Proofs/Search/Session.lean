import Toolshed.Proofs.Search.Hits
import Toolshed.Proofs.Search.Layout
import Mathlib.Data.List.Induction
import Mathlib.Tactic.Use

/-!
# Searching along a run

A session searches for items while time passes and files come, change and go.  What it keeps of a
file was read for one kind of items and one space, and is served for any other as well.  So an
answer is the same as if nothing were kept as long as each file is searched for one kind of items
and in one space only.  Two spaces with the same directory break this, because a hit of one of them
is then shown as a hit of the other.
-/

namespace Toolshed.Search

/-- What happens in a session. -/
inductive Event where
  /-- The files are others from now on. -/
  | change (files : FileTree)
  | wait (time : Nat)
  | search (o : Options)
  | clear

/-- The files that come with an event. -/
def Event.files? : Event → Option FileTree
  | .change files => some files
  | _ => none

/-- A machine, and the engine that searches its files. -/
structure Session where
  host : Host
  engine : Engine

namespace Session

/-- The answer to a search. -/
def answer (s : Session) (o : Options) : Option Response :=
  (s.engine.search s.host o).1

/-- The item that a search takes for a candidate. -/
def item? (s : Session) (kind : ItemKind) (c : Candidate) : Option Hit :=
  (s.engine.hit? s.host kind c).1

/-- The session after an event. -/
def step (s : Session) : Event → Session
  | .change files => { s with host := { s.host with files } }
  | .wait time => { s with host := { s.host with now := s.host.now + time } }
  | .search o => { s with engine := (s.engine.search s.host o).2 }
  | .clear => { s with engine := s.engine.clear }

/-- The session after a run of events, which begins with nothing kept. -/
def run (settings : Settings) (host : Host) (events : List Event) : Session :=
  events.foldl step ⟨host, .empty settings⟩

/-- The files that there are at the start of a run or later. -/
def trees (host : Host) (events : List Event) : List FileTree :=
  host.files :: events.filterMap Event.files?

variable {settings : Settings} {host : Host} {events : List Event}

theorem run_concat (settings : Settings) (host : Host) (events : List Event) (event : Event) :
  run settings host (events ++ [event]) = (run settings host events).step event
  := by
  rw [run, List.foldl_append]
  rfl

theorem mem_trees_append {before after : List Event} {files : FileTree}
    (among : files ∈ trees host before) :
  files ∈ trees host (before ++ after)
  := by
  rw [trees, List.filterMap_append]
  apply List.mem_append_left _ among

theorem files_mem_trees (settings : Settings) (host : Host) (events : List Event) :
  (run settings host events).host.files ∈ trees host events
  := by
  induction events using List.reverseRecOn with
  | nil => apply List.mem_singleton_self
  | append_singleton events event ih =>
      rw [run_concat]
      cases event with
      | change files =>
          rw [trees, List.filterMap_append]
          apply List.mem_cons_of_mem
          apply List.mem_append_right
          apply List.mem_singleton_self
      | _ => apply mem_trees_append ih

theorem settings_run (settings : Settings) (host : Host) (events : List Event) :
  (run settings host events).engine.settings = settings
  := by
  induction events using List.reverseRecOn with
  | nil => rfl
  | append_singleton events event ih =>
      rw [run_concat]
      cases event with
      | search o =>
          rw [step, Engine.search_snd]
          apply Engine.hitsAmong?_settings.trans ih
      | _ => apply ih

/-! ### What is searched -/

/-- In a run, a file is searched for a kind of items. -/
def IsSearched (settings : Settings) (host : Host) (events : List Event) (kind : ItemKind)
    (c : Candidate) : Prop :=
  ∃ before o after, events = before ++ .search o :: after ∧ o.kind = kind
    ∧ c ∈ candidates settings (run settings host before).host.files o.kind o.source

/-- In a run, each file is searched for one kind of items and in one space. -/
def SearchesApart (settings : Settings) (host : Host) (events : List Event) : Prop :=
  ∀ kind c kind' c', IsSearched settings host events kind c →
    IsSearched settings host events kind' c' → c.path = c'.path → kind = kind' ∧ c = c'

theorem IsSearched.append {before : List Event} {kind : ItemKind} {c : Candidate}
    (searched : IsSearched settings host before kind c) (after : List Event) :
  IsSearched settings host (before ++ after) kind c
  := by
  obtain ⟨before, o, after', rfl, same, among⟩ := searched
  exact ⟨before, o, after' ++ after, by simp, same, among⟩

theorem isSearched_last {o : Options} {c : Candidate}
    (among : c ∈ candidates settings (run settings host events).host.files o.kind o.source) :
  IsSearched settings host (events ++ [.search o]) o.kind c
  := by
  exact ⟨events, o, [], rfl, rfl, among⟩

/-- If no path is that of files in two spaces during a run, files are searched apart. -/
theorem SearchesApart.of_spacesApart (apart : SpacesApart settings (trees host events))
    (wellNamed : ∀ files ∈ trees host events, files.IsWellNamed) :
  SearchesApart settings host events
  := by
  rintro kind c kind' c' ⟨before, o, after, split, rfl, listed⟩
    ⟨before', o', after', split', rfl, listed'⟩ same
  apply apart.eq wellNamed _ _ (mem_candidates.mp listed) (mem_candidates.mp listed') same
  · rw [split]
    apply mem_trees_append (files_mem_trees settings host before)
  · rw [split']
    apply mem_trees_append (files_mem_trees settings host before')

/-! ### Where hits come from -/

/-- What is kept was read in a run of a file that was searched. -/
def ReadIn (settings : Settings) (host : Host) (events : List Event) (entry : CacheEntry Hit) :
    Prop :=
  ∃ files ∈ trees host events, ∃ kind c, IsSearched settings host events kind c
    ∧ IsReadOf files kind c entry

theorem ReadIn.append {before : List Event} {entry : CacheEntry Hit}
    (read : ReadIn settings host before entry) (after : List Event) :
  ReadIn settings host (before ++ after) entry
  := by
  obtain ⟨files, among, kind, c, searched, same⟩ := read
  exact ⟨files, mem_trees_append among, kind, c, searched.append after, same⟩

/-- Whatever is kept after a run was read in it. -/
theorem readIn_run (settings : Settings) (host : Host) (events : List Event) :
  ∀ entry ∈ (run settings host events).engine.hits.entries, ReadIn settings host events entry
  := by
  induction events using List.reverseRecOn with
  | nil =>
      intro entry among
      cases among
  | append_singleton events event ih =>
      intro entry among
      rw [run_concat] at among
      cases event with
      | change files => apply (ih entry among).append
      | wait time => apply (ih entry among).append
      | search o =>
          rw [step, Engine.search_snd] at among
          rcases Engine.mem_hitsAmong? among with old | ⟨c, listed, read⟩
          · apply (ih entry old).append
          · rw [settings_run] at listed
            exact ⟨_, mem_trees_append (files_mem_trees settings host events), o.kind, c,
              isSearched_last listed, read⟩
      | clear => cases among

/-- What was read of a file with its present fingerprint is what would be read of it for the same
kind of items and the same space. -/
theorem ReadIn.exists_isSearched {entry : CacheEntry Hit}
    (read : ReadIn settings host events entry) (tell : FingerprintsTell (trees host events))
    {c : Candidate} (key : entry.key = c.path)
    (same : (run settings host events).host.files.fingerprint? c.path = some entry.fingerprint) :
  ∃ c', IsSearched settings host events entry.value.kind c' ∧ c'.path = c.path
    ∧ c'.space = entry.value.space
    ∧ Engine.readHit? (run settings host events).host.files entry.value.kind c' = some entry.value
  := by
  obtain ⟨files, among, kind, c', searched, isRead⟩ := read
  have path : c'.path = c.path := isRead.key.symm.trans key
  obtain ⟨rfl, _, space⟩ := Engine.readHit?_eq_some isRead.value
  refine ⟨c', searched, path, space.symm, ?_⟩
  rw [← isRead.value]
  apply Engine.readHit?_congr
  apply tell _ (files_mem_trees settings host events) files among
  · rw [path]
    apply same
  · apply isRead.fingerprint

/-! ### Answers along a run -/

/-- The item that is taken for a file is the one in it if and only if nothing fresh is kept of the
file for another kind of items or another space. -/
theorem item?_eq_iff (tell : FingerprintsTell (trees host events)) (kind : ItemKind)
    (c : Candidate) :
  let s := run settings host events
  s.item? kind c = Engine.readHit? s.host.files kind c
    ↔ ∀ entry, s.engine.hits.find? c.path = some entry →
      s.engine.hits.isFresh s.host.now (s.host.files.fingerprint? c.path) entry = true →
      entry.value.kind = kind ∧ entry.value.space = c.space
  := by
  intro s
  constructor
  · intro same entry stored fresh
    have served : s.item? kind c = some entry.value := by
      rw [item?, Engine.hit?, Cache.get, stored]
      simp [fresh]
    rw [served] at same
    have labels := Engine.readHit?_eq_some same.symm
    exact ⟨labels.1, labels.2.2⟩
  · intro labelled
    rcases s.engine.hit?_cases s.host kind c with
      ⟨entry, stored, fresh, hit⟩ | ⟨engine, read, _, _⟩
    · obtain ⟨kept, key⟩ := Cache.mem_of_find? stored
      obtain ⟨rfl, space⟩ := labelled entry stored fresh
      obtain ⟨c', _, path, space', read⟩ := (readIn_run settings host events entry kept)
        |>.exists_isSearched tell key (Cache.fingerprint_of_isFresh fresh)
      obtain rfl : c' = c := Candidate.eq_of_path_space path (space'.trans space)
      rw [item?, hit]
      apply read.symm
    · rw [item?, read]

/-- What is kept agrees with the files that are searched next, if files are searched apart. -/
theorem agrees_run {o : Options} (tell : FingerprintsTell (trees host events))
    (apart : SearchesApart settings host (events ++ [.search o])) :
  let s := run settings host events
  s.engine.Agrees s.host.files o.kind (candidates settings s.host.files o.kind o.source)
  := by
  intro s entry kept c listed key same
  obtain ⟨c', searched, path, _, read⟩ :=
    (readIn_run settings host events entry kept).exists_isSearched tell key same
  obtain ⟨kinds, rfl⟩ :=
    apart _ _ _ _ (searched.append [.search o]) (isSearched_last listed) path
  rw [← kinds]
  apply read

theorem isListedOnce_run {o : Options}
    (apart : SearchesApart settings host (events ++ [.search o])) :
  Engine.IsListedOnce
    (candidates settings (run settings host events).host.files o.kind o.source)
  := by
  intro c listed c' listed' path
  apply (apart _ _ _ _ (isSearched_last listed) (isSearched_last listed') path).2

/-- If files are searched apart, an answer has the hits among the items in the files. -/
theorem answer_eq {o : Options} (tell : FingerprintsTell (trees host events))
    (apart : SearchesApart settings host (events ++ [.search o])) :
  let s := run settings host events
  s.answer o = (Engine.hitsIn? o (.ofOptions o) (Engine.itemsOf settings s.host.files o)).map
    (Engine.responseTo o)
  := by
  intro s
  have kept : s.engine.settings = settings := settings_run settings host events
  have agrees : s.engine.Agrees s.host.files o.kind
      (candidates s.engine.settings s.host.files o.kind o.source) := by
    rw [kept]
    apply agrees_run tell apart
  rw [answer, agrees.search_eq (by rw [kept]; apply isListedOnce_run apart), kept]

/-- An engine that keeps nothing finds the hits among the items in the files, if each file is listed
once. -/
theorem search_empty (host : Host) {o : Options}
    (once : Engine.IsListedOnce (candidates settings host.files o.kind o.source)) :
  ((Engine.empty settings).search host o).1
    = (Engine.hitsIn? o (.ofOptions o) (Engine.itemsOf settings host.files o)).map
      (Engine.responseTo o)
  := by
  have agrees : (Engine.empty settings).Agrees host.files o.kind
      (candidates settings host.files o.kind o.source) := by
    intro entry kept
    cases kept
  apply agrees.search_eq once

/-- After every run in which fingerprints tell, the item that a search takes for a file is the one
in it, unless something fresh is kept of the file for another kind of items or another space.  If
each file is searched for one kind of items and in one space, an answer is the one of an engine that
keeps nothing, and all its hits have the kind and a space that were asked for. -/
theorem answer_eq_anew (settings : Settings) (host : Host) (events : List Event)
    (tell : FingerprintsTell (trees host events)) :
  let s := run settings host events
  (∀ kind c, s.item? kind c = Engine.readHit? s.host.files kind c
    ↔ ∀ entry, s.engine.hits.find? c.path = some entry →
      s.engine.hits.isFresh s.host.now (s.host.files.fingerprint? c.path) entry = true →
      entry.value.kind = kind ∧ entry.value.space = c.space)
    ∧ ∀ o, SearchesApart settings host (events ++ [.search o]) →
      s.answer o = ((Engine.empty settings).search s.host o).1
      ∧ ∀ answer, s.answer o = some answer → ∀ hit ∈ answer.hits,
        o.source.includes hit.space = true ∧ hit.kind = o.kind
  := by
  intro s
  constructor
  · intro kind c
    apply item?_eq_iff tell
  · intro o apart
    have known := answer_eq tell apart
    constructor
    · rw [search_empty s.host (isListedOnce_run apart)]
      apply known
    · intro answer answered hit among
      obtain ⟨c, listed, item, read, rfl⟩ :=
        Engine.exists_of_mem_answer (known.symm.trans answered) among
      obtain ⟨kind, _, space⟩ := Engine.readHit?_eq_some read
      constructor
      · rw [← (mem_candidates.mp listed).includes, ← space]
      · apply kind

/-! ### A file that changes -/

/-- The settings for a project and two other spaces. -/
def threeSpaces : Settings :=
  ⟨some "/p", "/u", "/s", 10, 4⟩

/-- A machine with a tool of the project, and one of the user with a version. -/
def twoTools (version : String) (modified : Int) : Host :=
  let text := "\x7b\"version\":\"" ++ version ++ "\"\x7d"
  ⟨.directory [
    ("p", .directory [(".ai", .directory [
      ("tools", .directory [("a.json", .file "\x7b\x7d".toUTF8 1 false)])])]),
    ("u", .directory [
      ("tools", .directory [("b.json", .file text.toUTF8 modified false)])])], 0, []⟩

/-- A search of all spaces for tools. -/
def everywhere : Options :=
  { Options.default with source := .all }

/-- The tool of the user changes between two searches. -/
def changing : List Event :=
  [.search everywhere, .change (twoTools "1.0.1" 2).files, .wait 4, .search everywhere, .wait 4]

/-- Both tools are served as they are kept, and are those that would be found anew. -/
theorem answer_eq_anew_of_changing :
  let s := run threeSpaces (twoTools "1.0.0" 1) changing
  FingerprintsTell (trees (twoTools "1.0.0" 1) changing)
    ∧ SearchesApart threeSpaces (twoTools "1.0.0" 1) (changing ++ [.search everywhere])
    ∧ (∀ path ∈ ["/p/.ai/tools/a.json", "/u/tools/b.json"],
      (s.engine.hits.find? path).any
        (s.engine.hits.isFresh s.host.now (s.host.files.fingerprint? path)) = true)
    ∧ s.answer everywhere = ((Engine.empty threeSpaces).search s.host everywhere).1
  := by
  have tell : FingerprintsTell (trees (twoTools "1.0.0" 1) changing) := by
    apply FingerprintsTell.of_nodes
    decide +kernel
  have apart : SearchesApart threeSpaces (twoTools "1.0.0" 1)
      (changing ++ [.search everywhere]) := by
    apply SearchesApart.of_spacesApart
    · decide +kernel
    · decide +kernel
  obtain ⟨_, same⟩ := answer_eq_anew threeSpaces (twoTools "1.0.0" 1) changing tell
  refine ⟨tell, apart, ?_, ?_⟩
  · decide +kernel
  · apply (same everywhere apart).1

end Session

end Toolshed.Search
