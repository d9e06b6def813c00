import Toolshed.Proofs.Chain.Candidates
import Toolshed.Proofs.Chain.Freshness
import Toolshed.Proofs.Chain.Reach
import Toolshed.Proofs.Files.Writing

/-!
# Precedence of spaces in chains that are served

A chain that is built anew has the files that its tools resolve to.  A chain that is served was
built earlier, and since then another candidate may have come before the file of a link: nothing
looks for it, except at the exact paths that precede the file of the first link.  As long as only
files come, change and go, this is all that can set a link apart from what its tool resolves to.
-/

namespace Toolshed.Chain

/-- The candidate that the tool of a link resolved to. -/
def Element.candidate (link : Element) : Candidate :=
  ⟨link.path, link.space⟩

/-! ### Overtaking -/

/-- A candidate stands before another one now, and when a chain was built it did not, or has changed
since.  It loads, or it has the same path and takes the place of the other one. -/
structure Overtakes (settings : Settings) (origin files : FileTree) (item : String)
    (link c : Candidate) : Prop where
  before : c ∈ (candidates settings files item).takeWhile (· ≠ link)
  since : c ∈ (candidates settings origin item).takeWhile (· ≠ link) →
    files.fingerprint? c.path ≠ origin.fingerprint? c.path
  counts : (Manifest.inFile? files c.path).isSome = true ∨ Path.same c.path link.path = true

theorem mem_of_mem_takeWhile {before after : List Candidate} {c link : Candidate}
    (h : c ∈ (before ++ link :: after).takeWhile (· ≠ link)) :
  c ∈ before
  := by
  induction before with
  | nil => simp at h
  | cons first before ih =>
      rw [List.cons_append, List.takeWhile_cons] at h
      split at h
      · rcases List.mem_cons.mp h with rfl | h
        · apply List.mem_cons_self
        · apply List.mem_cons_of_mem _ (ih h)
      · cases h

theorem mem_takeWhile_of_not_mem {before after : List Candidate} {c link : Candidate}
    (new : link ∉ before) (other : c ≠ link) :
  c ∈ (before ++ c :: after).takeWhile (· ≠ link)
  := by
  rw [List.takeWhile_append_of_pos]
  · apply List.mem_append_right
    rw [List.takeWhile_cons, if_pos (by simpa using other)]
    apply List.mem_cons_self
  · intro first among
    rw [decide_eq_true_iff]
    rintro rfl
    apply new among

variable {settings : Settings} {item : String} {origin files : FileTree}

/-- A candidate with a file stays listed while only files change, unless a candidate with the same
path takes its place. -/
theorem mem_candidates_of_change (change : origin.OnlyFilesChange files)
    (wellNamed : origin.IsWellNamed) (wellNamed' : files.IsWellNamed) {c : Candidate}
    (isFile : files.isFile c.path = true) {before after : List Candidate}
    (split : candidates settings origin item = before ++ c :: after) :
  c ∈ candidates settings files item ∨
    ((∃ other ∈ candidates settings files item, Path.same other.path c.path = true)
      ∧ ∀ other ∈ before, Path.same other.path c.path = false)
  := by
  have stays {directory : String}
      (h : (directory, c.space) ∈ settings.typeDirectories origin .tool) :
      (directory, c.space) ∈ settings.typeDirectories files .tool := by
    obtain ⟨placed, isDirectory⟩ := Settings.mem_typeDirectories.mp h
    apply Settings.mem_typeDirectories.mpr ⟨placed, change.isDirectory isDirectory⟩
  have listed := listed_candidates settings origin item
  rw [split] at listed
  rcases listed.split with ⟨directory, among, exact, _⟩ | ⟨⟨directory, among, walked⟩, new⟩
  · left
    apply mem_candidates_of_isExact
    use directory, stays among, exact
  · right
    obtain ⟨location, names, leads, file, known, path⟩ := (mem_walkedPaths wellNamed).mp walked
    have nonempty : names ≠ [] := by
      rintro rfl
      cases known
    rw [path] at isFile
    obtain ⟨leads', file'⟩ := change.hasFileAt wellNamed leads file nonempty isFile
    constructor
    · apply exists_mem_candidates_of_isWalked
      use directory, stays among
      apply (mem_walkedPaths wellNamed').mpr
      use location, names, leads', file', known
    · apply new

/-- As long as the file of a candidate is unchanged, a tool that resolved to it still does, unless
another candidate has overtaken it. -/
theorem resolved?_or_overtakes {trees : List FileTree} (tell : FingerprintsTell trees)
    (ho : origin ∈ trees) (hf : files ∈ trees) (change : origin.OnlyFilesChange files)
    (wellNamed : ∀ tree ∈ trees, tree.IsWellNamed) {found : Resolved}
    (resolved : resolved? settings origin item = some found)
    (unchanged : files.fingerprint? found.candidate.path
      = origin.fingerprint? found.candidate.path) :
  (resolved? settings files item).map Resolved.candidate = some found.candidate
    ∨ ∃ c, Overtakes settings origin files item found.candidate c
  := by
  obtain ⟨before, after, split, fails, loads, _⟩ := exists_split_of_firstLoading? resolved
  have still : Manifest.inFile? files found.candidate.path = some found.manifest := by
    rw [tell.inFile?_eq hf ho unchanged, loads]
  have isFile : files.isFile found.candidate.path = true := by
    apply FileTree.isFile_of_inFile?
    rw [still]
    rfl
  -- What loads now and stood before the file when the tool was resolved has changed.
  have changed {c : Candidate} (loads : (Manifest.inFile? files c.path).isSome = true)
      (stood : c ∈ (candidates settings origin item).takeWhile (· ≠ found.candidate)) :
      files.fingerprint? c.path ≠ origin.fingerprint? c.path := by
    intro same
    rw [split] at stood
    rw [tell.inFile?_eq hf ho same, fails c (mem_of_mem_takeWhile stood)] at loads
    cases loads
  by_cases among : found.candidate ∈ candidates settings files item
  · rcases resolved' : resolved? settings files item with _ | found'
    · rw [inFile?_of_firstLoading?_eq_none resolved' _ among] at still
      cases still
    · obtain ⟨before', after', split', fails', loads', _⟩ := exists_split_of_firstLoading? resolved'
      by_cases same : found'.candidate = found.candidate
      · left
        rw [Option.map_some, same]
      · right
        have loads'' : (Manifest.inFile? files found'.candidate.path).isSome = true := by
          rw [loads']
          rfl
        use found'.candidate
        constructor
        · rw [split']
          apply mem_takeWhile_of_not_mem _ same
          intro among
          rw [fails' _ among] at still
          cases still
        · apply changed loads''
        · left
          apply loads''
  · right
    obtain listed | ⟨⟨other, listed, same⟩, new⟩ :=
      mem_candidates_of_change change (wellNamed _ ho) (wellNamed _ hf) isFile split
    · cases among listed
    · use other
      constructor
      · rw [List.takeWhile_eq_self_iff.mpr]
        · apply listed
        · intro c listed
          rw [decide_eq_true_iff]
          rintro rfl
          apply among listed
      · intro stood
        rw [split] at stood
        rw [new other (mem_of_mem_takeWhile stood)] at same
        cases same
      · right
        apply same

/-! ### The first link -/

open Builder (isShadowed Walked)

/-- What was skipped for a chain are the candidates before the file of its first link, none of which
loaded. -/
theorem skipped_of_walkOf {walked : Walked}
    (walk : walkOf settings origin item = .ok (some walked)) :
  ∀ seen ∈ walked.skipped, ∃ path, seen = ⟨path, origin.fingerprint? path⟩
    ∧ Manifest.inFile? origin path = none
  := by
  obtain ⟨found, resolved, skipped⟩ := skipped_of_walkBy walk
  obtain ⟨before, after, split, fails, _, same⟩ := exists_split_of_firstLoading? resolved
  rw [skipped]
  change ∀ seen ∈ found.skipped, _
  rw [same]
  intro seen among
  obtain ⟨c, h, rfl⟩ := List.mem_map.mp among
  use c.path, rfl, fails c h

/-- What has overtaken the first link of a chain that is not shadowed does not precede it at an
exact path. -/
theorem not_precedes_of_overtakes {trees : List FileTree} (tell : FingerprintsTell trees)
    (ho : origin ∈ trees) {host : Host} (hf : host.files ∈ trees) {b : Builder}
    {stored : StoredChain} (built : BuiltFrom b.settings item origin stored) {root : Element}
    (unshadowed : isShadowed host b.settings item root stored.skipped = false) {c : Candidate}
    (overtakes : Overtakes b.settings origin host.files item root.candidate c) :
  ¬ Precedes b.settings host.files item root c.path
  := by
  intro precedes
  have differs : Path.same c.path root.candidate.path = false := by
    obtain ⟨before, space, after, _, _, others⟩ := precedes
    apply others (c.path, space) (List.mem_append_right _ (List.mem_singleton_self _))
  rcases overtakes.counts with loads | same
  · obtain ⟨seen, among, same, stamped⟩ :=
      Builder.not_precedes_of_isShadowed unshadowed precedes (FileTree.isFile_of_inFile? loads)
    obtain ⟨path, rfl, fails⟩ := skipped_of_walkOf built.walk seen among
    obtain ⟨manifest, loads⟩ := Option.isSome_iff_exists.mp loads
    have names : Path.names c.path = Path.names path := by
      rw [Path.same, Bool.and_eq_true, beq_iff_eq, beq_iff_eq] at same
      apply same.2.symm
    rw [tell.inFile?_eq_of_names hf ho names loads stamped.symm] at fails
    cases fails
  · rw [same] at differs
    cases differs

/-! ### Links -/

/-- The chain of a walk is complete: its links are what their tools resolve to. -/
theorem completes_of_walkOf {walked : Walked}
    (walk : walkOf settings origin item = .ok (some walked)) :
  Completes (fun tool found => resolved? settings origin tool = some found) item walked.chain
  := by
  have empty : Leads (fun tool found => resolved? settings origin tool = some found) item
      (⟨[], []⟩ : Walked).chain item := Leads.start
  obtain ⟨chain, last, leads, _, ends⟩ := walkBy_ends empty (Nat.zero_add maxLength)
  rw [← walkOf, walk] at ends
  cases ends with
  | terminal unseen room resolved terminal whole =>
      rw [whole]
      apply Completes.intro leads unseen room resolved terminal

/-- The tool of a link has resolved to its candidate. -/
theorem resolved_of_walkOf {walked : Walked}
    (walk : walkOf settings origin item = .ok (some walked)) {link : Element}
    (among : link ∈ walked.chain) :
  ∃ found, resolved? settings origin link.item = some found ∧ found.candidate = link.candidate
  := by
  obtain ⟨found, resolved, same⟩ := (completes_of_walkOf walk).resolved link among
  use found, resolved
  rw [same]
  rfl

/-- The tools of a chain that files give resolve to the candidates of their links. -/
theorem resolved_of_chainOf {chain : List Element} (given : chainOf settings files item = .ok chain)
    {link : Element} (among : link ∈ chain) :
  (resolved? settings files link.item).map Resolved.candidate = some link.candidate
  := by
  rw [chainOf] at given
  rcases walk : walkOf settings files item with failure | _ | walked
  · rw [walk] at given
    cases given
  · rw [walk] at given
    rw [← Except.ok.inj given] at among
    cases among
  · rw [walk] at given
    rw [← Except.ok.inj given] at among
    obtain ⟨found, resolved, same⟩ := resolved_of_walkOf walk among
    rw [resolved, Option.map_some, same]

/-- The tools of a chain that may be served resolve to the candidates of their links, except for
links that have been overtaken. -/
theorem resolved_or_overtaken {trees : List FileTree} (tell : FingerprintsTell trees)
    (wellNamed : ∀ files ∈ trees, files.IsWellNamed) (ho : origin ∈ trees) {host : Host}
    (hf : host.files ∈ trees) (change : origin.OnlyFilesChange host.files) {b : Builder}
    {stored : StoredChain} (built : BuiltFrom b.settings item origin stored) {root link : Element}
    (first : stored.chain.head? = some root)
    (unshadowed : isShadowed host b.settings item root stored.skipped = false)
    (unchanged : Builder.isUnchanged host stored = true) (among : link ∈ stored.chain) :
  (resolved? b.settings host.files link.item).map Resolved.candidate = some link.candidate ∨
    ((∃ c, Overtakes b.settings origin host.files link.item link.candidate c)
      ∧ (stored.chain.head? = some link →
          ∀ c, Overtakes b.settings origin host.files link.item link.candidate c →
            ¬ Precedes b.settings host.files item link c.path))
  := by
  obtain ⟨found, resolved, same⟩ := resolved_of_walkOf built.walk among
  have still := (Builder.fingerprint?_of_isUnchanged built unchanged among).2
  rw [show link.path = found.candidate.path by rw [same]; rfl] at still
  rw [← same]
  rcases resolved?_or_overtakes tell ho hf change wellNamed resolved still with
    resolves | overtaken
  · left
    apply resolves
  · right
    use overtaken
    intro first' c overtakes
    obtain rfl := Option.some.inj (first.symm.trans first')
    have named : root.item = item := by
      obtain ⟨found', _, head⟩ := head?_of_walkOf built.walk
      apply congrArg Element.item (Option.some.inj (first.symm.trans head))
    rw [named, same] at overtakes
    apply not_precedes_of_overtakes tell ho hf built unshadowed overtakes

/-! ### Chains of a session -/

namespace Session

/-- Only files have changed from the files of a run to those that there are after it, if it is so
from each of these to the next. -/
theorem onlyFilesChange_run {host : Host} {events : List Event}
    (changes : (trees host events).IsChain FileTree.OnlyFilesChange) (settings : Settings)
    {origin : FileTree} (among : origin ∈ trees host events) :
  origin.OnlyFilesChange (run settings host events).host.files
  := by
  obtain ⟨earlier, split⟩ := List.getLast?_eq_some_iff.mp (getLast?_trees settings host events)
  have pairs := List.isChain_iff_pairwise.mp changes
  rw [split] at among pairs
  rcases List.mem_append.mp among with earlier | last
  · apply (List.pairwise_append.mp pairs).2.2 origin earlier
    apply List.mem_singleton_self
  · rw [List.mem_singleton.mp last]
    apply FileTree.OnlyFilesChange.refl

/-- What a tool resolves to after a chain was asked for. -/
def resolvedAfter? (s : Session) (item tool : String) : Option Candidate :=
  ((s.build item false).builder.resolve s.host tool).1.map Resolved.candidate

/-- In every run in which fingerprints tell and only files change, the tools of a chain that is
given resolve to the candidates of their links after that, unless the chain is served and the
candidate of the link has been overtaken since the chain was built.  Nothing has overtaken the first
link at an exact path that precedes its file. -/
theorem resolves_or_overtaken (settings : Settings) {host : Host} {events : List Event}
    (tell : FingerprintsTell (trees host events))
    (wellNamed : ∀ files ∈ trees host events, files.IsWellNamed)
    (changes : (trees host events).IsChain FileTree.OnlyFilesChange) (item : String) :
  let s := run settings host events
  ∀ chain, (s.builder.build s.host item false).1 = .ok chain → ∀ link ∈ chain,
    s.resolvedAfter? item link.item = some link.candidate ∨
      (s.builder.isServed s.host item false = true ∧ ∃ origin, s.origins item = some origin
        ∧ (∃ c, Overtakes settings origin s.host.files link.item link.candidate c)
        ∧ (chain.head? = some link →
            ∀ c, Overtakes settings origin s.host.files link.item link.candidate c →
              ¬ Precedes settings s.host.files item link c.path))
  := by
  have sound := sound_run settings host events tell
  have same := run_settings settings host events
  have change {origin : FileTree} (among : origin ∈ trees host events) :=
    onlyFilesChange_run changes settings among
  generalize run settings host events = s at sound same change
  intro s' chain given link among
  have after := sound.build tell item false
  have resolves : s.resolvedAfter? item link.item
      = (resolved? settings s.host.files link.item).map Resolved.candidate := by
    have result := (Builder.resolve_tells tell after.here link.item after.faithful).result
    rw [show (s.build item false).builder.settings = settings from
      (step_settings s (.build item false)).trans same] at result
    apply congrArg (Option.map Resolved.candidate) result
  rw [resolves]
  cases served : s.builder.isServed s.host item false with
  | false =>
      have fresh := Builder.build_of_not_isServed tell sound.here sound.faithful served
      rw [given, same] at fresh
      left
      apply resolved_of_chainOf fresh.symm among
  | true =>
      obtain ⟨b', _, ⟨_, chain', used, built⟩ | ⟨fresh, _⟩⟩ :=
        Builder.build_cases s.host item false s.builder
      · rw [built] at given
        obtain rfl := Except.ok.inj given
        obtain ⟨stored, root, peeked, rfl, first, unshadowed, unchanged⟩ :=
          Builder.kept?_eq_some used
        obtain ⟨e, entry, rfl⟩ := Cache.peek?_eq_some peeked
        obtain ⟨kept, rfl⟩ := Cache.mem_of_find? entry
        obtain ⟨origin, ho, remembered, built⟩ := sound.built e kept
        rw [← same]
        rcases resolved_or_overtaken tell wellNamed ho sound.here (change ho) built first unshadowed
          unchanged among with resolves | overtaken
        · left
          apply resolves
        · right
          use rfl, origin, remembered, overtaken.1, overtaken.2
      · rw [served] at fresh
        cases fresh

/-! ### Links that are overtaken -/

/-- The tool and its executor, and a user space that has no tools. -/
def twoSpaces : Host :=
  ⟨.directory
    [("s", .directory [("tools", .directory
        [("a.json", textFile "\x7b\"executor_id\":\"b\"\x7d" 1),
          ("b.json", textFile "\x7b\x7d" 1)])]),
      ("u", .directory [("tools", .directory [])])],
    0, []⟩

/-- The files after another executor is written in the user space. -/
def withUserTool : FileTree :=
  twoSpaces.files.put ["u", "tools", "b.json"] (textFile "\x7b\x7d" 2)

/-- The run in which the executor is written after the chain was built. -/
def userToolComes : List Event :=
  [.build "a" false, .change withUserTool]

/-- A tool with some text, and another one that runs through it. -/
def revisedTools (text : String) (modified : Int) : Host :=
  smallHost [("a.json", textFile text modified),
    ("c.json", textFile "\x7b\"executor_id\":\"a\"\x7d" 1)]

/-- The run in which the tool is edited twice after its chain was built, first with another size and
time, and then without a manifest, but with the size and the time that it had. -/
def toolComesBack : List Event :=
  [.build "a" false, .change (revisedTools "\x7b \x7d" 2).files, .build "c" false,
    .change (revisedTools "\x7b\x7b" 1).files]

/-- A chain is given in which the tool of a link resolves to another candidate, or to none. -/
def givesStaleLink (s : Session) (item : String) : Bool :=
  match (s.builder.build s.host item false).1 with
  | .ok chain => chain.any fun link => s.resolvedAfter? item link.item ≠ some link.candidate
  | .error _ => false

/-- An executor comes in a space above, or a tool comes back to a fingerprint that it had, and a
chain with a stale link is given. -/
theorem not_resolves_of_run :
  (run smallSettings twoSpaces userToolComes).givesStaleLink "a" = true
    ∧ (run smallSettings (revisedTools "\x7b\x7d" 1) toolComesBack).givesStaleLink "a" = true
  := by
  decide +kernel

theorem editsFiles_withUserTool :
  FileTree.EditsFiles twoSpaces.files withUserTool
  := by
  have free : twoSpaces.files.IsFree ["u", "tools"] "b.json" := by
    constructor
    · exact ⟨_, rfl⟩
    · rfl
    · decide
  apply FileTree.EditsFiles.create _ _ _ free

/-- The executor that comes in the user space has overtaken the one of the chain that is served. -/
theorem resolves_or_overtaken_of_userTool :
  let s := run smallSettings twoSpaces userToolComes
  ∃ origin, s.origins "a" = some origin ∧ ∃ link : Element, link.item = "b"
    ∧ link.candidate = ⟨"/s/tools/b.json", .system⟩
    ∧ ∃ c, Overtakes smallSettings origin s.host.files link.item link.candidate c
  := by
  have tell : FingerprintsTell (trees twoSpaces userToolComes) := by
    apply FingerprintsTell.of_nodes
    decide +kernel
  have start : twoSpaces.files.IsWellNamed := by
    decide +kernel
  have wellNamed : ∀ files ∈ trees twoSpaces userToolComes, files.IsWellNamed := by
    change ∀ files ∈ [twoSpaces.files, withUserTool], files.IsWellNamed
    rw [List.forall_mem_cons, List.forall_mem_singleton]
    use start, editsFiles_withUserTool.isWellNamed start
  have changes : (trees twoSpaces userToolComes).IsChain FileTree.OnlyFilesChange := by
    apply List.isChain_pair.mpr editsFiles_withUserTool.onlyFilesChange
  have overtaken := resolves_or_overtaken smallSettings tell wellNamed changes "a"
  have links : ((run smallSettings twoSpaces userToolComes).builder.build
      (run smallSettings twoSpaces userToolComes).host "a" false).1.toOption.map
        (List.map fun link => (link.item, link.candidate))
      = some [("a", ⟨"/s/tools/a.json", .system⟩), ("b", ⟨"/s/tools/b.json", .system⟩)] := by
    decide +kernel
  have resolves : (run smallSettings twoSpaces userToolComes).resolvedAfter? "a" "b"
      = some ⟨"/u/tools/b.json", .user⟩ := by
    decide +kernel
  intro s
  rcases given : (s.builder.build s.host "a" false).1 with failure | chain
  · rw [given] at links
    cases links
  · rw [given] at links
    have executor : ("b", (⟨"/s/tools/b.json", .system⟩ : Candidate))
        ∈ chain.map fun link => (link.item, link.candidate) := by
      rw [Option.some.inj links]
      decide
    obtain ⟨link, among, same⟩ := List.mem_map.mp executor
    obtain ⟨named, placed⟩ := Prod.mk.inj same
    rcases overtaken chain given link among
      with resolves' | ⟨_, origin, remembered, ⟨c, overtakes⟩, _⟩
    · have different :
          (⟨"/u/tools/b.json", .user⟩ : Candidate) ≠ ⟨"/s/tools/b.json", .system⟩ := by
        decide
      rw [named, placed, resolves, Option.some.injEq] at resolves'
      cases different resolves'
    · exact ⟨origin, remembered, link, named, placed, c, overtakes⟩

end Session

end Toolshed.Chain
