import Toolshed.Proofs.Chain.Session
import Mathlib.Data.List.Basic

/-!
# When a chain that is kept is fresh

A chain that is kept may be used as long as its tools have the candidates, and these the
fingerprints, that they had when it was built; then it is the chain that would be built anew.  It
is not used any more once the file of a link has changed or has vanished, or once another file has
come that is preferred over the first one.
-/

namespace Toolshed.Chain

/-! ### Files that are preferred -/

/-- The exact paths of a tool with their spaces, by space and then by extension. -/
def exactFiles (item : String) (directories : List (String × Space)) : List (String × Space) :=
  directories.flatMap fun directory =>
    (exactPaths item directory.1).map fun path => (path, directory.2)

/-- An exact path of a tool precedes the file of a link by space and then by extension: its space is
not below the space of the link, and it stands before the file of the link wherever that stands
among the exact paths.  (An absolute tool has the same exact paths in all spaces, and the first
place of a file counts.) -/
def Precedes (settings : Settings) (files : FileTree) (item : String) (root : Element)
    (path : String) : Prop :=
  ∃ before space after,
    exactFiles item (settings.typeDirectories files .tool) = before ++ (path, space) :: after
      ∧ root.space.rank ≤ space.rank
      ∧ ∀ other ∈ before ++ [(path, space)], Path.same other.1 root.path = false

/-- The directories of the spaces stand by rank. -/
theorem typeDirectories_pairwise (settings : Settings) (files : FileTree) (kind : ItemKind) :
  (settings.typeDirectories files kind).Pairwise fun first second => second.2.rank < first.2.rank
  := by
  rw [Settings.typeDirectories, List.pairwise_filterMap]
  have ranks : Space.all.Pairwise fun first second => second.rank < first.rank := by decide
  apply ranks.imp
  intro space space' lower directory h directory' h'
  obtain ⟨_, _, rfl⟩ := Option.map_eq_some_iff.mp h
  obtain ⟨_, _, rfl⟩ := Option.map_eq_some_iff.mp h'
  apply lower

/-- The directories up to the one of a space are followed by those of lower spaces only. -/
theorem directoriesUpTo_append (space : Space) {directories : List (String × Space)}
    (ranks : directories.Pairwise fun first second => second.2.rank < first.2.rank) :
  ∃ lower, directories = Builder.directoriesUpTo space directories ++ lower
    ∧ ∀ directory ∈ lower, directory.2.rank < space.rank
  := by
  induction directories with
  | nil =>
      use []
      simp [Builder.directoriesUpTo]
  | cons directory directories ih =>
      obtain ⟨first, rest⟩ := List.pairwise_cons.mp ranks
      by_cases same : directory.2 = space
      · use directories
        simp only [Builder.directoriesUpTo, List.takeWhile_cons, List.dropWhile_cons, same]
        constructor
        · simp
        · rw [← same]
          apply first
      · obtain ⟨lower, split, below⟩ := ih rest
        use lower
        constructor
        · simp only [Builder.directoriesUpTo, List.takeWhile_cons, List.dropWhile_cons] at split ⊢
          simp only [ne_eq, same, not_false_eq_true, decide_true, if_true, List.cons_append]
          congr 1
        · apply below

theorem map_fst_exactFiles (item : String) (directories : List (String × Space)) :
  (exactFiles item directories).map Prod.fst
    = directories.flatMap fun directory => exactPaths item directory.1
  := by
  simp [exactFiles, List.map_flatMap, Function.comp_def]

theorem mem_exactFiles {item path : String} {space : Space} {directories : List (String × Space)}
    (h : (path, space) ∈ exactFiles item directories) :
  ∃ directory ∈ directories, directory.2 = space
  := by
  obtain ⟨directory, among, h⟩ := List.mem_flatMap.mp h
  obtain ⟨_, _, same⟩ := List.mem_map.mp h
  use directory, among
  apply congrArg Prod.snd same

/-- What precedes the file of a link is preferred over it. -/
theorem mem_preferredPaths {settings : Settings} {files : FileTree} {item path : String}
    {root : Element} (precedes : Precedes settings files item root path) :
  path ∈ Builder.preferredPaths (settings.typeDirectories files .tool) item root
  := by
  obtain ⟨before, space, after, places, rank, others⟩ := precedes
  obtain ⟨lower, split, below⟩ :=
    directoriesUpTo_append root.space (typeDirectories_pairwise settings files .tool)
  rw [Builder.preferredPaths, ← map_fst_exactFiles]
  generalize Builder.directoriesUpTo root.space (settings.typeDirectories files .tool) = upper at *
  rw [split, exactFiles, List.flatMap_append, ← exactFiles, ← exactFiles] at places
  have notBelow : (path, space) ∉ exactFiles item lower := by
    intro h
    obtain ⟨directory, among, same⟩ := mem_exactFiles h
    have := below directory among
    rw [same] at this
    omega
  have last : (path, space) ∈ before ++ [(path, space)] :=
    List.mem_append_right _ (List.mem_singleton_self _)
  rcases List.append_eq_append_iff.mp places with ⟨rest, _, h⟩ | ⟨_ | ⟨first, rest⟩, h, h'⟩
  · exfalso
    apply notBelow
    rw [h]
    apply List.mem_append_right _ List.mem_cons_self
  · exfalso
    apply notBelow
    rw [List.nil_append] at h'
    rw [← h']
    apply List.mem_cons_self
  · rw [List.cons_append, List.cons.injEq] at h'
    rw [h, ← h'.1, List.append_cons, List.map_append, List.takeWhile_append_of_pos]
    · apply List.mem_append_left
      apply List.mem_map_of_mem last
    · intro other h
      obtain ⟨place, among, rfl⟩ := List.mem_map.mp h
      simpa using others place among

/-! ### Chains out of date -/

/-- A chain is out of date when the file of a link has changed or has vanished since the chain was
built, or when a file precedes that of the first link and was not recorded, under the fingerprint
that it has, as one that does not load. -/
inductive Outdated (settings : Settings) (origin files : FileTree) (item : String)
    (stored : StoredChain) : Prop where
  | changed {link : Element} (among : link ∈ stored.chain)
      (change : files.fingerprint? link.path ≠ origin.fingerprint? link.path)
  | vanished {link : Element} (among : link ∈ stored.chain)
      (missing : files.fingerprint? link.path = none)
  | shadowed {root : Element} {path : String} (first : stored.chain.head? = some root)
      (precedes : Precedes settings files item root path) (isFile : files.isFile path = true)
      (unrecorded : ∀ seen ∈ stored.skipped, Path.same seen.path path = true →
        seen.fingerprint ≠ files.fingerprint? path)

namespace Builder

variable {host : Host} {item : String} {b : Builder} {origin : FileTree} {stored : StoredChain}

/-- The files of a chain that is unchanged have the fingerprints that they had. -/
theorem fingerprint?_of_isUnchanged (built : BuiltFrom b.settings item origin stored)
    (unchanged : isUnchanged host stored = true) {link : Element} (among : link ∈ stored.chain) :
  (origin.fingerprint? link.path).isSome = true
    ∧ host.files.fingerprint? link.path = origin.fingerprint? link.path
  := by
  rw [isUnchanged, built.fingerprints, ← List.map_prod_left_eq_zip, List.all_map,
    List.all_eq_true] at unchanged
  simpa using unchanged link among

/-- No file that is not recorded precedes that of a root that is not shadowed. -/
theorem not_precedes_of_isShadowed {root : Element} {skipped : List SeenFile} {path : String}
    (unshadowed : isShadowed host b.settings item root skipped = false)
    (precedes : Precedes b.settings host.files item root path)
    (isFile : host.files.isFile path = true) :
  ∃ seen ∈ skipped, Path.same seen.path path = true
    ∧ seen.fingerprint = host.files.fingerprint? path
  := by
  rw [isShadowed, List.any_eq_false] at unshadowed
  have := unshadowed path (mem_preferredPaths precedes)
  rw [isFile, Bool.true_and, Bool.not_eq_true, Bool.not_eq_false', isStillSkipped,
    List.any_eq_true] at this
  obtain ⟨seen, among, h⟩ := this
  simp only [Bool.and_eq_true, decide_eq_true_eq] at h
  use seen, among, h.1.1
  rw [h.2]

/-- A chain that is out of date is not used. -/
theorem kept?_of_outdated (peeked : b.chains.peek? item = some stored)
    (built : BuiltFrom b.settings item origin stored)
    (outdated : Outdated b.settings origin host.files item stored) :
  (b.kept? host item).1 = none
  := by
  rw [Option.eq_none_iff_forall_ne_some]
  intro chain used
  obtain ⟨stored', root, peeked', rfl, first, unshadowed, unchanged⟩ := kept?_eq_some used
  obtain rfl : stored = stored' := Option.some.inj (peeked.symm.trans peeked')
  cases outdated with
  | changed among change =>
      apply change (fingerprint?_of_isUnchanged built unchanged among).2
  | vanished among missing =>
      obtain ⟨stamped, same⟩ := fingerprint?_of_isUnchanged built unchanged among
      rw [← same, missing] at stamped
      cases stamped
  | shadowed first' precedes isFile unrecorded =>
      obtain rfl := Option.some.inj (first.symm.trans first')
      obtain ⟨seen, among, path, fingerprint⟩ :=
        not_precedes_of_isShadowed unshadowed precedes isFile
      apply unrecorded seen among path fingerprint

end Builder

/-! ### Runs -/

namespace Session

/-- A chain that is kept for a tool was built from files of the run.  The chain that is given is
the one that would be built anew if the tools in the chain that is kept have the candidates and the
fingerprints that they had in those files; and so it is if the chain is out of date, which then is
not served. -/
theorem build_eq_anew {settings : Settings} {host : Host} {events : List Event} {item : String}
    {stored : StoredChain} (tell : FingerprintsTell (trees host events))
    (kept : (run settings host events).builder.chains.peek? item = some stored) :
  let s := run settings host events
  let built := fun anew => (s.builder.build s.host item anew).1
  ∃ origin ∈ trees host events, s.origins item = some origin
    ∧ BuiltFrom settings item origin stored
    ∧ ((∀ link ∈ stored.chain, SameCandidates settings origin s.host.files link.item) →
        built false = built true)
    ∧ (Outdated settings origin s.host.files item stored →
        s.builder.isServed s.host item false = false ∧ built false = built true)
  := by
  have sound := sound_run settings host events tell
  have same := run_settings settings host events
  generalize run settings host events = s at kept sound same
  obtain ⟨e, found, value⟩ := Cache.peek?_eq_some kept
  obtain ⟨among, key⟩ := Cache.mem_of_find? found
  obtain ⟨origin, ho, remembered, built⟩ := sound.built e among
  rw [key] at remembered built
  rw [value] at built
  have fresh (anew : Bool) (h : s.builder.isServed s.host item anew = false) :=
    Builder.build_of_not_isServed tell sound.here sound.faithful h
  use origin, ho, remembered
  rw [← same]
  refine ⟨built, ?_, ?_⟩
  · intro candidates
    dsimp only
    rw [fresh true rfl, built.chainOf_congr tell ho sound.here candidates]
    cases served : s.builder.isServed s.host item false with
    | true =>
        obtain ⟨stored', kept', given⟩ := Builder.build_of_isServed served
        rw [given, Option.some.inj (kept'.symm.trans kept)]
    | false => rw [fresh false served, built.chainOf_congr tell ho sound.here candidates]
  · intro outdated
    have served : s.builder.isServed s.host item false = false := by
      rw [Builder.isServed, Builder.kept?_of_outdated kept built outdated]
      rfl
    use served
    dsimp only
    rw [fresh true rfl, fresh false served]

/-! ### Two runs -/

/-- The tool, its executor, and a neighbour of both. -/
def threeTools : Host :=
  smallHost [("a.json", textFile "\x7b\"executor_id\":\"b\"\x7d" 1),
    ("b.json", textFile "\x7b\x7d" 1), ("c.json", textFile "\x7b\x7d" 1)]

/-- The tool, and its executor with another text. -/
def editedTools : Host :=
  smallHost [("a.json", textFile "\x7b\"executor_id\":\"b\"\x7d" 1),
    ("b.json", textFile "\x7b \x7d" 2)]

/-- A change of the files leaves the builder as it is. -/
theorem builder_run_change (settings : Settings) (host : Host) (item : String)
    (files : FileTree) :
  (run settings host [.build item false, .change files]).builder
    = ((start settings host).build item false).builder
  := rfl

/-- A change of the files does not touch the files that a chain was built from. -/
theorem origins_run_change {settings : Settings} {host : Host} {item : String}
    (fresh : (start settings host).builder.isServed host item false = false)
    (found : isFound ((start settings host).builder.build host item false).1 = true)
    (files : FileTree) :
  (run settings host [.build item false, .change files]).origins item = some host.files
  := by
  apply origins_build (start settings host) fresh found

theorem origins_twoTools (files : FileTree) :
  (run smallSettings twoTools [.build "a" false, .change files]).origins "a"
    = some twoTools.files
  := by
  apply origins_run_change
  · decide +kernel
  · decide +kernel

theorem peek?_twoTools (files : FileTree) :
  ∃ stored,
    (run smallSettings twoTools [.build "a" false, .change files]).builder.chains.peek? "a"
        = some stored
      ∧ stored.chain.map (fun link => (link.item, link.path))
        = [("a", "/s/tools/a.json"), ("b", "/s/tools/b.json")]
  := by
  have kept : (((start smallSettings twoTools).build "a" false).builder.chains.peek? "a").map
      (fun stored => stored.chain.map fun link => (link.item, link.path))
        = some [("a", "/s/tools/a.json"), ("b", "/s/tools/b.json")] := by
    decide +kernel
  rw [builder_run_change]
  apply Option.map_eq_some_iff.mp kept

/-- After a neighbour has come, the chain is served, and is the one that would be built anew; after
the executor has changed, it is not served. -/
theorem build_eq_anew_of_change :
  (let s := run smallSettings twoTools [.build "a" false, .change threeTools.files];
    s.builder.isServed s.host "a" false = true
      ∧ (s.builder.build s.host "a" false).1 = (s.builder.build s.host "a" true).1) ∧
  (let s := run smallSettings twoTools [.build "a" false, .change editedTools.files];
    s.builder.isServed s.host "a" false = false
      ∧ (s.builder.build s.host "a" false).1 = (s.builder.build s.host "a" true).1)
  := by
  constructor
  · have tell : FingerprintsTell
        (trees twoTools [.build "a" false, .change threeTools.files]) := by
      apply FingerprintsTell.of_nodes
      decide +kernel
    have candidates : ∀ item ∈ ["a", "b"],
        SameCandidates smallSettings twoTools.files threeTools.files item := by
      simp only [SameCandidates]
      decide +kernel
    obtain ⟨stored, kept, links⟩ := peek?_twoTools threeTools.files
    obtain ⟨_, _, remembered, _, same, _⟩ := build_eq_anew tell kept
    obtain rfl := Option.some.inj ((origins_twoTools _).symm.trans remembered)
    constructor
    · decide +kernel
    · apply same
      intro link among
      apply candidates
      have := congrArg (List.map Prod.fst) links
      rw [List.map_map] at this
      rw [← show _ = ["a", "b"] from this]
      apply List.mem_map_of_mem among
  · have tell : FingerprintsTell
        (trees twoTools [.build "a" false, .change editedTools.files]) := by
      apply FingerprintsTell.of_nodes
      decide +kernel
    obtain ⟨stored, kept, links⟩ := peek?_twoTools editedTools.files
    obtain ⟨_, _, remembered, _, _, outdated⟩ := build_eq_anew tell kept
    obtain rfl := Option.some.inj ((origins_twoTools _).symm.trans remembered)
    apply outdated
    have executor : ("b", "/s/tools/b.json")
        ∈ stored.chain.map fun link => (link.item, link.path) := by
      rw [links]
      decide
    obtain ⟨link, among, placed⟩ := List.mem_map.mp executor
    have path : link.path = "/s/tools/b.json" := congrArg Prod.snd placed
    apply Outdated.changed among
    rw [path]
    decide +kernel

end Session

end Toolshed.Chain
