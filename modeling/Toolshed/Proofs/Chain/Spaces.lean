import Toolshed.Proofs.Chain.Candidates
import Toolshed.Proofs.Chain.Links

/-!
# Where the files of links lie

A link carries the space in whose tools directory its file was found.  A file that a walk finds lies
inside of that directory.  An exact path is only as good as the name of the tool: it lies inside if
the outer names of the tool, followed from the directory, come back to it.  A name may leave the
directory by points for parents or by being absolute, and still the link carries the space.
-/

namespace Toolshed.Chain

/-- Followed from a directory, the outer names of a tool come back into it.  Those of an absolute
tool are followed from the root. -/
def Returns (directory item : String) : Prop :=
  Path.way directory <+: (Path.outerNames item).foldl Path.descend
    (if Path.isAbsolute item then [] else Path.way directory)

instance (directory item : String) : Decidable (Returns directory item) :=
  inferInstanceAs (Decidable (_ <+: _))

/-- A relative tool without points for parents comes back. -/
theorem returns_of_not_mem {item : String} (relative : Path.isAbsolute item = false)
    (down : ".." ∉ Path.outerNames item) (directory : String) :
  Returns directory item
  := by
  rw [Returns, relative, if_neg Bool.false_ne_true, Path.foldl_descend _ down]
  apply List.prefix_append

/-- An exact path lies inside of the directory if the names of the tool come back. -/
theorem inside_exactPaths {directory item path : String}
    (exact : path ∈ exactPaths item directory) :
  Path.Inside directory path ↔ Returns directory item
  := by
  obtain ⟨extension, among, rfl⟩ := List.mem_map.mp exact
  have endings : ∀ extension ∈ Format.toolExtensions,
      '/' ∉ ("." ++ extension).toList ∧ 2 < ("." ++ extension).length := by
    decide
  obtain ⟨apart, long⟩ := endings extension among
  obtain ⟨name, split, down⟩ := Path.names_append item apart long
  have absolute := Path.isAbsolute_append item apart
  rw [String.append_assoc]
  have last (way : List String) : Path.descend way name = way ++ [name] := if_neg down
  apply Path.inside_iff_of_way_eq
  cases relative : Path.isAbsolute item with
  | true =>
      rw [relative] at absolute
      rw [Path.join_of_isAbsolute _ absolute, Path.way, split, List.foldl_append, if_pos rfl]
      apply last
  | false =>
      rw [relative] at absolute
      rw [Path.way_join _ absolute, split, List.foldl_append, if_neg Bool.false_ne_true]
      apply last

/-- A file that is walked to lies inside of the directory. -/
theorem inside_walkedPaths {files : FileTree} {directory item path : String}
    (wellNamed : files.IsWellNamed) (walked : path ∈ walkedPaths files item directory) :
  Path.Inside directory path
  := by
  obtain ⟨location, names, _, file, known, rfl⟩ := (mem_walkedPaths wellNamed).mp walked
  rw [Path.Inside, Path.way_joinAll _ (file.isName wellNamed)]
  use List.prefix_append _ _
  intro same
  rw [List.append_right_eq_self] at same
  rw [same] at known
  cases known

/-- A path for a tool is where it should be, if it is in a directory. -/
structure IsIn (directory item path : String) : Prop where
  /-- It lies inside of the directory, unless it is an exact path of a tool that does not come
  back. -/
  inside : Path.Inside directory path ↔ (path ∈ exactPaths item directory → Returns directory item)
  /-- So it does for a relative tool without points for parents. -/
  plain : Path.isAbsolute item = false → ".." ∉ Path.outerNames item → Path.Inside directory path

/-- A path for a tool is in the tools directory of a space. -/
def IsPlaced (settings : Settings) (item path : String) (space : Space) : Prop :=
  ∃ directory, settings.typeDirectory? .tool space = some directory ∧ IsIn directory item path

/-- The candidates for a tool are in the tools directories of their spaces. -/
theorem isPlaced_of_mem_candidates {settings : Settings} {files : FileTree} {item : String}
    (wellNamed : files.IsWellNamed) {c : Candidate} (among : c ∈ candidates settings files item) :
  IsPlaced settings item c.path c.space
  := by
  rcases isExact_or_isWalked among with ⟨directory, h, exact, _⟩ | ⟨directory, h, walked⟩
  · use directory, (Settings.mem_typeDirectories.mp h).1
    constructor
    · rw [inside_exactPaths exact]
      constructor
      · intro returns _
        apply returns
      · intro returns
        apply returns exact
    · intro relative down
      apply (inside_exactPaths exact).mpr (returns_of_not_mem relative down directory)
  · use directory, (Settings.mem_typeDirectories.mp h).1
    have inside := inside_walkedPaths wellNamed walked
    constructor
    · constructor
      · intro _ exact
        apply (inside_exactPaths exact).mp inside
      · intro _
        apply inside
    · intro _ _
      apply inside

namespace Builder

/-- A tool resolves to a candidate. -/
theorem mem_of_resolveAmong {host : Host} {candidates : List Candidate} {skipped : List SeenFile}
    {b : Builder} {found : Resolved}
    (h : (resolveAmong host skipped candidates b).1 = some found) :
  found.candidate ∈ candidates
  := by
  induction candidates generalizing skipped b with
  | nil => cases h
  | cons candidate candidates ih =>
      rw [resolveAmong] at h
      split at h
      · rw [← Option.some.inj h]
        apply List.mem_cons_self
      · apply List.mem_cons_of_mem _ (ih h)

/-- In the walks through well-named files, all links are in the tools directories of their
spaces. -/
theorem walks_isPlaced (settings : Settings) {files : FileTree} (wellNamed : files.IsWellNamed) :
  Walks (fun _ chain => ∀ link ∈ chain, IsPlaced settings link.item link.path link.space)
    settings files
  := by
  rintro host item b walked rfl same walk link among
  have resolved : ∀ (b : Builder) tool found, b.settings = settings →
      (b.resolve host tool).1 = some found →
      found.candidate ∈ candidates settings host.files tool := by
    rintro b tool found rfl h
    apply mem_of_resolveAmong h
  have completes := completes_of_follow resolved same Leads.start (Nat.zero_add maxLength) walk
  obtain ⟨found, candidate, same⟩ := completes.resolved link among
  rw [show link.path = found.candidate.path from congrArg Element.path same,
    show link.space = found.candidate.space from congrArg Element.space same]
  apply isPlaced_of_mem_candidates wellNamed candidate

end Builder

/-! ### Chains of a session -/

namespace Session

/-- After every run, the candidates for a tool, and the links of all chains that are given, are in
the tools directories of the spaces that they carry. -/
theorem isPlaced_run (settings : Settings) {host : Host} {events : List Event}
    (wellNamed : ∀ files ∈ trees host events, files.IsWellNamed) (item : String) :
  let s := run settings host events
  (∀ c ∈ candidates settings s.host.files item, IsPlaced settings item c.path c.space) ∧
    ∀ anew chain, (s.builder.build s.host item anew).1 = .ok chain →
      ∀ link ∈ chain, IsPlaced settings link.item link.path link.space
  := by
  have walks := fun files among => Builder.walks_isPlaced settings (wellNamed files among)
  have keeps := run_keeps settings host events walks
  have here := files_mem_trees settings host events
  constructor
  · intro c among
    apply isPlaced_of_mem_candidates (wellNamed _ here) among
  · intro anew chain given
    by_cases empty : chain = []
    · rw [empty]
      apply List.forall_mem_nil
    · apply (Builder.build_keeps _ keeps item anew).2 chain given empty
      rw [run_settings]
      apply walks _ here

/-- A tool in the system space whose executor has a name that leads into the project. -/
def strayTools : Host :=
  ⟨.directory
    [("p", .directory [(".ai", .directory [("tools", .directory
        [("b.json", textFile "\x7b\x7d" 1)])])]),
      ("s", .directory [("tools", .directory
        [("a.json", textFile "\x7b\"executor_id\":\"../../p/.ai/tools/b\"\x7d" 1)])])],
    0, []⟩

/-- The settings of a machine with a project. -/
def projectSettings : Settings :=
  { smallSettings with project := some "/p" }

/-- The tool lies inside of the tools directory of the system space, and its executor does not,
though its link carries the system space. -/
theorem isPlaced_run_strayTools :
  ∃ first last,
    ((run projectSettings strayTools []).builder.build strayTools "a" false).1 = .ok [first, last]
      ∧ first.space = .system ∧ Path.Inside "/s/tools" first.path
      ∧ last.space = .system ∧ ¬ Path.Inside "/s/tools" last.path
  := by
  have links :
      ((run projectSettings strayTools []).builder.build strayTools "a" false).1.toOption.map
      (fun chain => chain.map fun link => (link.item, link.path, link.space))
        = some [("a", "/s/tools/a.json", .system),
          ("../../p/.ai/tools/b", "/s/tools/../../p/.ai/tools/b.json", .system)] := by
    decide +kernel
  have wellNamed : ∀ files ∈ trees strayTools [], files.IsWellNamed := by
    decide +kernel
  have system : projectSettings.typeDirectory? .tool .system = some "/s/tools" := by
    decide +kernel
  have placed := (isPlaced_run projectSettings wellNamed "a").2 false
  rcases given : ((run projectSettings strayTools []).builder.build strayTools "a" false).1
    with failure | chain
  · rw [given] at links
    cases links
  · rw [given] at links
    obtain ⟨first, rest, rfl, here, links⟩ := List.map_eq_cons_iff.mp (Option.some.inj links)
    obtain ⟨last, rest, rfl, there, links⟩ := List.map_eq_cons_iff.mp links
    obtain rfl := List.map_eq_nil_iff.mp links
    simp only [Prod.mk.injEq] at here there
    obtain ⟨directory, named, isIn⟩ := placed _ given first List.mem_cons_self
    rw [here.2.2, system, Option.some.injEq] at named
    obtain ⟨directory', named', isIn'⟩ :=
      placed _ given last (List.mem_cons_of_mem _ List.mem_cons_self)
    rw [there.2.2, system, Option.some.injEq] at named'
    use first, last, rfl, here.2.2
    constructor
    · rw [named]
      apply isIn.plain
      · rw [here.1]
        decide +kernel
      · rw [here.1]
        decide +kernel
    · use there.2.2
      rw [named', isIn'.inside, there.1, there.2.1, ← named']
      decide +kernel

end Session

end Toolshed.Chain
