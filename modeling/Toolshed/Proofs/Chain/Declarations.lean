import Toolshed.Proofs.Chain.Session

/-!
# What the links of a chain declare

A link is made from a manifest.  Whatever comes, changes and goes in a session, every manifest that
is kept was in its file at some moment, and so was the manifest of every link of a chain.  What role
a link plays is a matter of the type that stands there, and of whether an executor does.
-/

namespace Toolshed.Chain

/-- In one of some trees, a file holds a manifest. -/
def Declares (trees : List FileTree) (path : String) (m : Manifest) : Prop :=
  ∃ tree ∈ trees, Manifest.inFile? tree path = some m

/-- A link is made from the manifest that its file holds in one of some trees. -/
def IsDeclared (trees : List FileTree) (link : Element) : Prop :=
  ∃ m, Declares trees link.path m ∧ link = .ofManifest link.item link.space link.path m

/-- Every manifest that is kept is one that its file holds in one of some trees. -/
def AllDeclared (trees : List FileTree) (manifests : Cache Manifest) : Prop :=
  ∀ e ∈ manifests.entries, Declares trees e.key e.value

/-- A tool that nothing runs is a primitive if it declares itself to be one, in any letter case and
with blanks around, or declares no type. -/
theorem role_eq_primitive_iff {item : String} {space : Space} {path : String} {m : Manifest}
    (alone : m.executor = none) :
  (Element.ofManifest item space path m).role = .primitive
    ↔ ∀ declared ∈ m.toolType, Text.lower (Text.trim declared) = "primitive"
  := by
  rw [Element.ofManifest, alone]
  rcases m.toolType with _ | declared
  · simp [Role.ofDeclared]
  · rw [Role.ofDeclared]
    dsimp only
    split
    · next named => simpa using named
    · next other =>
        split
        · simpa using other
        · simpa using other

namespace Builder

/-! ### Reading -/

section

variable {trees : List FileTree} {host : Host} (here : host.files ∈ trees)

include here

theorem manifest?_declared (path : String) {b : Builder} (kept : AllDeclared trees b.manifests) :
  AllDeclared trees (b.manifest? host path).2.manifests
    ∧ ∀ m ∈ (b.manifest? host path).1, Declares trees path m
  := by
  have fewer : AllDeclared trees
      (b.manifests.get host.now path (host.files.fingerprint? path)).2 := by
    intro e among
    apply kept e (Cache.mem_of_mem_get among)
  rw [manifest?]
  rcases got : b.manifests.get host.now path (host.files.fingerprint? path) with ⟨_ | m, manifests⟩
  · rw [got] at fewer
    rcases read : Manifest.ofFile host.files path with failure | m
    · use fewer
      rintro m ⟨⟩
    · have declares : Declares trees path m := by
        use host.files, here
        rw [Manifest.inFile?, read]
        rfl
      rcases host.files.fingerprint? path with _ | fingerprint
      · use fewer
        rintro _ ⟨⟩
        apply declares
      · constructor
        · intro e among
          rcases Cache.mem_insert among with ⟨old, _⟩ | rfl
          · apply fewer e old
          · apply declares
        · rintro _ ⟨⟩
          apply declares
  · rw [got] at fewer
    use fewer
    rintro _ ⟨⟩
    obtain ⟨e, found, rfl, _⟩ := Cache.get_eq_some (congrArg Prod.fst got)
    obtain ⟨among, rfl⟩ := Cache.mem_of_find? found
    apply kept e among

theorem resolveAmong_declared (candidates : List Candidate) (skipped : List SeenFile) {b : Builder}
    (kept : AllDeclared trees b.manifests) :
  AllDeclared trees (resolveAmong host skipped candidates b).2.manifests
    ∧ ∀ found ∈ (resolveAmong host skipped candidates b).1,
      Declares trees found.candidate.path found.manifest
  := by
  induction candidates generalizing skipped b with
  | nil =>
      use kept
      rintro found ⟨⟩
  | cons candidate candidates ih =>
      obtain ⟨kept', declares⟩ := manifest?_declared here candidate.path kept
      rw [resolveAmong]
      rcases read : b.manifest? host candidate.path with ⟨_ | m, b'⟩
      · rw [read] at kept'
        apply ih _ kept'
      · rw [read] at kept' declares
        use kept'
        rintro _ ⟨⟩
        apply declares m rfl

/-- A walk that goes on with links that are declared gives a chain of such links. -/
theorem follow_declared (root : String) (room : Nat) (walked : Walked) (item : String)
    {b : Builder} (kept : AllDeclared trees b.manifests)
    (declared : ∀ link ∈ walked.chain, IsDeclared trees link) :
  AllDeclared trees (follow host root room walked item b).2.manifests
    ∧ ∀ final, (follow host root room walked item b).1 = .ok (some final) →
      ∀ link ∈ final.chain, IsDeclared trees link
  := by
  induction room generalizing walked item b with
  | zero =>
      rw [follow]
      split
      · use kept
        rintro final ⟨⟩
      · use kept
        rintro final ⟨⟩
  | succ room ih =>
      obtain ⟨kept', declares⟩ :=
        resolveAmong_declared here (candidates b.settings host.files item) [] kept
      rw [← resolve] at kept' declares
      rw [follow]
      split
      · use kept
        rintro final ⟨⟩
      · rcases resolved : b.resolve host item with ⟨_ | found, b'⟩
        · rw [resolved] at kept'
          use kept'
          rintro final ⟨⟩
        · rw [resolved] at kept' declares
          have declared' : ∀ link ∈ (walked.add item found).chain, IsDeclared trees link := by
            rw [add_chain, List.forall_mem_append, List.forall_mem_singleton]
            use declared, found.manifest, declares found rfl
            rfl
          dsimp only
          rcases found.manifest.executor with _ | next
          · use kept'
            rintro final ⟨⟩
            apply declared'
          · apply ih _ next kept' declared'

end

/-! ### Building -/

/-- Whatever a builder keeps was declared in one of some trees. -/
structure Declared (trees : List FileTree) (b : Builder) : Prop where
  manifests : AllDeclared trees b.manifests
  chains : Keeps (fun _ chain => ∀ link ∈ chain, IsDeclared trees link) b

theorem keep_manifests (host : Host) (item : String) (walked : Walked) (b : Builder) :
  (b.keep host item walked).manifests = b.manifests
  := by
  rw [keep]
  dsimp only
  split
  · rfl
  · rfl

variable {trees : List FileTree} {host : Host} {b : Builder}

/-- Reading manifests leaves the chains as they are. -/
theorem Declared.read {b' : Builder} (declared : Declared trees b) (reads : OnlyReads b b')
    (kept : AllDeclared trees b'.manifests) :
  Declared trees b'
  := by
  use kept
  rw [Keeps, reads.chains]
  apply declared.chains

section

variable (here : host.files ∈ trees)

include here

theorem rebuild_declared (declared : Declared trees b) (item : String) :
  Declared trees (b.rebuild host item).2
    ∧ ∀ chain, (b.rebuild host item).1 = .ok chain → ∀ link ∈ chain, IsDeclared trees link
  := by
  obtain ⟨kept, walks⟩ := follow_declared here item maxLength ⟨[], []⟩ item declared.manifests
    (List.forall_mem_nil _)
  have read := declared.read (follow_onlyReads host item maxLength ⟨[], []⟩ item b) kept
  rw [rebuild]
  rcases walk : follow host item maxLength ⟨[], []⟩ item b with ⟨failure | _ | walked, b'⟩
  · rw [walk] at read
    use read
    rintro chain ⟨⟩
  · rw [walk] at read
    use read
    rintro _ ⟨⟩
    apply List.forall_mem_nil
  · rw [walk] at read walks
    have declared' := walks walked rfl
    constructor
    · constructor
      · rw [keep_manifests]
        apply read.manifests
      · intro e among
        rcases mem_keep among with old | ⟨_, same⟩
        · apply read.chains e old
        · rw [same]
          apply declared'
    · rintro _ ⟨⟩
      apply declared'

theorem build_declared (declared : Declared trees b) (item : String) (anew : Bool) :
  Declared trees (b.build host item anew).2
    ∧ ∀ chain, (b.build host item anew).1 = .ok chain → ∀ link ∈ chain, IsDeclared trees link
  := by
  obtain ⟨b', forgets, cases⟩ := build_cases host item anew b
  have declared' : Declared trees b' := by
    constructor
    · rw [forgets.manifests]
      apply declared.manifests
    · intro e among
      apply declared.chains e (forgets.chains e among)
  rcases cases with ⟨_, chain, used, given⟩ | ⟨_, built⟩
  · rw [given]
    use declared'
    rintro _ ⟨⟩
    obtain ⟨stored, _, peeked, rfl, _⟩ := kept?_eq_some used
    obtain ⟨e, found, rfl⟩ := Cache.peek?_eq_some peeked
    apply declared.chains e (Cache.mem_of_find? found).1
  · rw [built]
    apply rebuild_declared here declared'

end

end Builder

/-! ### Chains of a session -/

namespace Session

/-- What happens in a session adds to what is kept nothing but what its files declare. -/
theorem step_declared {trees : List FileTree} {s : Session} (here : s.host.files ∈ trees)
    (declared : Builder.Declared trees s.builder) (event : Event) :
  Builder.Declared trees (s.step event).builder
  := by
  cases event with
  | change files => apply declared
  | wait time => apply declared
  | build item anew => apply (Builder.build_declared here declared item anew).1
  | load path =>
      apply declared.read (Builder.manifest?_onlyReads s.host path s.builder)
      apply (Builder.manifest?_declared here path declared.manifests).1
  | resolve item =>
      apply declared.read (Builder.resolve_onlyReads s.host item s.builder)
      apply (Builder.resolveAmong_declared here _ _ declared.manifests).1
  | clear =>
      constructor
      · rintro e ⟨⟩
      · rintro e ⟨⟩

/-- After every run, whatever is kept was declared in the files of the run. -/
theorem run_declared (settings : Settings) (host : Host) (events : List Event) :
  Builder.Declared (trees host events) (run settings host events).builder
  := by
  suffices (run settings host events).host.files ∈ trees host events
      ∧ Builder.Declared (trees host events) (run settings host events).builder from this.2
  apply List.foldlRecOn events step
    (motive := fun s => s.host.files ∈ trees host events
      ∧ Builder.Declared (trees host events) s.builder)
  · use List.mem_cons_self
    constructor
    · rintro e ⟨⟩
    · rintro e ⟨⟩
  · rintro s ⟨here, declared⟩ event among
    constructor
    · rw [step_files]
      rcases comes : event.files? with _ | files
      · apply here
      · apply List.mem_cons_of_mem
        apply List.mem_filterMap.mpr
        use event, among, comes
    · apply step_declared here declared

/-- The links of a chain that is given after a run were declared in the files of the run. -/
theorem isDeclared_of_build {settings : Settings} {host : Host} {events : List Event}
    {item : String} {anew : Bool} {chain : List Element}
    (given : ((run settings host events).builder.build (run settings host events).host item anew).1
      = .ok chain) :
  ∀ link ∈ chain, IsDeclared (trees host events) link
  := by
  have here := files_mem_trees settings host events
  apply (Builder.build_declared here (run_declared settings host events) item anew).2 chain given

end Session

end Toolshed.Chain
