import Toolshed.Proofs.Chain.Reading

/-!
# Keeping chains

A chain that is kept is used, or it is dropped and the chain is built anew.  What is built anew is
the chain that the files give, and it is kept with the fingerprints that its files have then.
-/

namespace Toolshed.Chain

/-- A chain that was built has links. -/
def isFound : Except Failure (List Element) → Bool
  | .ok chain => !chain.isEmpty
  | .error _ => false

/-- A chain is kept as some files give it, with the fingerprints of the files of its links. -/
structure BuiltFrom (settings : Settings) (item : String) (origin : FileTree)
    (stored : StoredChain) : Prop where
  walk : walkOf settings origin item = .ok (some ⟨stored.chain, stored.skipped⟩)
  fingerprints : stored.fingerprints = stored.chain.map fun link => origin.fingerprint? link.path

/-- The chain of a walk begins with what its root resolves to. -/
theorem head?_of_walkOf {settings : Settings} {files : FileTree} {item : String}
    {walked : Builder.Walked} (h : walkOf settings files item = .ok (some walked)) :
  ∃ found, resolved? settings files item = some found
    ∧ walked.chain.head? = some (found.element item)
  := by
  obtain ⟨found, resolved, rest, longer⟩ := prefix_of_walkBy h
  use found, resolved
  rw [← longer]
  rfl

/-- The chain of a walk has links. -/
theorem isFound_of_walkOf {settings : Settings} {files : FileTree} {item : String}
    {walked : Builder.Walked} (h : walkOf settings files item = .ok (some walked)) :
  isFound (.ok walked.chain) = true
  := by
  obtain ⟨_, _, head⟩ := head?_of_walkOf h
  rcases hc : walked.chain with _ | ⟨link, rest⟩
  · rw [hc] at head
    cases head
  · rfl

namespace BuiltFrom

variable {settings : Settings} {item : String} {origin : FileTree} {stored : StoredChain}

/-- The chain is what other files give where its tools have the same candidates. -/
theorem chainOf_congr {trees : List FileTree} (tell : FingerprintsTell trees)
    (ho : origin ∈ trees) {files : FileTree} (hf : files ∈ trees)
    (built : BuiltFrom settings item origin stored)
    (same : ∀ link ∈ stored.chain, SameCandidates settings origin files link.item) :
  chainOf settings files item = .ok stored.chain
  := by
  rw [chainOf, walkOf, walkBy_congr built.walk]
  · rfl
  · intro link h
    apply resolved?_congr tell ho hf (same link h)

end BuiltFrom

namespace Builder

variable {host : Host} {item : String} {b : Builder}

/-! ### Looking for a chain -/

/-- A builder differs from another one in having forgotten chains, if at all. -/
structure OnlyForgets (b b' : Builder) : Prop where
  settings : b'.settings = b.settings
  manifests : b'.manifests = b.manifests
  chains : ∀ e ∈ b'.chains.entries, e ∈ b.chains.entries

theorem OnlyForgets.refl (b : Builder) :
  OnlyForgets b b
  := by
  refine ⟨rfl, rfl, ?_⟩
  intro e h
  apply h

theorem kept?_onlyForgets (host : Host) (item : String) (b : Builder) :
  OnlyForgets b (b.kept? host item).2
  := by
  rw [kept?]
  split
  · apply OnlyForgets.refl
  · split
    · apply OnlyForgets.refl
    · next root _ =>
        split
        · refine ⟨rfl, rfl, ?_⟩
          intro e h
          apply (Cache.mem_erase.mp h).1
        · have got :
              ∀ e ∈ (b.chains.get host.now item (host.files.fingerprint? root.path)).2.entries,
                e ∈ b.chains.entries := by
            intro e h
            apply Cache.mem_of_mem_get h
          split
          · next h =>
              rw [h] at got
              refine ⟨rfl, rfl, got⟩
          · next h =>
              rw [h] at got
              split
              · refine ⟨rfl, rfl, got⟩
              · refine ⟨rfl, rfl, ?_⟩
                intro e h
                apply got e (Cache.mem_erase.mp h).1

/-- A chain that is used is the one that is kept; its files are unchanged, and none is preferred
over the first one. -/
theorem kept?_eq_some {chain : List Element} (used : (b.kept? host item).1 = some chain) :
  ∃ stored root, b.chains.peek? item = some stored ∧ stored.chain = chain
    ∧ chain.head? = some root
    ∧ isShadowed host b.settings item root stored.skipped = false
    ∧ isUnchanged host stored = true
  := by
  rw [kept?] at used
  split at used
  · cases used
  · next stored peeked =>
      split at used
      · cases used
      · next root first =>
          split at used
          · cases used
          · next shadowed =>
              split at used
              · cases used
              · next stored' chains got =>
                  -- The lookup finds the entry that was looked at before.
                  have same : stored' = stored := by
                    obtain ⟨e, found, value⟩ := Cache.peek?_eq_some peeked
                    obtain ⟨e', found', value', _⟩ := Cache.get_eq_some (congrArg Prod.fst got)
                    rw [← value, ← value', Option.some.inj (found'.symm.trans found)]
                  rw [same] at used
                  split at used
                  · next unchanged =>
                      rw [← Option.some.inj used]
                      use stored, root, peeked, rfl, first
                      constructor
                      · simpa using shadowed
                      · apply unchanged
                  · cases used

/-- A chain is asked for that is kept, so it is not built. -/
def isServed (host : Host) (item : String) (anew : Bool) (b : Builder) : Bool :=
  !anew && (b.kept? host item).1.isSome

/-- A chain is served, or it is built anew by a builder that kept what it has read. -/
theorem build_cases (host : Host) (item : String) (anew : Bool) (b : Builder) :
  ∃ b', OnlyForgets b b' ∧
    ((b.isServed host item anew = true
        ∧ ∃ chain, (b.kept? host item).1 = some chain
            ∧ b.build host item anew = (.ok chain, b')) ∨
      (b.isServed host item anew = false ∧ b.build host item anew = b'.rebuild host item))
  := by
  rw [isServed, build]
  cases anew with
  | true =>
      use b, OnlyForgets.refl b
      right
      constructor <;> rfl
  | false =>
      have forgets := kept?_onlyForgets host item b
      rcases h : b.kept? host item with ⟨_ | chain, b'⟩
      · rw [h] at forgets
        use b', forgets
        right
        constructor <;> rfl
      · rw [h] at forgets
        use b', forgets
        left
        use rfl, chain
        constructor <;> rfl

/-- A chain that is served is the one that is kept. -/
theorem build_of_isServed {anew : Bool} (served : b.isServed host item anew = true) :
  ∃ stored, b.chains.peek? item = some stored ∧ (b.build host item anew).1 = .ok stored.chain
  := by
  obtain ⟨b', _, ⟨_, chain, used, given⟩ | ⟨fresh, _⟩⟩ := build_cases host item anew b
  · obtain ⟨stored, _, peeked, rfl, _⟩ := kept?_eq_some used
    use stored, peeked
    rw [given]
  · rw [served] at fresh
    cases fresh

/-! ### Building anew -/

/-- A chain that the files give is kept, since the file of its first link has a fingerprint. -/
theorem keep_of_walkOf {settings : Settings} {walked : Walked}
    (walk : walkOf settings host.files item = .ok (some walked)) (b : Builder) :
  ∃ root, b.keep host item walked
    = { b with
        chains := b.chains.insert host.now item
          ⟨walked.chain, walked.chain.map fun link => host.files.fingerprint? link.path,
            walked.skipped⟩ root }
  := by
  obtain ⟨found, resolved, head⟩ := head?_of_walkOf walk
  obtain ⟨root, stamped⟩ := fingerprint?_of_resolved? resolved
  use root
  rw [keep, List.head?_map, head, Option.map_some]
  have first : host.files.fingerprint? (found.element item).path = some root := stamped
  rw [first]

theorem keep_settings (host : Host) (item : String) (walked : Walked) (b : Builder) :
  (b.keep host item walked).settings = b.settings
  := by
  rw [keep]
  dsimp only
  split
  · rfl
  · rfl

/-- What is built anew is the chain of a walk, which then is kept, or else no chain is found, and
only manifests were read. -/
theorem rebuild_cases (host : Host) (item : String) (b : Builder) :
  ∃ b', OnlyReads b b' ∧
    ((∃ walked, follow host item maxLength ⟨[], []⟩ item b = (.ok (some walked), b')
        ∧ b.rebuild host item = (.ok walked.chain, b'.keep host item walked)) ∨
      ∃ result, isFound result = false ∧ b.rebuild host item = (result, b'))
  := by
  have reads := follow_onlyReads host item maxLength ⟨[], []⟩ item b
  rw [rebuild]
  rcases h : follow host item maxLength ⟨[], []⟩ item b with ⟨failure | _ | walked, b'⟩
  · rw [h] at reads
    use b', reads
    right
    use .error failure, rfl
  · rw [h] at reads
    use b', reads
    right
    use .ok [], rfl
  · rw [h] at reads
    use b', reads
    left
    use walked, rfl

theorem rebuild_settings (host : Host) (item : String) (b : Builder) :
  (b.rebuild host item).2.settings = b.settings
  := by
  obtain ⟨b', reads, ⟨walked, _, h⟩ | ⟨result, _, h⟩⟩ := rebuild_cases host item b
  · rw [h, keep_settings, reads.settings]
  · rw [h, reads.settings]

/-! ### What all chains have in common -/

/-- A property of a tool and a chain holds of all walks of a builder. -/
def Walks (P : String → List Element → Prop) (settings : Settings) (files : FileTree) : Prop :=
  ∀ (host : Host) (item : String) (b : Builder) (walked : Walked),
    host.files = files → b.settings = settings →
    (follow host item maxLength ⟨[], []⟩ item b).1 = .ok (some walked) → P item walked.chain

/-- A property of a tool and a chain holds of all chains that are kept. -/
def Keeps (P : String → List Element → Prop) (b : Builder) : Prop :=
  ∀ e ∈ b.chains.entries, P e.key e.value.chain

/-- What is kept with a chain is that chain. -/
theorem mem_keep {walked : Walked} {e : CacheEntry StoredChain}
    (h : e ∈ (b.keep host item walked).chains.entries) :
  e ∈ b.chains.entries ∨ (e.key = item ∧ e.value.chain = walked.chain)
  := by
  rw [keep] at h
  dsimp only at h
  split at h
  · rcases Cache.mem_insert h with ⟨old, _⟩ | rfl
    · left
      apply old
    · right
      constructor <;> rfl
  · left
    apply h

section

variable {P : String → List Element → Prop}

theorem rebuild_keeps (walks : Walks P b.settings host.files) (keeps : Keeps P b)
    (item : String) :
  Keeps P (b.rebuild host item).2
    ∧ ∀ chain, (b.rebuild host item).1 = .ok chain → chain ≠ [] → P item chain
  := by
  obtain ⟨b', reads, ⟨walked, hf, hr⟩ | ⟨result, nothing, hr⟩⟩ := rebuild_cases host item b
  · have walk : P item walked.chain := by
      apply walks host item b walked rfl rfl
      rw [hf]
    rw [hr]
    constructor
    · intro e kept
      rcases mem_keep kept with old | ⟨key, chain⟩
      · rw [reads.chains] at old
        apply keeps e old
      · rw [key, chain]
        apply walk
    · intro chain given _
      rw [← Except.ok.inj given]
      apply walk
  · rw [hr]
    constructor
    · rw [Keeps, reads.chains]
      apply keeps
    · intro chain given nonempty
      dsimp only at given
      rw [given, isFound, Bool.not_eq_false', List.isEmpty_iff] at nothing
      contradiction

/-- What holds of all walks, and of all chains that are kept, holds of the chain that is given and
of those that are kept then. -/
theorem build_keeps (walks : Walks P b.settings host.files) (keeps : Keeps P b) (item : String)
    (anew : Bool) :
  Keeps P (b.build host item anew).2
    ∧ ∀ chain, (b.build host item anew).1 = .ok chain → chain ≠ [] → P item chain
  := by
  obtain ⟨b', forgets, ⟨_, chain, used, given⟩ | ⟨_, built⟩⟩ := build_cases host item anew b
  · rw [given]
    constructor
    · intro e kept
      apply keeps e (forgets.chains e kept)
    · intro chain' same _
      rw [← Except.ok.inj same]
      obtain ⟨stored, _, peeked, rfl, _⟩ := kept?_eq_some used
      obtain ⟨e, found, rfl⟩ := Cache.peek?_eq_some peeked
      obtain ⟨among, rfl⟩ := Cache.mem_of_find? found
      apply keeps e among
  · rw [built]
    apply rebuild_keeps
    · rw [forgets.settings]
      apply walks
    · intro e kept
      apply keeps e (forgets.chains e kept)

end

/-! ### What is built from some files -/

variable {trees : List FileTree} (tell : FingerprintsTell trees) (here : host.files ∈ trees)

include tell here

/-- What is built anew is the chain that the files give. -/
theorem rebuild_tells (item : String) {b : Builder} (faithful : Faithful trees b.manifests) :
  Tells trees (chainOf b.settings host.files item) (b.rebuild host item)
  := by
  have follows := follow_tells tell here item maxLength ⟨[], []⟩ item faithful
  rw [rebuild, chainOf, walkOf, ← follows.result]
  rcases h : follow host item maxLength ⟨[], []⟩ item b with ⟨failure | _ | walked, b'⟩
  · rw [h] at follows
    constructor
    · rfl
    · apply follows.faithful
  · rw [h] at follows
    constructor
    · rfl
    · apply follows.faithful
  · rw [h] at follows
    obtain ⟨root, kept⟩ := keep_of_walkOf follows.result.symm b'
    dsimp only
    rw [kept]
    constructor
    · rfl
    · apply follows.faithful

/-- A chain that is not served is the chain that the files give. -/
theorem build_of_not_isServed {b : Builder} (faithful : Faithful trees b.manifests) {item : String}
    {anew : Bool} (fresh : b.isServed host item anew = false) :
  (b.build host item anew).1 = chainOf b.settings host.files item
  := by
  obtain ⟨b', forgets, ⟨served, _⟩ | ⟨_, built⟩⟩ := build_cases host item anew b
  · rw [fresh] at served
    cases served
  · rw [← forgets.manifests] at faithful
    rw [built, (rebuild_tells tell here item faithful).result, forgets.settings]

/-- A chain that was built anew is kept as the files give it; all other chains stay. -/
theorem rebuild_chains (item : String) {b : Builder} (faithful : Faithful trees b.manifests)
    {e : CacheEntry StoredChain} (h : e ∈ (b.rebuild host item).2.chains.entries) :
  (e ∈ b.chains.entries ∧ ¬ (e.key = item ∧ isFound (b.rebuild host item).1 = true)) ∨
    (e.key = item ∧ isFound (b.rebuild host item).1 = true
      ∧ BuiltFrom b.settings item host.files e.value)
  := by
  obtain ⟨b', reads, ⟨walked, hf, hr⟩ | ⟨result, nothing, hr⟩⟩ := rebuild_cases host item b
  · have follows := follow_tells tell here item maxLength ⟨[], []⟩ item faithful
    rw [hf] at follows
    have walk : walkOf b.settings host.files item = .ok (some walked) := follows.result.symm
    obtain ⟨root, kept⟩ := keep_of_walkOf walk b'
    rw [hr, kept] at h
    rw [hr]
    rcases Cache.mem_insert h with ⟨old, other⟩ | rfl
    · left
      rw [← reads.chains]
      use old
      intro ⟨same, _⟩
      apply other same
    · right
      use rfl, isFound_of_walkOf walk
      constructor
      · apply walk
      · rfl
  · rw [hr, reads.chains] at h
    left
    use h
    rw [hr, nothing]
    intro ⟨_, found⟩
    cases found

end Builder

end Toolshed.Chain
