import Toolshed.Chain.Builder
import Toolshed.Proofs.Files.Fingerprints

/-!
# Chains read from the files alone

What a tool resolves to and which chain it has is a matter of the files.  Here both are read
without anything that was kept: the walk takes the resolution of tools as a parameter, and it
depends on the resolution of the tools in its chain only.
-/

namespace Toolshed.Chain

open Builder (Walked)

/-! ### Resolving -/

/-- The first of some candidates whose file holds a manifest, given those without one before. -/
def firstLoading? (files : FileTree) (skipped : List SeenFile) :
    List Candidate → Option Resolved
  | [] => none
  | candidate :: candidates =>
    match Manifest.inFile? files candidate.path with
    | some manifest => some ⟨candidate, manifest, skipped⟩
    | none =>
      firstLoading? files (skipped ++ [⟨candidate.path, files.fingerprint? candidate.path⟩])
        candidates

/-- What a tool resolves to. -/
def resolved? (settings : Settings) (files : FileTree) (item : String) : Option Resolved :=
  firstLoading? files [] (candidates settings files item)

/-- What is found is the first candidate whose file holds a manifest, and those before it are
skipped. -/
theorem exists_split_of_firstLoading? {files : FileTree} {skipped : List SeenFile}
    {candidates : List Candidate} {found : Resolved}
    (h : firstLoading? files skipped candidates = some found) :
  ∃ before after, candidates = before ++ found.candidate :: after
    ∧ (∀ c ∈ before, Manifest.inFile? files c.path = none)
    ∧ Manifest.inFile? files found.candidate.path = some found.manifest
    ∧ found.skipped = skipped ++ before.map fun c => ⟨c.path, files.fingerprint? c.path⟩
  := by
  induction candidates generalizing skipped with
  | nil => cases h
  | cons candidate candidates ih =>
      rw [firstLoading?] at h
      split at h
      · next manifest loads =>
          rw [← Option.some.inj h]
          use [], candidates, rfl, List.forall_mem_nil _, loads
          rw [List.map_nil, List.append_nil]
      · next fails =>
          obtain ⟨before, after, split, rest, loads, same⟩ := ih h
          use candidate :: before, after
          rw [split, same, List.append_assoc]
          use rfl, List.forall_mem_cons.mpr ⟨fails, rest⟩, loads
          rfl

/-- If nothing is found, no candidate loads. -/
theorem inFile?_of_firstLoading?_eq_none {files : FileTree} {skipped : List SeenFile}
    {candidates : List Candidate} (h : firstLoading? files skipped candidates = none) :
  ∀ c ∈ candidates, Manifest.inFile? files c.path = none
  := by
  induction candidates generalizing skipped with
  | nil => apply List.forall_mem_nil
  | cons candidate candidates ih =>
      rw [firstLoading?] at h
      split at h
      · cases h
      · next fails =>
          rw [List.forall_mem_cons]
          use fails, ih h

/-- What is found is the manifest in the file of one of the candidates. -/
theorem firstLoading?_eq_some {files : FileTree} {skipped : List SeenFile}
    {candidates : List Candidate} {found : Resolved}
    (h : firstLoading? files skipped candidates = some found) :
  found.candidate ∈ candidates
    ∧ Manifest.inFile? files found.candidate.path = some found.manifest
  := by
  obtain ⟨before, after, split, _, loads, _⟩ := exists_split_of_firstLoading? h
  rw [split]
  use List.mem_append_right _ List.mem_cons_self, loads

/-- The file of a resolved tool has a fingerprint. -/
theorem fingerprint?_of_resolved? {settings : Settings} {files : FileTree} {item : String}
    {found : Resolved} (h : resolved? settings files item = some found) :
  ∃ fingerprint, files.fingerprint? found.candidate.path = some fingerprint
  := by
  apply Manifest.fingerprint?_of_inFile? (firstLoading?_eq_some h).2

/-- The candidates for a tool, and the fingerprints of their files, are the same in two trees. -/
def SameCandidates (settings : Settings) (files other : FileTree) (item : String) : Prop :=
  candidates settings files item = candidates settings other item ∧
    ∀ candidate ∈ candidates settings files item,
      files.fingerprint? candidate.path = other.fingerprint? candidate.path

theorem firstLoading?_congr {trees : List FileTree} (tell : FingerprintsTell trees)
    {files other : FileTree} (hf : files ∈ trees) (ho : other ∈ trees)
    (candidates : List Candidate) (skipped : List SeenFile)
    (same : ∀ candidate ∈ candidates,
      files.fingerprint? candidate.path = other.fingerprint? candidate.path) :
  firstLoading? files skipped candidates = firstLoading? other skipped candidates
  := by
  induction candidates generalizing skipped with
  | nil => rfl
  | cons candidate candidates ih =>
      obtain ⟨first, rest⟩ := List.forall_mem_cons.mp same
      rw [firstLoading?, firstLoading?, tell.inFile?_eq hf ho first, first]
      split
      · rfl
      · apply ih _ rest

/-- A tool resolves to the same as long as its candidates and their fingerprints are the same. -/
theorem resolved?_congr {trees : List FileTree} (tell : FingerprintsTell trees)
    {files other : FileTree} (hf : files ∈ trees) (ho : other ∈ trees) {settings : Settings}
    {item : String} (same : SameCandidates settings files other item) :
  resolved? settings files item = resolved? settings other item
  := by
  rw [resolved?, resolved?, ← same.1]
  apply firstLoading?_congr tell hf ho _ _ same.2

/-! ### Walking -/

/-- The chain from a root on, given what tools resolve to, the part that leads to an item and the
number of links that may still be added. -/
def walkBy (resolve : String → Option Resolved) (root : String) :
    Nat → Walked → String → Except Failure (Option Walked)
  | room, walked, item =>
    let items := walked.chain.map Element.item
    if item ∈ items then .error (.circularDependency item (items ++ [item]))
    else match room with
      | 0 => .error (.chainTooDeep root maxLength)
      | room + 1 =>
        match resolve item with
        | none => .ok none
        | some found =>
          let walked := walked.add item found
          match found.manifest.executor with
          | none => .ok (some walked)
          | some next => walkBy resolve root room walked next

/-- The chain of a tool, as the files are. -/
def walkOf (settings : Settings) (files : FileTree) (item : String) :
    Except Failure (Option Walked) :=
  walkBy (resolved? settings files) item maxLength ⟨[], []⟩ item

/-- The chain of a tool is empty when there is none. -/
def chainOf (settings : Settings) (files : FileTree) (item : String) :
    Except Failure (List Element) :=
  (walkOf settings files item).map fun walked => (walked.map Walked.chain).getD []

theorem add_chain (walked : Walked) (item : String) (found : Resolved) :
  (walked.add item found).chain = walked.chain ++ [found.element item]
  := rfl

/-- A walk goes on with the chain that it has. -/
theorem prefix_of_walkBy {resolve : String → Option Resolved} {root item : String} {room : Nat}
    {walked final : Walked} (h : walkBy resolve root room walked item = .ok (some final)) :
  ∃ found, resolve item = some found ∧ walked.chain ++ [found.element item] <+: final.chain
  := by
  induction room generalizing walked item with
  | zero =>
      rw [walkBy] at h
      split at h
      · cases h
      · cases h
  | succ room ih =>
      rw [walkBy] at h
      split at h
      · cases h
      · dsimp only at h
        split at h
        · cases h
        · next found resolved =>
            use found, resolved
            split at h
            · rw [← Option.some.inj (Except.ok.inj h)]
              apply List.prefix_rfl
            · obtain ⟨_, _, longer⟩ := ih h
              rw [add_chain] at longer
              apply (List.prefix_append _ _).trans longer

/-- What was skipped for the first link stays so. -/
theorem skipped_add (walked : Walked) (item : String) (found : Resolved) (next : String)
    (found' : Resolved) :
  ((walked.add item found).add next found').skipped = (walked.add item found).skipped
  := by
  rw [Walked.add, if_neg]
  rw [add_chain, List.isEmpty_iff]
  apply List.concat_ne_nil

theorem skipped_of_walkBy {resolve : String → Option Resolved} {root item : String} {room : Nat}
    {walked final : Walked} (h : walkBy resolve root room walked item = .ok (some final)) :
  ∃ found, resolve item = some found ∧ final.skipped = (walked.add item found).skipped
  := by
  induction room generalizing walked item with
  | zero =>
      rw [walkBy] at h
      split at h
      · cases h
      · cases h
  | succ room ih =>
      rw [walkBy] at h
      split at h
      · cases h
      · dsimp only at h
        split at h
        · cases h
        · next found resolved =>
            use found, resolved
            split at h
            · rw [← Option.some.inj (Except.ok.inj h)]
            · obtain ⟨_, _, same⟩ := ih h
              rw [same, skipped_add]

/-- A walk that ends in a chain depends on what the tools in the chain resolve to only. -/
theorem walkBy_congr {resolve other : String → Option Resolved} {root item : String} {room : Nat}
    {walked final : Walked} (h : walkBy resolve root room walked item = .ok (some final))
    (same : ∀ link ∈ final.chain, resolve link.item = other link.item) :
  walkBy other root room walked item = .ok (some final)
  := by
  obtain ⟨found, resolved, within⟩ := prefix_of_walkBy h
  have resolved' : other item = some found := by
    rw [← resolved]
    symm
    apply same (found.element item)
    apply within.subset
    apply List.mem_append_right _ (List.mem_singleton_self _)
  induction room generalizing walked item found with
  | zero =>
      rw [walkBy] at h
      split at h
      · cases h
      · cases h
  | succ room ih =>
      rw [walkBy] at h ⊢
      split at h
      · cases h
      · next fresh =>
          rw [if_neg fresh]
          rw [resolved] at h
          rw [resolved']
          dsimp only at h ⊢
          split at h
          · apply h
          · obtain ⟨found', resolved', within'⟩ := prefix_of_walkBy h
            apply ih h found' resolved' within'
            rw [← resolved']
            symm
            apply same (found'.element _)
            apply within'.subset
            apply List.mem_append_right _ (List.mem_singleton_self _)

end Toolshed.Chain
