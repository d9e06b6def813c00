import Toolshed.Manifest.File
import Mathlib.Tactic.Use

/-!
# What fingerprints tell

A fingerprint stands for the content of a file.  This is sound as long as no file is changed
without its time or its size, and then files with the fingerprint that they had hold the manifests
that they held.
-/

namespace Toolshed

namespace FileTree

/-- What a file holds. -/
def contentOf? : FileTree → Option ByteArray
  | .file content _ _ => some content
  | _ => none

/-- What the file to which a path leads holds. -/
def content? (tree : FileTree) (path : String) : Option ByteArray :=
  (tree.find path).toOption.bind contentOf?

/-- The text of a file is that of its content. -/
theorem toOption_read (tree : FileTree) (path : String) :
  (tree.read path).toOption = (tree.content? path).bind String.fromUTF8?
  := by
  rw [read, content?]
  rcases tree.find path with fault | node
  · rfl
  · rcases node with ⟨content, modified, isExecutable⟩ | target | entries
    · simp only [Except.toOption, contentOf?, Option.bind_some]
      rcases h : String.fromUTF8? content with _ | text
      · simp [bind, Except.bind, h]
      · simp [bind, Except.bind, h, pure, Except.pure]
    · rfl
    · rfl

/-- A path without a fingerprint leads nowhere, so it has no content. -/
theorem content?_of_fingerprint? {tree : FileTree} {path : String}
    (missing : tree.fingerprint? path = none) :
  tree.content? path = none
  := by
  rw [fingerprint?, Option.map_eq_none_iff] at missing
  rw [content?, missing]
  rfl

/-! ### Nodes -/

mutual

/-- All nodes of a tree, itself included. -/
def nodes : FileTree → List FileTree
  | .file content modified isExecutable => [.file content modified isExecutable]
  | .link target => [.link target]
  | .directory entries => .directory entries :: nodesIn entries

/-- All nodes of the trees among some entries. -/
def nodesIn : List (String × FileTree) → List FileTree
  | [] => []
  | (_, node) :: entries => nodes node ++ nodesIn entries

end

theorem self_mem_nodes (tree : FileTree) :
  tree ∈ tree.nodes
  := by
  rcases tree with ⟨content, modified, isExecutable⟩ | target | entries
  · rw [nodes]
    apply List.mem_singleton_self
  · rw [nodes]
    apply List.mem_singleton_self
  · rw [nodes]
    apply List.mem_cons_self

theorem mem_nodesIn {name : String} {entries : List (String × FileTree)} {child node : FileTree}
    (named : child? name entries = some child) (h : node ∈ child.nodes) :
  node ∈ nodesIn entries
  := by
  induction entries with
  | nil => cases named
  | cons entry entries ih =>
      obtain ⟨other, t⟩ := entry
      rw [nodesIn, List.mem_append]
      rw [child?, Assoc.get?] at named
      split at named
      · left
        rw [Option.some.inj named]
        apply h
      · right
        apply ih named

theorem mem_nodes_of_at? {names : List String} {tree node : FileTree}
    (h : tree.at? names = some node) :
  node ∈ tree.nodes
  := by
  induction names generalizing tree with
  | nil =>
      rw [at?] at h
      rw [← Option.some.inj h]
      apply self_mem_nodes
  | cons name rest ih =>
      rcases tree with ⟨content, modified, isExecutable⟩ | target | entries
      · cases h
      · cases h
      · rw [at?] at h
        obtain ⟨child, named, below⟩ := Option.bind_eq_some_iff.mp h
        rw [nodes]
        apply List.mem_cons_of_mem
        apply mem_nodesIn named (ih below)

/-- A path leads to a node of the tree. -/
theorem mem_nodes_of_find {tree node : FileTree} {path : String} (h : tree.find path = .ok node) :
  node ∈ tree.nodes
  := by
  rw [find] at h
  rcases hl : tree.location path with fault | names
  · rw [hl] at h
    cases h
  · rw [hl] at h
    rcases hn : tree.at? names with _ | found
    · simp [bind, Except.bind, hn] at h
    · simp only [bind, Except.bind, hn, pure, Except.pure, Except.ok.injEq] at h
      rw [← h]
      apply mem_nodes_of_at? hn

end FileTree

/-! ### Manifests -/

/-- The manifest in a file, if it loads. -/
def Manifest.inFile? (files : FileTree) (path : String) : Option Manifest :=
  (Manifest.ofFile files path).toOption

/-- The manifest depends on the text of the file only. -/
theorem Manifest.inFile?_eq (files : FileTree) (path : String) :
  Manifest.inFile? files path
    = (Format.ofToolPath? path).bind fun format =>
        (files.read path).toOption.bind fun text =>
          (format.fields text.toList).toOption.map Manifest.ofFields
  := by
  rw [Manifest.inFile?, Manifest.ofFile]
  rcases Format.ofToolPath? path with _ | format
  · rfl
  · rcases files.read path with fault | text
    · rfl
    · change (format.fields text.toList >>= fun fields =>
        pure (Manifest.ofFields fields)).toOption
          = (format.fields text.toList).toOption.map Manifest.ofFields
      rcases format.fields text.toList with fault | fields
      · rfl
      · rfl

theorem Manifest.inFile?_congr {files other : FileTree} {path : String}
    (h : files.content? path = other.content? path) :
  Manifest.inFile? files path = Manifest.inFile? other path
  := by
  rw [Manifest.inFile?_eq, Manifest.inFile?_eq, FileTree.toOption_read, FileTree.toOption_read, h]

/-- A file that holds a manifest has a fingerprint. -/
theorem Manifest.fingerprint?_of_inFile? {files : FileTree} {path : String} {manifest : Manifest}
    (h : Manifest.inFile? files path = some manifest) :
  ∃ fingerprint, files.fingerprint? path = some fingerprint
  := by
  rw [← Option.ne_none_iff_exists']
  intro missing
  rw [Manifest.inFile?_eq, FileTree.toOption_read, FileTree.content?_of_fingerprint? missing] at h
  obtain ⟨format, _, h⟩ := Option.bind_eq_some_iff.mp h
  obtain ⟨text, read, _⟩ := Option.bind_eq_some_iff.mp h
  cases read

/-! ### Fingerprints that tell -/

/-- In some trees, a path with the same fingerprint in two of them has the same content in both. -/
def FingerprintsTell (trees : List FileTree) : Prop :=
  ∀ tree ∈ trees, ∀ other ∈ trees, ∀ path fingerprint,
    tree.fingerprint? path = some fingerprint → other.fingerprint? path = some fingerprint →
    tree.content? path = other.content? path

namespace FingerprintsTell

variable {trees : List FileTree} {tree other : FileTree}

theorem content?_eq (tell : FingerprintsTell trees) (ht : tree ∈ trees) (ho : other ∈ trees)
    {path : String} (same : tree.fingerprint? path = other.fingerprint? path) :
  tree.content? path = other.content? path
  := by
  rcases h : other.fingerprint? path with _ | fingerprint
  · rw [h] at same
    rw [FileTree.content?_of_fingerprint? h, FileTree.content?_of_fingerprint? same]
  · rw [h] at same
    apply tell tree ht other ho path fingerprint same h

/-- A file with the fingerprint that it had holds the manifest that it held, or none as before. -/
theorem inFile?_eq (tell : FingerprintsTell trees) (ht : tree ∈ trees) (ho : other ∈ trees)
    {path : String} (same : tree.fingerprint? path = other.fingerprint? path) :
  Manifest.inFile? tree path = Manifest.inFile? other path
  := by
  apply Manifest.inFile?_congr
  apply tell.content?_eq ht ho same

/-- Fingerprints tell if they do for all nodes of the trees, wherever these are. -/
theorem of_nodes
    (h : ∀ tree ∈ trees, ∀ other ∈ trees, ∀ node ∈ tree.nodes, ∀ node' ∈ other.nodes,
      node.fingerprintOf = node'.fingerprintOf → node.contentOf? = node'.contentOf?) :
  FingerprintsTell trees
  := by
  intro tree ht other ho path fingerprint ft fo
  rw [FileTree.fingerprint?] at ft fo
  rw [FileTree.content?, FileTree.content?]
  rcases found : tree.find path with fault | node
  · rw [found] at ft
    cases ft
  · rcases found' : other.find path with fault | node'
    · rw [found'] at fo
      cases fo
    · rw [found] at ft
      rw [found'] at fo
      apply h tree ht other ho node (FileTree.mem_nodes_of_find found) node'
        (FileTree.mem_nodes_of_find found')
      apply Option.some.inj (ft.trans fo.symm)

end FingerprintsTell

end Toolshed
