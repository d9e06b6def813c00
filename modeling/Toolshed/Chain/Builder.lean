import Toolshed.Chain.Resolution
import Toolshed.Chain.Validation
import Toolshed.Host
import Toolshed.Manifest.File

/-!
# Building chains

A chain is built by following executors from a tool to one that has none.  An executor that cannot
be resolved leaves no chain, and a chain must neither come back to a tool nor grow too long.

Manifests are kept as long as their files keep their fingerprints.  A chain is kept as long as the
file of every link does, and no file has appeared that would be preferred over the first one.
-/

namespace Toolshed.Chain

/-- The greatest number of links of a chain. -/
def maxLength : Nat := 10

/-- A candidate that did not load, with the fingerprint of its file then. -/
structure SeenFile where
  path : String
  fingerprint : Option Fingerprint
deriving DecidableEq, Inhabited

/-- A tool that was resolved, with the preferred candidates that did not load. -/
structure Resolved where
  candidate : Candidate
  manifest : Manifest
  skipped : List SeenFile

/-- The element of a chain that a resolved tool makes. -/
def Resolved.element (r : Resolved) (item : String) : Element :=
  .ofManifest item r.candidate.space r.candidate.path r.manifest

/-- A chain with what its freshness depends on. -/
structure StoredChain where
  chain : List Element
  /-- The fingerprints of the files of the links. -/
  fingerprints : List (Option Fingerprint)
  /-- The candidates preferred over the file of the first link that did not load. -/
  skipped : List SeenFile

/-- What chains are built with: the settings, and what was read and built before. -/
structure Builder where
  settings : Settings
  manifests : Cache Manifest
  chains : Cache StoredChain

/-- What is reported of the caches. -/
structure BuilderStats where
  chains : Nat
  manifests : Nat
  chainHits : Nat
deriving DecidableEq, Inhabited

namespace Builder

/-- The builder that has not read anything. -/
def empty (settings : Settings) : Builder :=
  ⟨settings, .empty settings.lifetime settings.capacity,
    .empty settings.lifetime settings.capacity⟩

/-- The builder without anything that it kept. -/
def clear (b : Builder) : Builder :=
  { b with manifests := b.manifests.clear, chains := b.chains.clear }

/-- What is reported of the caches. -/
def stats (b : Builder) : BuilderStats :=
  ⟨b.chains.size, b.manifests.size, b.chains.hits⟩

/-! ### Resolving -/

/-- The manifest in a file, if it loads. -/
def manifest? (host : Host) (path : String) (b : Builder) : Option Manifest × Builder :=
  let fingerprint := host.files.fingerprint? path
  match b.manifests.get host.now path fingerprint with
  | (some manifest, manifests) => (some manifest, { b with manifests })
  | (none, manifests) =>
    match Manifest.ofFile host.files path with
    | .error _ => (none, { b with manifests })
    | .ok manifest =>
      match fingerprint with
      | none => (some manifest, { b with manifests })
      | some fingerprint =>
        (some manifest,
          { b with manifests := manifests.insert host.now path manifest fingerprint })

/-- The first of some candidates that loads, given those that did not load before them. -/
def resolveAmong (host : Host) (skipped : List SeenFile) :
    List Candidate → Builder → Option Resolved × Builder
  | [], b => (none, b)
  | candidate :: candidates, b =>
    match b.manifest? host candidate.path with
    | (some manifest, b) => (some ⟨candidate, manifest, skipped⟩, b)
    | (none, b) =>
      let seen := ⟨candidate.path, host.files.fingerprint? candidate.path⟩
      resolveAmong host (skipped ++ [seen]) candidates b

/-- The first candidate for a tool that loads. -/
def resolve (host : Host) (item : String) (b : Builder) : Option Resolved × Builder :=
  resolveAmong host [] (candidates b.settings host.files item) b

/-! ### Following executors -/

/-- A chain with the candidates that were skipped for its first link. -/
structure Walked where
  chain : List Element
  skipped : List SeenFile
deriving Inhabited

/-- The chain with one more link. -/
def Walked.add (walked : Walked) (item : String) (found : Resolved) : Walked :=
  ⟨walked.chain ++ [found.element item],
    if walked.chain.isEmpty then found.skipped else walked.skipped⟩

/-- The chain from a root on, given the part that leads to an item and the number of links that
may still be added.  There is none when an item cannot be resolved. -/
def follow (host : Host) (root : String) :
    Nat → Walked → String → Builder → Except Failure (Option Walked) × Builder
  | room, walked, item, b =>
    let items := walked.chain.map Element.item
    if item ∈ items then (.error (.circularDependency item (items ++ [item])), b)
    else match room with
      | 0 => (.error (.chainTooDeep root maxLength), b)
      | room + 1 =>
        match b.resolve host item with
        | (none, b) => (.ok none, b)
        | (some found, b) =>
          let walked := walked.add item found
          match found.manifest.executor with
          | none => (.ok (some walked), b)
          | some next => follow host root room walked next b

/-! ### Keeping chains -/

/-- The directories up to the one of a space. -/
def directoriesUpTo (space : Space) (directories : List (String × Space)) :
    List (String × Space) :=
  let isAbove := fun (directory : String × Space) => decide (directory.2 ≠ space)
  directories.takeWhile isAbove ++ (directories.dropWhile isAbove).take 1

/-- The exact paths of a tool that are preferred over the file of a link. -/
def preferredPaths (directories : List (String × Space)) (item : String) (root : Element) :
    List String :=
  let paths := (directoriesUpTo root.space directories).flatMap fun directory =>
    exactPaths item directory.1
  paths.takeWhile fun path => !Path.same path root.path

/-- A file did not load and has not changed since. -/
def isStillSkipped (host : Host) (skipped : List SeenFile) (path : String) : Bool :=
  skipped.any fun seen =>
    Path.same seen.path path && seen.fingerprint.isSome &&
      host.files.fingerprint? path = seen.fingerprint

/-- A file is preferred over the one of the first link now. -/
def isShadowed (host : Host) (settings : Settings) (item : String) (root : Element)
    (skipped : List SeenFile) : Bool :=
  (preferredPaths (settings.typeDirectories host.files .tool) item root).any fun path =>
    host.files.isFile path && !isStillSkipped host skipped path

/-- The files of all links have the fingerprints that they had. -/
def isUnchanged (host : Host) (stored : StoredChain) : Bool :=
  (stored.chain.zip stored.fingerprints).all fun (element, fingerprint) =>
    fingerprint.isSome && host.files.fingerprint? element.path = fingerprint

/-- The chain that is kept for a tool, unless it is out of date; then it is dropped. -/
def kept? (host : Host) (item : String) (b : Builder) : Option (List Element) × Builder :=
  match b.chains.peek? item with
  | none => (none, b)
  | some stored =>
    match stored.chain.head? with
    | none => (none, b)
    | some root =>
      if isShadowed host b.settings item root stored.skipped then
        (none, { b with chains := b.chains.erase item })
      else match b.chains.get host.now item (host.files.fingerprint? root.path) with
        | (none, chains) => (none, { b with chains })
        | (some stored, chains) =>
          if isUnchanged host stored then (some stored.chain, { b with chains })
          else (none, { b with chains := chains.erase item })

/-- A chain kept for a tool. -/
def keep (host : Host) (item : String) (walked : Walked) (b : Builder) : Builder :=
  let fingerprints := walked.chain.map fun element => host.files.fingerprint? element.path
  match fingerprints.head? with
  | some (some root) =>
    let stored := ⟨walked.chain, fingerprints, walked.skipped⟩
    { b with chains := b.chains.insert host.now item stored root }
  | _ => b

/-! ### Building -/

/-- The chain of a tool, built anew. -/
def rebuild (host : Host) (item : String) (b : Builder) :
    Except Failure (List Element) × Builder :=
  match follow host item maxLength ⟨[], []⟩ item b with
  | (.error failure, b) => (.error failure, b)
  | (.ok none, b) => (.ok [], b)
  | (.ok (some walked), b) => (.ok walked.chain, b.keep host item walked)

/-- The chain of a tool; one that is kept is used unless a new one is asked for. -/
def build (host : Host) (item : String) (anew : Bool) (b : Builder) :
    Except Failure (List Element) × Builder :=
  if anew then b.rebuild host item
  else match b.kept? host item with
    | (some chain, b) => (.ok chain, b)
    | (none, b) => b.rebuild host item

end Builder

end Toolshed.Chain
