import Toolshed.Digest.Verification
import Toolshed.Proofs.Digest.Identity
import Mathlib.Data.Set.Function

/-!
# What a hash tells apart

What is hashed is the canonical text of a payload.  The payloads of items of different kinds have
different first keys.  The payload of a directive and that of a knowledge entry hold the content of
the file, and the payload of a tool holds what identifies the tool.

Main statement: where the digest has no collision, hashes of items of different kinds differ, those
of directives and entries tell their contents, and those of tools that are shell sources or
manifests tell exactly their names and what they declare (`hashFile_tellsApart`).
-/

namespace Toolshed.Integrity

open Json

/-! ### Payloads -/

/-- The members of the object whose canonical text is hashed. -/
def payload (kind : ItemKind) (path content : String) : Fields :=
  let stem := (Path.stem? path).getD ""
  match kind with
  | .tool =>
    let identity := toolIdentity path stem content.toList
    [("tool_id", .string stem), ("version", .string (identityVersion identity)),
      ("manifest", .object identity), ("files", .array [])]
  | .directive =>
    let identity := Directive.identity content.toList
    [("name", .string ((textOf? identity "name").getD stem)),
      ("version", .string (identityVersion identity)), ("xml_content", .string content),
      ("metadata", .object identity)]
  | .knowledge =>
    let identity := Frontmatter.identity content.toList
    [("id", .string ((textOf? identity "id").getD stem)),
      ("version", .string (identityVersion identity)), ("content", .string content),
      ("metadata", .object identity)]

/-- The text that is hashed. -/
def hashedText (kind : ItemKind) (path content : String) : String :=
  String.ofList (Value.object (payload kind path content)).canonical

theorem hashItem_eq (kind : ItemKind) (path content : String) :
  hashItem kind path content = Digest.sha256Text (hashedText kind path content)
  := by
  cases kind with
  | tool | directive | knowledge => rfl

theorem hashFile_eq {files : FileTree} {path content : String}
    (read : files.read path = .ok content) (kind : ItemKind) :
  hashFile files kind path = .ok (Digest.sha256Text (hashedText kind path content))
  := by
  rw [hashFile, read, ← hashItem_eq]
  rfl

/-! ### Kinds -/

/-- The first key in the canonical text of a payload. -/
def firstKey : ItemKind → String
  | .tool => "files"
  | .directive => "metadata"
  | .knowledge => "content"

theorem exists_sortedMembers_payload (kind : ItemKind) (path content : String) :
  ∃ x rest, Value.sortedMembers (payload kind path content) = (firstKey kind, x) :: rest
  := by
  cases kind with
  | tool | directive | knowledge => exact ⟨_, _, rfl⟩

theorem head?_drop_hashedText (kind : ItemKind) (path content : String) :
  ((hashedText kind path content).toList.drop 2).head? = (firstKey kind).toList.head?
  := by
  obtain ⟨x, rest, first⟩ := exists_sortedMembers_payload kind path content
  obtain ⟨others, text⟩ := Value.exists_canonical_object first
  rw [hashedText, String.toList_ofList, text]
  cases kind with
  | tool | directive | knowledge => rfl

/-- Items of different kinds have different texts. -/
theorem kind_eq_of_hashedText_eq {kind kind' : ItemKind} {path path' content content' : String}
    (same : hashedText kind path content = hashedText kind' path' content') :
  kind = kind'
  := by
  have heads : (firstKey kind).toList.head? = (firstKey kind').toList.head? := by
    rw [← head?_drop_hashedText kind path content, same, head?_drop_hashedText]
  revert heads
  cases kind with
  | tool | directive | knowledge => cases kind' with
    | tool | directive | knowledge => decide

/-! ### Payloads as values -/

theorem nodup_keys_payload (kind : ItemKind) (path content : String) :
  (Assoc.keys (payload kind path content)).Nodup
  := by
  cases kind with
  | tool =>
      change ["tool_id", "version", "manifest", "files"].Nodup
      decide
  | directive =>
      change ["name", "version", "xml_content", "metadata"].Nodup
      decide
  | knowledge =>
      change ["id", "version", "content", "metadata"].Nodup
      decide

theorem isProper_payload {kind : ItemKind} {path : String} (plain : kind = .tool → IsPlainTool path)
    (content : String) :
  (Value.object (payload kind path content)).IsProper
  := by
  apply Value.IsProper.object (nodup_keys_payload kind path content)
  cases kind with
  | tool =>
      rw [payload]
      simp only [List.forall_mem_cons]
      exact ⟨.string _, .string _, isProper_toolIdentity (plain rfl) _ _, .array nofun, nofun⟩
  | directive =>
      rw [payload]
      simp only [List.forall_mem_cons]
      exact ⟨.string _, .string _, .string _, Directive.isProper_identity _, nofun⟩
  | knowledge =>
      rw [payload]
      simp only [List.forall_mem_cons]
      exact ⟨.string _, .string _, .string _, Frontmatter.isProper_identity _, nofun⟩

section

variable {kind : ItemKind} {path path' : String} (plain : kind = .tool → IsPlainTool path)
  (plain' : kind = .tool → IsPlainTool path') {content content' : String}

include plain plain'

/-- The texts of items are the same if and only if their payloads are, up to the order of
members. -/
theorem hashedText_eq_iff_alike :
  hashedText kind path content = hashedText kind path' content'
    ↔ Value.Alike (.object (payload kind path content)) (.object (payload kind path' content'))
  := by
  rw [hashedText, hashedText, String.ofList_inj]
  apply Value.canonical_eq_iff_alike
  · apply isProper_payload plain
  · apply isProper_payload plain'

theorem rel_get?_of_hashedText_eq
    (same : hashedText kind path content = hashedText kind path' content') (key : String) :
  Option.Rel Value.Alike (Assoc.get? key (payload kind path content))
    (Assoc.get? key (payload kind path' content'))
  := by
  rw [hashedText_eq_iff_alike plain plain', Value.alike_object_iff_get?] at same
  · apply same
  · apply nodup_keys_payload
  · apply nodup_keys_payload

end

/-! ### Contents -/

/-- The text of a directive and that of an entry hold the content of the file. -/
theorem content_eq_of_hashedText_eq {kind : ItemKind} (noTool : kind ≠ .tool)
    {path path' content content' : String}
    (same : hashedText kind path content = hashedText kind path' content') :
  content = content'
  := by
  have members := rel_get?_of_hashedText_eq (fun tool => absurd tool noTool)
    (fun tool => absurd tool noTool) same
  cases kind with
  | tool => cases noTool rfl
  | directive =>
      cases members "xml_content" with
      | some alike =>
          cases alike
          rfl
  | knowledge =>
      cases members "content" with
      | some alike =>
          cases alike
          rfl

/-! ### Tools -/

section

variable {path path' : String} (plain : IsPlainTool path) (plain' : IsPlainTool path')

include plain

theorem exists_stem? :
  ∃ stem, Path.stem? path = some stem
  := by
  have extension : (Path.extension? path).isSome = true := by
    rw [Option.isSome_iff_ne_none]
    intro missing
    rw [IsPlainTool, missing] at plain
    revert plain
    decide
  obtain ⟨_, found⟩ := Option.isSome_iff_exists.mp extension
  obtain ⟨name, last, -⟩ := Option.bind_eq_some_iff.mp found
  exact ⟨_, by rw [Path.stem?, last, Option.map_some]⟩

include plain'

/-- The texts of two tools are the same if and only if they have the same name and declare the
same version and type. -/
theorem hashedText_tool_eq_iff {content content' : String} :
  hashedText .tool path content = hashedText .tool path' content'
    ↔ Path.stem? path = Path.stem? path'
      ∧ declaredVersion? path content.toList = declaredVersion? path' content'.toList
      ∧ declaredType? path content.toList = declaredType? path' content'.toList
  := by
  obtain ⟨stem, named⟩ := exists_stem? plain
  obtain ⟨stem', named'⟩ := exists_stem? plain'
  have identities := alike_toolIdentity_iff plain plain' stem stem' content.toList content'.toList
  rw [named, named', Option.some.injEq, ← identities]
  constructor
  · intro same
    have members := rel_get?_of_hashedText_eq (fun _ => plain) (fun _ => plain') same "manifest"
    rw [payload, payload, named, named'] at members
    cases members with
    | some alike => apply alike
  · intro alike
    obtain ⟨stems, versions, -⟩ := identities.mp alike
    rw [hashedText_eq_iff_alike (fun _ => plain) (fun _ => plain'), payload, payload, named, named',
      identityVersion_toolIdentity plain, identityVersion_toolIdentity plain', versions]
    have names : Value.Alike (.string ((some stem).getD "")) (.string ((some stem').getD "")) := by
      rw [stems]
      apply Value.Alike.string
    apply Value.Alike.object _ (List.Perm.refl _)
    apply List.Forall₂.cons (.intro "tool_id" names)
    apply List.Forall₂.cons (.intro "version" (.string _))
    apply List.Forall₂.cons (.intro "manifest" alike)
    apply List.Forall₂.cons (.intro "files" (.array .nil))
    apply List.Forall₂.nil

end

/-! ### Hashes -/

/-- Hashes tell items of different kinds apart, the contents of directives and entries, and what
identifies tools, provided that the digest tells the two texts that are hashed apart. -/
theorem hashFile_tellsApart {files files' : FileTree} {kind kind' : ItemKind}
    {path path' content content' : String} (read : files.read path = .ok content)
    (read' : files'.read path' = .ok content')
    (apart : Set.InjOn Digest.sha256Text
      {hashedText kind path content, hashedText kind' path' content'}) :
  (kind ≠ kind' → hashFile files kind path ≠ hashFile files' kind' path')
    ∧ (kind = kind' → kind ≠ .tool → hashFile files kind path = hashFile files' kind' path' →
      content = content')
    ∧ (kind = .tool → kind' = .tool → IsPlainTool path → IsPlainTool path' →
      (hashFile files kind path = hashFile files' kind' path'
        ↔ Path.stem? path = Path.stem? path'
          ∧ declaredVersion? path content.toList = declaredVersion? path' content'.toList
          ∧ declaredType? path content.toList = declaredType? path' content'.toList))
  := by
  have texts : hashFile files kind path = hashFile files' kind' path'
      ↔ hashedText kind path content = hashedText kind' path' content' := by
    rw [hashFile_eq read, hashFile_eq read', Except.ok.injEq]
    apply apart.eq_iff
    · apply Set.mem_insert
    · apply Set.mem_insert_of_mem _ (Set.mem_singleton _)
  simp only [ne_eq, texts]
  refine ⟨?_, ?_, ?_⟩
  · intro different same
    apply different (kind_eq_of_hashedText_eq same)
  · rintro rfl noTool same
    apply content_eq_of_hashedText_eq noTool same
  · rintro rfl rfl plain plain'
    apply hashedText_tool_eq_iff plain plain'

/-- A manifest with a version, a type and something else. -/
def manifestText : String :=
  "\x7b\"version\": \"2\", \"inputs\": [1.5], \"tool_type\": \"x\"\x7d"

/-- A source that declares the same type, and at last the same version. -/
def sourceText : String :=
  "__version__=1\n__tool_type__='x'\n__version__=2\n"

/-- A machine with both of them, and with an empty file. -/
def twins : FileTree :=
  .directory [("e", .file "".toUTF8 0 false), ("t.json", .file manifestText.toUTF8 0 false),
    ("t.sh", .file sourceText.toUTF8 0 false)]

/-- A manifest and a source of the same name have the same hash, as they declare the same; the empty
file has different hashes as a directive and as an entry. -/
theorem hashFile_tellsApart_twins :
  twins.read "/t.json" = .ok manifestText ∧ twins.read "/t.sh" = .ok sourceText
    ∧ twins.read "/e" = .ok ""
    ∧ hashFile twins .tool "/t.json" = hashFile twins .tool "/t.sh"
    ∧ declaredVersion? "/t.json" manifestText.toList = declaredVersion? "/t.sh" sourceText.toList
    ∧ declaredType? "/t.json" manifestText.toList = declaredType? "/t.sh" sourceText.toList
    ∧ hashFile twins .directive "/e" ≠ hashFile twins .knowledge "/e"
  := by
  have manifest : twins.read "/t.json" = .ok manifestText := by
    decide +kernel
  have source : twins.read "/t.sh" = .ok sourceText := by
    decide +kernel
  have empty : twins.read "/e" = .ok "" := by
    decide +kernel
  have texts : hashedText .tool "/t.json" manifestText = hashedText .tool "/t.sh" sourceText := by
    decide +kernel
  have hashes : hashFile twins .tool "/t.json" = hashFile twins .tool "/t.sh" := by
    rw [hashFile_eq manifest, hashFile_eq source, texts]
  have differ : Digest.sha256Text (hashedText .directive "/e" "")
      ≠ Digest.sha256Text (hashedText .knowledge "/e" "") := by
    decide +kernel
  have twinTexts : Set.InjOn Digest.sha256Text
      {hashedText .tool "/t.json" manifestText, hashedText .tool "/t.sh" sourceText} :=
    Set.injOn_pair.mpr fun _ => texts
  have emptyTexts : Set.InjOn Digest.sha256Text
      {hashedText .directive "/e" "", hashedText .knowledge "/e" ""} :=
    Set.injOn_pair.mpr fun same => absurd same differ
  obtain ⟨-, -, tools⟩ := hashFile_tellsApart manifest source twinTexts
  obtain ⟨-, version, type⟩ := (tools rfl rfl (by decide) (by decide)).mp hashes
  obtain ⟨kinds, -, -⟩ := hashFile_tellsApart empty empty emptyTexts
  exact ⟨manifest, source, empty, hashes, version, type, kinds (by decide)⟩

end Toolshed.Integrity
