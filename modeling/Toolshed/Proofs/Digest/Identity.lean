import Toolshed.Digest.Identity
import Toolshed.Proofs.Json.Members
import Toolshed.Proofs.Yaml.Proper

/-!
# What identifies an item

The fields that identify an item are a proper object.  A tool that is written as a shell source or
as a manifest is identified by its name, and by the version and the type that it declares: in a
source the last assignments to the names that stand for them, in a manifest the scalars under the
two fields.  Texts that cannot be read declare nothing.
-/

namespace Toolshed

open Json

/-! ### Fields of items that are no tools -/

theorem Directive.isProper_identity (content : List Char) :
  (Value.object (identity content)).IsProper
  := by
  rw [identity]
  apply Value.IsProper.object
  · rw [List.map_filterMap]
    apply List.Nodup.filterMap
    · intro name name' key here here'
      simp only [textField, Option.map_map, Option.mem_def, Option.map_eq_some_iff,
        Function.comp_apply, String.ofList_toList] at here here'
      obtain ⟨_, -, rfl⟩ := here
      obtain ⟨_, -, same⟩ := here'
      apply same.symm
    · decide
  · intro m among
    obtain ⟨name, -, found⟩ := List.mem_filterMap.mp among
    obtain ⟨text, -, rfl⟩ := Option.map_eq_some_iff.mp found
    apply Value.IsProper.string

theorem Frontmatter.isProper_identity (content : List Char) :
  (Value.object (identity content)).IsProper
  := by
  rw [identity]
  split
  · next members found =>
      obtain ⟨block, -, reads⟩ := Option.bind_eq_some_iff.mp found
      apply Yaml.isProper_of_parse? reads
  · apply Value.IsProper.object
    · apply List.nodup_nil
    · nofun

namespace Integrity

/-! ### What a tool declares -/

/-- The file of a tool whose declarations are read from a shell source or from a manifest. -/
def IsPlainTool (path : String) : Prop :=
  Path.extension? path ∈ [some "yaml", some "yml", some "json", some "sh"]

instance (path : String) : Decidable (IsPlainTool path) :=
  inferInstanceAs (Decidable (_ ∈ _))

/-- The scalar under a field of a manifest, if it can be read. -/
def scalarMember? (field : String) (manifest : Option Value) : Option Value :=
  ((manifest.bind Frontmatter.mapping?).bind (Assoc.get? field)).filter (·.scalar?.isSome)

/-- What a shell source declares by a name, or a manifest by a field. -/
def declared? (path : String) (content : List Char) (name field : String) : Option Value :=
  if Path.extension? path = some "sh" then Assoc.get? name (Source.Shell.readModule content).values
  else if Path.extension? path = some "json" then scalarMember? field (Json.parse? content)
  else scalarMember? field (Yaml.parse? content)

/-- The version that a tool declares. -/
def declaredVersion? (path : String) (content : List Char) : Option Value :=
  declared? path content "__version__" "version"

/-- The type that a tool declares. -/
def declaredType? (path : String) (content : List Char) : Option Value :=
  declared? path content "__tool_type__" "tool_type"

/-! ### Shell sources -/

theorem assignment_of_assignment? {line : List Char} {a : Source.Assignment}
    (h : Source.Shell.assignment? line = some a) :
  (∃ text, a.value = .string text) ∧ a.constant = true
  := by
  rw [Source.Shell.assignment?] at h
  split at h
  · obtain ⟨text, -, rfl⟩ := Option.map_eq_some_iff.mp h
    exact ⟨⟨_, rfl⟩, rfl⟩
  · cases h

/-- The values that a shell source assigns are texts. -/
theorem assignment_of_mem {nesting : Source.Shell.Nesting} {lines : List (List Char)}
    {a : Source.Assignment} (among : a ∈ Source.Shell.assignments nesting lines) :
  (∃ text, a.value = .string text) ∧ a.constant = true
  := by
  induction lines generalizing nesting with
  | nil => cases among
  | cons line lines ih =>
      rw [Source.Shell.assignments, List.mem_append] at among
      rcases among with here | there
      · split at here
        · apply assignment_of_assignment? (Option.mem_toList.mp here)
        · cases here
      · apply ih there

/-! ### Entries that identify a tool -/

/-- Entries tell a version and a type, the last one of each counting, and nothing else. -/
structure Tells (entries : List (String × Value)) (version toolType : Option Value) : Prop where
  version : Assoc.last? "version" entries = version
  toolType : Assoc.last? "tool_type" entries = toolType
  others : ∀ key, key ≠ "version" → key ≠ "tool_type" → Assoc.last? key entries = none

theorem last?_identityConstants {m : Source.Module} (constant : ∀ a ∈ m.assignments, a.constant)
    {name field : String} (entry : (name, field) ∈ identityFields) :
  Assoc.last? field (identityConstants m) = Assoc.get? name m.values
  := by
  rw [Source.Module.values, Assoc.get?_ofEntries, Assoc.last?, Assoc.last?, identityConstants,
    List.filterMap_filterMap, List.filterMap_map]
  congr 1
  apply List.filterMap_congr
  intro a among
  rw [if_pos (constant a among), Function.comp_apply]
  by_cases same : a.name = name
  · have found : Assoc.get? name identityFields = some field :=
      (Assoc.get?_eq_some_iff (by decide)).mpr entry
    simp [found, same]
  · have other : Assoc.get? a.name identityFields ≠ some field := by
      rw [ne_eq, Assoc.get?_eq_some_iff (by decide)]
      intro entry'
      have distinct : (identityFields.map Prod.snd).Nodup := by decide
      have equal := List.inj_on_of_nodup_map distinct entry' entry rfl
      apply same (congrArg Prod.fst equal)
    cases found : Assoc.get? a.name identityFields with
    | none => simp [same]
    | some k =>
        rw [found, ne_eq, Option.some.injEq] at other
        simp [same, other]

theorem keys_identityConstants (m : Source.Module) :
  ∀ entry ∈ identityConstants m, entry.1 ∈ identityFields.map Prod.snd
  := by
  intro entry among
  obtain ⟨a, -, found⟩ := List.mem_filterMap.mp among
  split at found
  · obtain ⟨field, here, rfl⟩ := Option.map_eq_some_iff.mp found
    apply List.mem_map_of_mem (f := Prod.snd) ((Assoc.get?_eq_some_iff (by decide)).mp here)
  · cases found

theorem keys_identityMembers (fields : Fields) :
  ∀ entry ∈ identityMembers fields, entry.1 ∈ identityFields.map Prod.snd
  := by
  intro entry among
  obtain ⟨field, here, found⟩ := List.mem_filterMap.mp among
  obtain ⟨v, -, rfl⟩ := Option.map_eq_some_iff.mp found
  apply List.mem_map_of_mem here

/-- Entries with the fields of an identity as their keys tell what is last under them. -/
theorem tells_of_keys {entries : List (String × Value)}
    (keys : ∀ entry ∈ entries, entry.1 ∈ identityFields.map Prod.snd) :
  Tells entries (Assoc.last? "version" entries) (Assoc.last? "tool_type" entries)
  := by
  refine ⟨rfl, rfl, ?_⟩
  intro key notVersion notType
  apply Assoc.last?_eq_none
  rw [List.mem_map]
  rintro ⟨entry, among, rfl⟩
  have field := keys entry among
  simp [identityFields, notVersion, notType] at field

theorem tells_identityConstants {m : Source.Module} (constant : ∀ a ∈ m.assignments, a.constant) :
  Tells (identityConstants m) (Assoc.get? "__version__" m.values)
    (Assoc.get? "__tool_type__" m.values)
  := by
  have version : ("__version__", "version") ∈ identityFields := by
    decide
  have toolType : ("__tool_type__", "tool_type") ∈ identityFields := by
    decide
  rw [← last?_identityConstants constant version, ← last?_identityConstants constant toolType]
  apply tells_of_keys (keys_identityConstants m)

theorem tells_identityMembers (fields : Fields) :
  Tells (identityMembers fields) ((Assoc.get? "version" fields).filter (·.scalar?.isSome))
    ((Assoc.get? "tool_type" fields).filter (·.scalar?.isSome))
  := by
  have tells := tells_of_keys (keys_identityMembers fields)
  simp only [identityMembers, identityFields, List.filterMap_cons, List.filterMap_nil] at tells ⊢
  generalize (Assoc.get? "version" fields).filter _ = version at tells ⊢
  generalize (Assoc.get? "tool_type" fields).filter _ = toolType at tells ⊢
  cases version with
  | none => cases toolType with
    | none => apply tells
    | some t => apply tells
  | some v => cases toolType with
    | none => apply tells
    | some t => apply tells

/-! ### Manifests -/

theorem toOption_manifestFields (v : Value) :
  (Format.manifestFields v).toOption = Frontmatter.mapping? v
  := by
  rw [Format.manifestFields]
  cases Frontmatter.mapping? v with
  | none => rfl
  | some members => rfl

theorem toOption_fields_json (content : List Char) :
  (Format.json.fields content).toOption = (Json.parse? content).bind Frontmatter.mapping?
  := by
  rw [Format.fields]
  cases Json.parse? content with
  | none => rfl
  | some v => apply toOption_manifestFields

theorem toOption_fields_yaml (content : List Char) :
  (Format.yaml.fields content).toOption = (Yaml.parse? content).bind Frontmatter.mapping?
  := by
  rw [Format.fields]
  cases Yaml.parse? content with
  | none => rfl
  | some v => apply toOption_manifestFields

theorem tells_manifest (manifest : Option Value) :
  Tells (((manifest.bind Frontmatter.mapping?).map identityMembers).getD [])
    (scalarMember? "version" manifest) (scalarMember? "tool_type" manifest)
  := by
  rw [scalarMember?, scalarMember?]
  cases manifest.bind Frontmatter.mapping? with
  | none => exact ⟨rfl, rfl, fun _ _ _ => rfl⟩
  | some members => apply tells_identityMembers

/-! ### Identities of tools -/

/-- The entries that identify a tool besides its name. -/
def identityEntries (path : String) (content : List Char) : List (String × Value) :=
  match Format.ofToolPath? path with
  | some (.source language) =>
    ((language.readModule content).toOption.map identityConstants).getD []
  | some format => ((format.fields content).toOption.map identityMembers).getD []
  | none => []

theorem toolIdentity_eq (path name : String) (content : List Char) :
  toolIdentity path name content
    = Assoc.insertAll (identityEntries path content) [("tool_id", .string name)]
  := by
  rw [toolIdentity, identityEntries]
  cases Format.ofToolPath? path with
  | none => rfl
  | some format => cases format with
    | source language => rfl
    | yaml | json | directive | frontmatter => rfl

/-- The entries tell what the tool declares. -/
theorem tells_identityEntries {path : String} (plain : IsPlainTool path) (content : List Char) :
  Tells (identityEntries path content) (declaredVersion? path content)
    (declaredType? path content)
  := by
  simp only [IsPlainTool, List.mem_cons, List.not_mem_nil, or_false] at plain
  have yaml := tells_manifest (Yaml.parse? content)
  have json := tells_manifest (Json.parse? content)
  rw [← toOption_fields_yaml] at yaml
  rw [← toOption_fields_json] at json
  rw [identityEntries, Format.ofToolPath?, declaredVersion?, declaredType?, declared?, declared?]
  rcases plain with extension | extension | extension | extension
  · rw [extension]
    exact yaml
  · rw [extension]
    exact yaml
  · rw [extension]
    exact json
  · rw [extension]
    apply tells_identityConstants
    intro a among
    apply (assignment_of_mem among).2

/-! ### Declared values -/

theorem isProper_of_scalarMember? {field : String} {manifest : Option Value} {v : Value}
    (proper : ∀ w, manifest = some w → w.IsProper) (h : scalarMember? field manifest = some v) :
  v.IsProper ∧ v.scalar?.isSome = true
  := by
  obtain ⟨found, scalar⟩ := Option.filter_eq_some_iff.mp h
  obtain ⟨members, mapping, found⟩ := Option.bind_eq_some_iff.mp found
  obtain ⟨w, rfl, mapping⟩ := Option.bind_eq_some_iff.mp mapping
  refine ⟨?_, scalar⟩
  have properHere := proper w rfl
  cases properHere with
  | object _ each =>
      cases mapping
      apply each _ (Assoc.mem_of_get? found)
  | null =>
      cases mapping
      cases found
  | bool | number | string | array => cases mapping

/-- What a tool declares is a proper scalar. -/
theorem isProper_of_declared? {path : String} {content : List Char} {name field : String}
    {v : Value} (h : declared? path content name field = some v) :
  v.IsProper ∧ v.scalar?.isSome = true
  := by
  rw [declared?] at h
  split at h
  · rcases Assoc.mem_insertAll (Assoc.mem_of_get? h) with among | ⟨⟨⟩⟩
    obtain ⟨a, among, same⟩ := List.mem_map.mp among
    obtain ⟨text, value⟩ := (assignment_of_mem among).1
    cases same
    rw [value]
    exact ⟨.string text, rfl⟩
  · split at h
    · apply isProper_of_scalarMember? _ h
      intro w
      apply Json.isProper_of_parse?
    · apply isProper_of_scalarMember? _ h
      intro w
      apply Yaml.isProper_of_parse?

/-! ### Members of identities -/

section

variable {path path' : String} (plain : IsPlainTool path) (plain' : IsPlainTool path')
  (name name' : String) (content content' : List Char)

theorem nodup_keys_toolIdentity (path name : String) (content : List Char) :
  (Assoc.keys (toolIdentity path name content)).Nodup
  := by
  rw [toolIdentity_eq]
  apply Assoc.nodup_keys_insertAll
  apply List.nodup_singleton

include plain

theorem get?_toolIdentity (key : String) :
  Assoc.get? key (toolIdentity path name content)
    = if key = "tool_id" then some (.string name)
      else if key = "version" then declaredVersion? path content
      else if key = "tool_type" then declaredType? path content
      else none
  := by
  have tells := tells_identityEntries plain content
  rw [toolIdentity_eq, Assoc.get?_insertAll, Assoc.get?, Assoc.get?]
  split
  · next same =>
      subst same
      rw [tells.others "tool_id" (by decide) (by decide)]
      rfl
  · next other =>
      rw [if_neg (Ne.symm other), Option.or_none]
      split
      · next same => rw [same, tells.version]
      · next notVersion =>
          split
          · next same => rw [same, tells.toolType]
          · next notType => apply tells.others key notVersion notType

/-- The version of a tool is the one it declares, or the default one. -/
theorem identityVersion_toolIdentity :
  identityVersion (toolIdentity path name content)
    = ((declaredVersion? path content).bind Value.scalar?).getD defaultVersion
  := by
  rw [identityVersion, textOf?, get?_toolIdentity plain]
  rfl

theorem isProper_of_get?_toolIdentity {key : String} {v : Value}
    (h : Assoc.get? key (toolIdentity path name content) = some v) :
  v.IsProper ∧ v.scalar?.isSome = true
  := by
  rw [get?_toolIdentity plain] at h
  split at h
  · cases h
    exact ⟨.string name, rfl⟩
  · split at h
    · apply isProper_of_declared? h
    · split at h
      · apply isProper_of_declared? h
      · cases h

theorem isProper_toolIdentity :
  (Value.object (toolIdentity path name content)).IsProper
  := by
  have distinct := nodup_keys_toolIdentity path name content
  apply Value.IsProper.object distinct
  intro m among
  rw [← Assoc.get?_eq_some_iff distinct] at among
  apply (isProper_of_get?_toolIdentity plain name content among).1

include plain'

/-- Two tools are identified alike if and only if they have the same name and declare the same
version and type. -/
theorem alike_toolIdentity_iff :
  Value.Alike (.object (toolIdentity path name content))
      (.object (toolIdentity path' name' content'))
    ↔ name = name' ∧ declaredVersion? path content = declaredVersion? path' content'
      ∧ declaredType? path content = declaredType? path' content'
  := by
  rw [Value.alike_object_iff_get? (nodup_keys_toolIdentity path name content)
    (nodup_keys_toolIdentity path' name' content')]
  have scalars : ∀ key, Option.Rel Value.Alike
        (Assoc.get? key (toolIdentity path name content))
        (Assoc.get? key (toolIdentity path' name' content'))
      ↔ Assoc.get? key (toolIdentity path name content)
        = Assoc.get? key (toolIdentity path' name' content') := by
    intro key
    apply Value.rel_alike_iff_eq_of_scalar
    intro v found
    apply (isProper_of_get?_toolIdentity plain name content found).2
  rw [forall_congr' scalars]
  simp only [get?_toolIdentity plain, get?_toolIdentity plain']
  constructor
  · intro same
    refine ⟨?_, ?_, ?_⟩
    · simpa using same "tool_id"
    · simpa using same "version"
    · simpa using same "tool_type"
  · rintro ⟨rfl, versions, types⟩ key
    rw [versions, types]

end

end Integrity

end Toolshed
