import Toolshed.Digest.Integrity
import Toolshed.Manifest

/-!
# Identities of items

The hash of an item file depends on what identifies the item, which its text declares: a tool by
its constants or its members, a directive by its tag, a knowledge entry by its block.
-/

namespace Toolshed.Integrity

open Json

/-- The names in a source that identify a tool, with the fields they declare. -/
def identityFields : List (String × String) :=
  [("__version__", "version"), ("__tool_type__", "tool_type")]

/-- The version of an item that declares none. -/
def defaultVersion : String := "0.0.0"

/-- The constants of a source that identify a tool, in order. -/
def identityConstants (m : Source.Module) : List (String × Value) :=
  m.assignments.filterMap fun a =>
    if a.constant then (Assoc.get? a.name identityFields).map fun field => (field, a.value)
    else none

/-- The members of a manifest that identify a tool. -/
def identityMembers (fields : Fields) : List (String × Value) :=
  identityFields.filterMap fun (_, field) =>
    ((Assoc.get? field fields).filter fun v => v.scalar?.isSome).map fun v => (field, v)

/-- What identifies a tool, given its name; a malformed file tells nothing more. -/
def toolIdentity (path name : String) (content : List Char) : Fields :=
  let declared := match Format.ofToolPath? path with
    | some (.source language) => ((language.readModule content).toOption.map identityConstants)
    | some format => (format.fields content).toOption.map identityMembers
    | none => none
  Assoc.insertAll (declared.getD []) [("tool_id", .string name)]

/-- The version among the fields that identify an item. -/
def identityVersion (identity : Fields) : String :=
  (textOf? identity "version").getD defaultVersion

/-- The hash of the item in a file. -/
def hashItem (kind : ItemKind) (path content : String) : String :=
  let stem := (Path.stem? path).getD ""
  match kind with
  | .tool =>
    let identity := toolIdentity path stem content.toList
    hashTool stem (identityVersion identity) (.object identity) []
  | .directive =>
    let identity := Directive.identity content.toList
    hashDirective ((textOf? identity "name").getD stem) (identityVersion identity) content
      (some (.object identity))
  | .knowledge =>
    let identity := Frontmatter.identity content.toList
    hashKnowledge ((textOf? identity "id").getD stem) (identityVersion identity) content
      (some (.object identity))

end Toolshed.Integrity
