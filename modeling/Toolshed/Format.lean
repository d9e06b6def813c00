import Toolshed.Item
import Toolshed.Path
import Toolshed.Directive
import Toolshed.Frontmatter
import Toolshed.Json.Reader
import Toolshed.Source.Python
import Toolshed.Source.JavaScript
import Toolshed.Source.Shell

/-!
# Formats

The format of an item file, by the kind of the item and the name of the file, and the fields that
a text of each format declares.
-/

namespace Toolshed

/-- The language of a tool written as a source. -/
inductive Language where
  | python
  | javaScript
  | shell
deriving DecidableEq, Inhabited

namespace Language

/-- The name of a language. -/
def name : Language → String
  | .python => "python"
  | .javaScript => "javascript"
  | .shell => "shell"

/-- The language of a file with a given extension. -/
def ofExtension? (extension : String) : Option Language :=
  if extension = "py" then some .python
  else if extension = "js" then some .javaScript
  else if extension = "sh" then some .shell
  else none

/-- What a source declares. -/
def readModule (language : Language) (content : List Char) : Except Failure Source.Module :=
  let found := match language with
    | .python => Source.Python.readModule? content
    | .javaScript => Source.JavaScript.readModule? content
    | .shell => some (Source.Shell.readModule content)
  match found with
  | some m => .ok m
  | none => .error (.source .brokenSyntax)

end Language

/-- The fields that names in a source declare, in the order in which they are taken over. -/
def declaredFields : List (String × String) := [
  ("__version__", "version"), ("__tool_type__", "tool_type"), ("__executor_id__", "executor_id"),
  ("__category__", "category"), ("__description__", "description"),
  ("__tool_description__", "description"), ("__inputs__", "inputs"), ("__outputs__", "outputs"),
  ("ENV_CONFIG", "env_config"), ("CONFIG", "config"), ("CONFIG_SCHEMA", "config_schema"),
  ("CHILD_CONSTRAINTS", "child_constraints")]

/-- The first line of a text that is not blank, trimmed. -/
def summary? (text : String) : Option String :=
  ((Text.lines text.toList).map Text.trimBoth).find? (fun line => !line.isEmpty)
    |>.map String.ofList

/-- The fields that a source declares; without a description, the summary of its documentation. -/
def Source.Module.fields (m : Source.Module) : Json.Fields :=
  let values := m.values
  let declared := declaredFields.filterMap fun (name, field) =>
    (Assoc.get? name values).map fun v => (field, v)
  let found := Assoc.ofEntries declared
  match Assoc.get? "description" found, m.docstring.bind summary? with
  | none, some summary => found ++ [("description", .string summary)]
  | _, _ => found

/-- The format of an item file. -/
inductive Format where
  | source (language : Language)
  | yaml
  | json
  | directive
  | frontmatter
deriving DecidableEq, Inhabited

namespace Format

/-- The name of a format. -/
def name : Format → String
  | .source language => "source:" ++ language.name
  | .yaml => "yaml"
  | .json => "json"
  | .directive => "directive"
  | .frontmatter => "frontmatter"

/-- The extensions of tool files, the preferred ones first. -/
def toolExtensions : List String := ["py", "yaml", "yml", "json", "js", "sh"]

/-- The format of the tool file with a given path. -/
def ofToolPath? (path : String) : Option Format := do
  let extension ← Path.extension? path
  match Language.ofExtension? extension with
  | some language => pure (.source language)
  | none =>
    if extension = "yaml" || extension = "yml" then pure .yaml
    else if extension = "json" then pure .json
    else none

/-- The format of the item file with a given path. -/
def ofItem? (kind : ItemKind) (path : String) : Option Format :=
  match kind with
  | .tool => ofToolPath? path
  | .directive => some .directive
  | .knowledge => some .frontmatter

/-- The members of a manifest. -/
def manifestFields (v : Json.Value) : Except Failure Json.Fields :=
  match Frontmatter.mapping? v with
  | some members => .ok members
  | none => .error (.source .manifestNotMapping)

/-- The fields that a text declares. -/
def fields (format : Format) (content : List Char) : Except Failure Json.Fields :=
  match format with
  | .source language => (language.readModule content).map Source.Module.fields
  | .yaml =>
    match Yaml.parse? content with
    | some v => manifestFields v
    | none => .error .yaml
  | .json =>
    match Json.parse? content with
    | some v => manifestFields v
    | none => .error .json
  | .directive => .ok (Directive.fields content)
  | .frontmatter => Frontmatter.fields content

end Format

end Toolshed
