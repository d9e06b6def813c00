import Toolshed.Manifest
import Toolshed.Search.Options
import Toolshed.Search.Score

/-!
# Hits

What a search shows of an item: its identity, the texts that are searched, and the fields that it
declares about itself.
-/

namespace Toolshed.Search

open Json

/-- An item as a search shows it. -/
structure Hit where
  id : String
  name : String
  title : String
  description : String
  category : Option String
  /-- The start of the file. -/
  preview : String
  space : Space
  path : String
  kind : ItemKind
  score : Score
  metadata : Fields
deriving Inhabited

namespace Hit

/-- The number of characters of a preview. -/
def previewLength : Nat := 200

/-- The fields that are not shown as metadata: configurations, and texts that have a place of their
own. -/
def hiddenFields : List String :=
  ["config", "env_config", "config_schema", "name", "title", "description"]

/-- The text of a scalar field, if it is not empty. -/
def text? (fields : Fields) (name : String) : Option String :=
  (textOf? fields name).filter (· ≠ "")

/-- The item of a file with a text and the fields that it declares.  A directive may have a name of
its own, and a knowledge entry a title and an identifier. -/
def ofFields (kind : ItemKind) (space : Space) (path text : String) (fields : Fields) : Hit :=
  let stem := (Path.stem? path).getD ""
  let own := fun (owner : ItemKind) (field default : String) =>
    if kind = owner then (text? fields field).getD default else default
  let name := own .directive "name" stem
  { id := own .knowledge "id" stem
    name := name
    title := own .knowledge "title" name
    description := (text? fields "description").getD ""
    category := text? fields "category"
    preview := String.ofList (text.toList.take previewLength)
    space := space
    path := path
    kind := kind
    score := .none
    metadata := fields.filter fun (key, _) => key ∉ hiddenFields }

/-- The text of a named field as it is searched. -/
def fieldText (hit : Hit) (field : String) : String :=
  if field = "id" then hit.id
  else if field = "name" then hit.name
  else if field = "title" then hit.title
  else if field = "description" then hit.description
  else if field = "category" then hit.category.getD ""
  else if field = "content" || field = "preview" then hit.preview
  else (textOf? hit.metadata field).getD ""

/-- The texts that are searched together. -/
def searchableText (hit : Hit) : String :=
  let parts := [hit.name, hit.title, hit.description, hit.category.getD "", hit.preview]
  " ".intercalate (parts.filter (· ≠ ""))

/-- The date of the item as it is written. -/
def date (hit : Hit) : String :=
  (textOf? hit.metadata "created_at").getD ""

/-- The fields that filters see: the texts that are not empty, the space, and the metadata. -/
def field? (hit : Hit) (name : String) : Option Value :=
  let direct :=
    if name ∈ ["id", "name", "title", "description", "preview", "category"] then
      hit.fieldText name
    else ""
  if direct ≠ "" then some (.string direct)
  else if name = "source" then some (.string hit.space.name)
  else Assoc.get? name hit.metadata

end Hit

end Toolshed.Search
