import Toolshed.Item
import Toolshed.Space
import Toolshed.Json.Record

/-!
# Options of a search

What a search looks for, where, and how its hits are ordered and cut into pages.
-/

namespace Toolshed.Search

open Json

/-- The spaces that are searched. -/
inductive Source where
  | only (space : Space)
  | all
deriving DecidableEq, Inhabited

namespace Source

/-- The name of a choice of spaces. -/
def name : Source → String
  | .only space => space.name
  | .all => "all"

/-- The choice of spaces with a given name. -/
def ofName? (s : String) : Option Source :=
  if s = "all" then some .all else (Space.ofName? s).map .only

/-- A space is searched. -/
def includes (source : Source) (space : Space) : Bool :=
  match source with
  | .only chosen => space = chosen
  | .all => true

end Source

/-- The order of the hits. -/
inductive Order where
  | score
  | date
  | name
deriving DecidableEq, Inhabited

namespace Order

/-- The name of an order. -/
def text : Order → String
  | .score => "score"
  | .date => "date"
  | .name => "name"

/-- The order with a given name. -/
def ofName? (s : String) : Option Order :=
  [score, date, name].find? fun order => order.text = s

end Order

/-- How far a word may differ from a term. -/
structure Fuzziness where
  enabled : Bool
  maxDistance : Nat
deriving DecidableEq, Inhabited

/-- The fields of the fuzziness, in order. -/
def Fuzziness.fieldNames : List String := ["enabled", "max_distance"]

/-- The fuzziness that a value describes. -/
def Fuzziness.ofJson? (v : Value) : Option Fuzziness := do
  let fields ← recordFields? Fuzziness.fieldNames v
  pure ⟨← field? fields "enabled" false Value.bool?,
    ← field? fields "max_distance" 0 Value.natural?⟩

/-- What is searched. -/
structure Options where
  query : String
  kind : ItemKind
  source : Source
  limit : Nat
  offset : Nat
  order : Order
  /-- Queries that single fields must match. -/
  fields : Assoc String
  filters : Fields
  fuzziness : Fuzziness
deriving Inhabited

namespace Options

/-- The options of a search without any choice made. -/
def default : Options :=
  ⟨"", .tool, .only .project, 10, 0, .score, [], [], ⟨false, 0⟩⟩

/-- The options of a search for a query among the items of a kind. -/
def ofQuery (query : String) (kind : ItemKind) : Options :=
  { default with query := query, kind := kind }

/-- The fields of the options, in order. -/
def fieldNames : List String :=
  ["query", "item_type", "source", "limit", "offset", "sort_by", "fields", "filters", "fuzzy"]

/-- An object whose members are strings. -/
def textsByName? : Value → Option (Assoc String)
  | .object members => members.mapM fun (k, v) => v.string?.map fun s => (k, s)
  | _ => none

/-- The options that a value describes. -/
def ofJson? (v : Value) : Option Options := do
  let fields ← recordFields? fieldNames v
  pure {
    query := ← field? fields "query" default.query Value.string?
    kind := ← field? fields "item_type" default.kind (named? ItemKind.ofName?)
    source := ← field? fields "source" default.source (named? Source.ofName?)
    limit := ← field? fields "limit" default.limit Value.natural?
    offset := ← field? fields "offset" default.offset Value.natural?
    order := ← field? fields "sort_by" default.order (named? Order.ofName?)
    fields := ← field? fields "fields" default.fields textsByName?
    filters := ← field? fields "filters" default.filters Value.object?
    fuzziness := ← field? fields "fuzzy" default.fuzziness Fuzziness.ofJson? }

/-- The distance within which a word matches a term. -/
def distance (o : Options) : Nat :=
  if o.fuzziness.enabled then o.fuzziness.maxDistance else 0

/-- The greatest number of characters of a query. -/
def maxQueryLength : Nat := 512

/-- A query without blanks around it, cut to the greatest length. -/
def cutQuery (query : String) : String :=
  String.ofList ((Text.trimBoth query.toList).take maxQueryLength)

/-- The greatest number of hits on a page. -/
def maxLimit : Nat := 100

/-- A number of hits of at least one and at most a maximum. -/
def clampLimit (value maximum : Nat) : Nat :=
  max 1 (min value (max maximum 1))

end Options

end Toolshed.Search
