import Toolshed.Files.TypeDirectory
import Toolshed.Files.Walk
import Toolshed.Host
import Toolshed.Query.Reader
import Toolshed.Search.Filter
import Toolshed.Search.Hit

/-!
# Searching

A search goes through the files of the items of a kind, those with a name that starts with an
underscore left aside.  It keeps the items that match its queries and its filters, puts them in
order and shows one page of them.  What is read of an item is kept as long as its file keeps its
fingerprint.
-/

namespace Toolshed.Search

/-- What searches are made in: the settings, and the items read before. -/
structure Engine where
  settings : Settings
  hits : Cache Hit

/-- A file that is searched. -/
structure Candidate where
  path : String
  space : Space
deriving DecidableEq, Inhabited

/-- The queries of a search, as they are read. -/
structure Request where
  text : String
  query : Query
  fields : List (String × Query)
  edits : Nat
deriving Inhabited

/-- One page of the hits of a search, and the number of all of them. -/
structure Response where
  hits : List Hit
  total : Nat
  query : String
  kind : ItemKind
  source : Source
  limit : Nat
  offset : Nat
deriving Inhabited

/-- The queries of a search with given options. -/
def Request.ofOptions (o : Options) : Request :=
  let text := Options.cutQuery o.query
  ⟨text, .parse text, o.fields.map fun (field, q) => (field, .parse (Options.cutQuery q)),
    o.distance⟩

namespace Request

/-- The request asks for nothing. -/
def isBlank (r : Request) : Bool :=
  r.text = "" && r.fields.isEmpty

/-- An item matches the queries. -/
def matchesHit (r : Request) (hit : Hit) : Bool :=
  r.query.matchesText r.edits hit.searchableText &&
    r.fields.all fun (field, q) => q.matchesText r.edits (hit.fieldText field)

/-- The score of an item. -/
def scoreOf (r : Request) (hit : Hit) : Score :=
  if r.isBlank then .full
  else
    let general := fieldWeights.foldl (fun score (field, weight) =>
      score.add weight (r.query.matchesText r.edits (hit.fieldText field))) .none
    r.fields.foldl (fun score (field, q) =>
      score.add (weightOf field) (q.matchesText r.edits (hit.fieldText field))) general

end Request

/-- The files that are searched for items of a kind. -/
def candidates (s : Settings) (files : FileTree) (kind : ItemKind) (source : Source) :
    List Candidate :=
  let directories := (s.typeDirectories files kind).filter fun (_, space) => source.includes space
  directories.flatMap fun (directory, space) =>
    let found := (files.filesBelowThroughLinks directory).filter fun names =>
      (names.getLast?.getD "").toList.head? ≠ some '_'
    found.map fun names => ⟨Path.joinAll directory names, space⟩

/-- Hits in an order; those that are alike in it keep theirs. -/
def inOrder (order : Order) (hits : List Hit) : List Hit :=
  match order with
  | .score => hits.mergeSort fun a b => b.score.le a.score
  | .date => hits.mergeSort fun a b => decide (b.date ≤ a.date)
  | .name => hits.mergeSort fun a b => decide (Text.lower a.name ≤ Text.lower b.name)

namespace Engine

/-- The engine that has not read anything. -/
def empty (settings : Settings) : Engine :=
  ⟨settings, .empty settings.lifetime settings.capacity⟩

/-- The engine without anything that it kept. -/
def clear (e : Engine) : Engine :=
  { e with hits := e.hits.clear }

/-- The item in a file.  A file that cannot be read has none, and the fields of one that is
malformed are not known. -/
def readHit? (files : FileTree) (kind : ItemKind) (candidate : Candidate) : Option Hit :=
  match files.read candidate.path with
  | .error _ => none
  | .ok text =>
    let fields := match Format.ofItem? kind candidate.path with
      | some format => (format.fields text.toList).toOption.getD []
      | none => []
    some (.ofFields kind candidate.space candidate.path text fields)

/-- The item in a file, read anew or as it is kept. -/
def hit? (host : Host) (kind : ItemKind) (candidate : Candidate) (e : Engine) :
    Option Hit × Engine :=
  let fingerprint := host.files.fingerprint? candidate.path
  match e.hits.get host.now candidate.path fingerprint with
  | (some hit, hits) => (some hit, { e with hits })
  | (none, hits) =>
    match readHit? host.files kind candidate, fingerprint with
    | some hit, some fingerprint =>
      (some hit, { e with hits := hits.insert host.now candidate.path hit fingerprint })
    | found, _ => (found, { e with hits })

/-- The hits among some files; there are none when the date of an item cannot be compared. -/
def hitsAmong? (host : Host) (o : Options) (r : Request) :
    List Candidate → Engine → Option (List Hit) × Engine
  | [], e => (some [], e)
  | candidate :: candidates, e =>
    match e.hit? host o.kind candidate with
    | (none, e) => hitsAmong? host o r candidates e
    | (some hit, e) =>
      let verdict := if r.matchesHit hit then Filter.matches? hit.field? o.filters else some false
      match verdict with
      | none => (none, e)
      | some false => hitsAmong? host o r candidates e
      | some true =>
        let (others, e) := hitsAmong? host o r candidates e
        (others.map ({ hit with score := r.scoreOf hit } :: ·), e)

/-- The answer to a search. -/
def search (host : Host) (o : Options) (e : Engine) : Option Response × Engine :=
  let r := Request.ofOptions o
  let limit := Options.clampLimit o.limit Options.maxLimit
  let (found, e) := e.hitsAmong? host o r (candidates e.settings host.files o.kind o.source)
  let answer := found.map fun hits =>
    let page := ((inOrder o.order hits).drop o.offset).take limit
    ⟨page, hits.length, r.text, o.kind, o.source, limit, o.offset⟩
  (answer, e)

end Engine

end Toolshed.Search
