import Toolshed.Yaml.Token

/-!
# Nodes of a YAML document

A document is a tree of scalars, sequences and mappings, with aliases that stand for a node marked
elsewhere in the document.  A node may have a tag.
-/

namespace Toolshed.Yaml

/-- The mark that an alias refers to, and the tag of a node. -/
structure Properties where
  mark : Option Nat
  tag : Option (List Char)
deriving DecidableEq, Inhabited

/-- A node. -/
inductive Node where
  | alias (mark : Nat)
  | scalar (properties : Properties) (text : List Char) (isPlain : Bool)
  | sequence (properties : Properties) (items : List Node)
  | mapping (properties : Properties) (entries : List (Node × Node))
deriving Inhabited

/-- The plain scalar without text. -/
def Node.empty (properties : Properties) : Node :=
  .scalar properties [] true

mutual

/-- The number of scalars and aliases, with two for each collection. -/
def Node.weight : Node → Nat
  | .alias _ => 1
  | .scalar .. => 1
  | .sequence _ items => 2 + weightOfItems items
  | .mapping _ entries => 2 + weightOfEntries entries

/-- The weight of the items of a sequence. -/
def Node.weightOfItems : List Node → Nat
  | [] => 0
  | x :: xs => x.weight + weightOfItems xs

/-- The weight of the entries of a mapping. -/
def Node.weightOfEntries : List (Node × Node) → Nat
  | [] => 0
  | (k, v) :: xs => k.weight + v.weight + weightOfEntries xs

end

mutual

/-- The marked nodes, those outside before those inside. -/
def Node.marked : Node → List (Nat × Node)
  | .alias _ => []
  | .scalar p text isPlain => p.mark.toList.map fun n => (n, .scalar p text isPlain)
  | .sequence p items =>
    (p.mark.toList.map fun n => (n, .sequence p items)) ++ markedInItems items
  | .mapping p entries =>
    (p.mark.toList.map fun n => (n, .mapping p entries)) ++ markedInEntries entries

/-- The marked nodes among the items of a sequence. -/
def Node.markedInItems : List Node → List (Nat × Node)
  | [] => []
  | x :: xs => x.marked ++ markedInItems xs

/-- The marked nodes among the entries of a mapping. -/
def Node.markedInEntries : List (Node × Node) → List (Nat × Node)
  | [] => []
  | (k, v) :: xs => k.marked ++ v.marked ++ markedInEntries xs

end

/-! ### Reading nodes -/

/-- The anchors so far with their marks; an anchor takes as its mark the number of the names that
were in use before it. -/
abbrev Anchors := List (List Char × Nat)

/-- The anchors with one more, and its mark. -/
def Anchors.add (names : Anchors) (name : List Char) : Anchors × Nat :=
  let mark := names.length
  ((name, mark) :: names.filter (fun (other, _) => other ≠ name), mark)

/-- What a directive says of tags: the text that each handle stands for. -/
abbrev Handles := List (List Char × List Char)

/-- The handles that need no directive. -/
def Handles.common : Handles :=
  [(['!'], ['!']), (['!', '!'], "tag:yaml.org,2002:".toList)]

/-- The whole text of a tag. -/
def Handles.resolve? (handles : Handles) (handle suffix : List Char) : Option (List Char) :=
  if handle.isEmpty then some suffix
  else (handles.lookup handle).map (· ++ suffix)

/-- What is left to read: the tokens and the anchors so far. -/
structure Remaining where
  tokens : List Token
  anchors : Anchors
deriving Inhabited

/-- The rest without its first token. -/
def Remaining.next (r : Remaining) : Remaining :=
  ⟨r.tokens.tail, r.anchors⟩

/-- The first token of the rest. -/
def Remaining.head? (r : Remaining) : Option Token :=
  r.tokens.head?

/-- The first token is a given one. -/
def Remaining.startsWith (r : Remaining) (token : Token) : Bool :=
  r.head? = some token

/-- The anchor in front, if there is one. -/
def readAnchor (r : Remaining) : Option Nat × Remaining :=
  match r.tokens with
  | .anchor name :: tokens =>
    let (anchors, mark) := r.anchors.add name
    (some mark, ⟨tokens, anchors⟩)
  | _ => (none, r)

/-- The tag in front, if there is one. -/
def readTagToken? (handles : Handles) (r : Remaining) : Option (Option (List Char) × Remaining) :=
  match r.tokens with
  | .tag handle suffix :: _ => (handles.resolve? handle suffix).map fun tag => (some tag, r.next)
  | _ => some (none, r)

/-- The properties in front: an anchor and a tag, in either order. -/
def readProperties? (handles : Handles) (r : Remaining) : Option (Properties × Remaining) :=
  match readAnchor r with
  | (some mark, r) => (readTagToken? handles r).map fun (tag, r) => (⟨some mark, tag⟩, r)
  | (none, r) => (readTagToken? handles r).map fun (tag, r) =>
    if tag.isSome then
      let (mark, r) := readAnchor r
      (⟨mark, tag⟩, r)
    else (⟨none, none⟩, r)

/-- The places where nodes stand. -/
inductive Place where
  /-- The node of a document, or an item of a block sequence. -/
  | block
  /-- The key or the value of a block mapping, where a sequence need not be indented. -/
  | mapped
  /-- Inside a flow collection. -/
  | flow
deriving DecidableEq, Inhabited

/-- What may be read. -/
inductive Goal where
  | node (place : Place)
  | blockItems
  | looseItems
  | blockEntries
  | flowItems (isFirst : Bool)
  | flowEntries (isFirst : Bool)

/-- What reading a goal gives. -/
abbrev Goal.Result : Goal → Type
  | .node _ => Node
  | .blockItems => List Node
  | .looseItems => List Node
  | .blockEntries => List (Node × Node)
  | .flowItems _ => List Node
  | .flowEntries _ => List (Node × Node)

/-- A reader for every goal. -/
abbrev Rule := (goal : Goal) → Remaining → Option (goal.Result × Remaining)

/-- A node, or the empty scalar when one of the given tokens comes next. -/
def readOptional (r : Rule) (place : Place) (ends : List Token) (s : Remaining) :
    Option (Node × Remaining) :=
  if s.head?.any (· ∈ ends) then some (.empty ⟨none, none⟩, s) else r (.node place) s

/-- A node. -/
def readNode? (handles : Handles) (r : Rule) (place : Place) (s : Remaining) :
    Option (Node × Remaining) :=
  match s.tokens with
  | .alias name :: _ => (s.anchors.lookup name).map fun mark => (.alias mark, s.next)
  | _ => do
    let (properties, s) ← readProperties? handles s
    match s.tokens with
    | .blockEntry :: _ =>
      if place = .mapped then
        let (items, s) ← r .looseItems s
        pure (.sequence properties items, s)
      else if properties = ⟨none, none⟩ then none
      else pure (.empty properties, s)
    | .scalar text isPlain :: _ =>
      let isUnspecific := properties.tag = some ['!']
      let tag := if isUnspecific then none else properties.tag
      pure (.scalar ⟨properties.mark, tag⟩ text isPlain, s.next)
    | .openSequence :: _ =>
      let (items, s) ← r (.flowItems true) s.next
      pure (.sequence properties items, s)
    | .openMapping :: _ =>
      let (entries, s) ← r (.flowEntries true) s.next
      pure (.mapping properties entries, s)
    | .blockSequence :: _ =>
      if place ≠ .flow then
        let (items, s) ← r .blockItems s.next
        pure (.sequence properties items, s)
      else if properties = ⟨none, none⟩ then none
      else pure (.empty properties, s)
    | .blockMapping :: _ =>
      if place ≠ .flow then
        let (entries, s) ← r .blockEntries s.next
        pure (.mapping properties entries, s)
      else if properties = ⟨none, none⟩ then none
      else pure (.empty properties, s)
    | _ =>
      if properties = ⟨none, none⟩ then none
      else pure (.empty properties, s)

/-- The items of a block sequence, up to its end. -/
def readBlockItems? (r : Rule) (s : Remaining) : Option (List Node × Remaining) :=
  match s.head? with
  | some .blockEntry => do
    let (x, s) ← readOptional r .block [.blockEntry, .blockEnd] s.next
    let (xs, s) ← r .blockItems s
    pure (x :: xs, s)
  | some .blockEnd => some ([], s.next)
  | _ => none

/-- The items of a sequence that is not indented, as long as there are any. -/
def readLooseItems? (r : Rule) (s : Remaining) : Option (List Node × Remaining) :=
  match s.head? with
  | some .blockEntry => do
    let (x, s) ← readOptional r .block [.blockEntry, .key, .value, .blockEnd] s.next
    let (xs, s) ← r .looseItems s
    pure (x :: xs, s)
  | _ => some ([], s)

/-- The value after a key, the empty scalar without a mark. -/
def readMarked (r : Rule) (place : Place) (ends : List Token) (s : Remaining) :
    Option (Node × Remaining) :=
  if s.startsWith .value then readOptional r place ends s.next
  else some (.empty ⟨none, none⟩, s)

/-- The entries of a block mapping, up to its end. -/
def readBlockEntries? (r : Rule) (s : Remaining) : Option (List (Node × Node) × Remaining) :=
  match s.head? with
  | some .key => do
    let (k, s) ← readOptional r .mapped [.key, .value, .blockEnd] s.next
    let (v, s) ← readMarked r .mapped [.key, .value, .blockEnd] s
    let (rest, s) ← r .blockEntries s
    pure ((k, v) :: rest, s)
  | some .blockEnd => some ([], s.next)
  | _ => none

/-- The rest after the comma that must stand before every item but the first. -/
def passComma? (isFirst : Bool) (s : Remaining) : Option Remaining :=
  if isFirst then some s
  else if s.startsWith .flowEntry then some s.next
  else none

/-- The items of a flow sequence, up to its end; a key makes its item a mapping of one entry. -/
def readFlowItems? (r : Rule) (isFirst : Bool) (s : Remaining) :
    Option (List Node × Remaining) :=
  if s.startsWith .closeSequence then some ([], s.next)
  else do
    let s ← passComma? isFirst s
    match s.head? with
    | some .closeSequence => pure ([], s.next)
    | some .key =>
      let ends := [.flowEntry, .closeSequence]
      let (k, s) ←
        if s.next.head?.any (· ∈ Token.value :: ends) then
          some (.empty ⟨none, none⟩, s.next.next)
        else r (.node .flow) s.next
      let (v, s) ← readMarked r .flow ends s
      let (xs, s) ← r (.flowItems false) s
      pure (.mapping ⟨none, none⟩ [(k, v)] :: xs, s)
    | _ =>
      let (x, s) ← r (.node .flow) s
      let (xs, s) ← r (.flowItems false) s
      pure (x :: xs, s)

/-- The entries of a flow mapping, up to its end; a node without a mark has no value. -/
def readFlowEntries? (r : Rule) (isFirst : Bool) (s : Remaining) :
    Option (List (Node × Node) × Remaining) :=
  if s.startsWith .closeMapping then some ([], s.next)
  else do
    let s ← passComma? isFirst s
    match s.head? with
    | some .closeMapping => pure ([], s.next)
    | some .key =>
      let ends := [.flowEntry, .closeMapping]
      let (k, s) ← readOptional r .flow (.value :: ends) s.next
      let (v, s) ← readMarked r .flow ends s
      let (rest, s) ← r (.flowEntries false) s
      pure ((k, v) :: rest, s)
    | _ =>
      let (k, s) ← r (.node .flow) s
      let (rest, s) ← r (.flowEntries false) s
      pure ((k, .empty ⟨none, none⟩) :: rest, s)

/-- The reader of every goal, with a bound on its depth. -/
def rule (handles : Handles) : Nat → Rule
  | 0, _, _ => none
  | fuel + 1, .node place, s => readNode? handles (rule handles fuel) place s
  | fuel + 1, .blockItems, s => readBlockItems? (rule handles fuel) s
  | fuel + 1, .looseItems, s => readLooseItems? (rule handles fuel) s
  | fuel + 1, .blockEntries, s => readBlockEntries? (rule handles fuel) s
  | fuel + 1, .flowItems isFirst, s => readFlowItems? (rule handles fuel) isFirst s
  | fuel + 1, .flowEntries isFirst, s => readFlowEntries? (rule handles fuel) isFirst s

/-! ### Documents -/

/-- The directives in front: no two versions, a known one, and no two texts for one handle. -/
def readDirectives? : Bool → Handles → List Token → Option (Handles × List Token)
  | seen, handles, .version major minor :: tokens =>
    if seen || major ≠ 1 || minor ≠ 1 && minor ≠ 2 then none
    else readDirectives? true handles tokens
  | seen, handles, .handle handle stands :: tokens =>
    if (handles.lookup handle).isSome then none
    else readDirectives? seen ((handle, stands) :: handles) tokens
  | _, handles, tokens => some (handles, tokens)

/-- The node of the only document of a text, none inside when there is no document. -/
def document? (tokens : List Token) : Option (Option Node) := do
  if tokens.isEmpty then pure none
  else
    let (declared, rest) ← readDirectives? false [] tokens
    let isMarked := rest.head? = some .documentStart
    if !isMarked && rest.length < tokens.length then none
    else
      let handles := declared ++ Handles.common
      let rest := if isMarked then rest.tail else rest
      let s : Remaining := ⟨rest, []⟩
      let atEnd := rest.isEmpty || s.startsWith .documentStart || s.startsWith .documentEnd
      let (node, s) ←
        if isMarked && atEnd then some (Node.empty ⟨none, none⟩, s)
        else rule handles (2 * rest.length + 2) (.node .block) s
      if (s.tokens.dropWhile (· = .documentEnd)).isEmpty then pure (some node) else none

end Toolshed.Yaml
