import Toolshed.Chain.Link
import Toolshed.Version

/-!
# Legality of chains

Every link is checked with the one that runs it: the space must not be of higher rank, what the
parent takes must be among what the child gives, and the version of the child must lie within the
bounds that the parent sets.  A chain of several links ends with a primitive that nothing runs.
All violations are reported, pair by pair.
-/

namespace Toolshed.Chain

open Json

/-- A violation. -/
inductive Issue where
  | space (child parent : Link)
  | input (child parent : Link) (kind : String)
  | version (child parent : Link) (found bound limit : String)
  | openEnd (last : Link) (executor : String)
  | notPrimitive (last : Link)

/-- The text that reports a violation. -/
def Issue.message : Issue → String
  | .space child parent =>
    child.item ++ " (space=" ++ child.space.name ++ ") cannot depend on " ++ parent.item ++
      " (space=" ++ parent.space.name ++ ")"
  | .input child parent kind =>
    "I/O mismatch: " ++ parent.item ++ " requires input '" ++ kind ++ "' which " ++ child.item ++
      " does not output"
  | .version child parent found bound limit =>
    "Version constraint failed: " ++ child.item ++ " version " ++ found ++
      " does not satisfy " ++ bound ++ " " ++ limit ++ " required by " ++ parent.item
  | .openEnd last executor =>
    last.item ++ " declares executor " ++ executor ++ " but ends the chain"
  | .notPrimitive last => last.item ++ " terminates the chain but is not a primitive"

/-- A child may only depend on a space of equal or lower rank. -/
def spaceIssues (child parent : Link) : List Issue :=
  if child.space.rank < parent.space.rank then [.space child parent] else []

/-- Every declared input of the parent must be among the declared outputs of the child. -/
def inputIssues (child parent : Link) : List Issue :=
  match parent.inputs, child.outputs with
  | some required, some provided =>
    (required.filter fun kind => kind ∉ provided).map (Issue.input child parent ·)
  | _, _ => []

/-- The bounds that a parent may set for the version of a child, with their comparisons. -/
def versionBounds : List (String × String) := [("min_version", ">="), ("max_version", "<=")]

/-- The version of the child must satisfy the bounds that the parent sets for it. -/
def versionIssues (child parent : Link) : List Issue :=
  match child.version,
    (parent.childConstraints.bind (Assoc.get? child.item)).bind Value.object? with
  | some version, some bounds =>
    versionBounds.filterMap fun (bound, op) =>
      match textOf? bounds bound with
      | some limit =>
        if Version.satisfies version op limit then none
        else some (.version child parent version bound limit)
      | none => none
  | _, _ => []

/-- The violations of a link and the one that runs it. -/
def pairIssues (child parent : Link) : List Issue :=
  spaceIssues child parent ++ inputIssues child parent ++ versionIssues child parent

/-- The last link must have no executor, and be a primitive if its role is known. -/
def endIssues (last : Link) : List Issue :=
  match last.executor, last.role with
  | some executor, _ => [.openEnd last executor]
  | none, some role => if role = .primitive then [] else [.notPrimitive last]
  | none, none => []

/-- The violations of the pairs of a chain. -/
def allPairIssues : List Link → List Issue
  | child :: parent :: rest => pairIssues child parent ++ allPairIssues (parent :: rest)
  | _ => []

/-- The violations of a chain. -/
def issues (chain : List Link) : List Issue :=
  let last := match chain.getLast? with
    | some last => if 1 < chain.length then endIssues last else []
    | none => []
  allPairIssues chain ++ last

/-- What checking a chain reports. -/
structure Verdict where
  issues : List String
  pairs : Nat
deriving DecidableEq, Inhabited

/-- A chain without violations is legal. -/
def Verdict.isValid (v : Verdict) : Bool :=
  v.issues.isEmpty

/-- The verdict on a chain. -/
def validate (chain : List Link) : Verdict :=
  ⟨(issues chain).map Issue.message, chain.length - 1⟩

end Toolshed.Chain
