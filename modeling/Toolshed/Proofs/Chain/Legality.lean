import Toolshed.Chain.Validation
import Mathlib.Algebra.BigOperators.Group.List.Basic
import Mathlib.Algebra.GroupWithZero.Nat
import Mathlib.Data.List.Chain
import Mathlib.Order.Lattice

/-!
# What the verdict on a chain says

A chain is legal when the ranks of its spaces never rise, not even between links far apart, when
every link gets what it takes and has a version within the bounds that are set for it, and when
the chain ends in a primitive.  The verdict finds a chain valid exactly when it is legal, and it
reports every single violation once.
-/

namespace Toolshed.Chain

open Json

/-! ### Legal chains -/

/-- The links of a chain, each with the one that runs it. -/
def runningPairs (chain : List Link) : List (Link × Link) :=
  chain.zip chain.tail

/-- The bounds that a parent sets for the version of a child. -/
def boundsFor? (child parent : Link) : Option Fields :=
  (parent.childConstraints.bind (Assoc.get? child.item)).bind Value.object?

/-- The inputs that the parent declares are among the outputs that the child declares. -/
def GivesInputs (child parent : Link) : Prop :=
  ∀ required ∈ parent.inputs, ∀ provided ∈ child.outputs, ∀ kind ∈ required, kind ∈ provided

/-- The version of the child is not below the least version that the parent asks for, and not
above the greatest. -/
def WithinBounds (child parent : Link) : Prop :=
  ∀ version ∈ child.version, ∀ bounds ∈ boundsFor? child parent,
    (∀ least ∈ textOf? bounds "min_version", Version.compareTexts version least ≠ .lt) ∧
      ∀ greatest ∈ textOf? bounds "max_version", Version.compareTexts version greatest ≠ .gt

/-- The last link of several has no executor, and is a primitive if its role is known. -/
def EndsInPrimitive (chain : List Link) : Prop :=
  1 < chain.length → ∀ last ∈ chain.getLast?,
    last.executor = none ∧ ∀ role ∈ last.role, role = .primitive

instance (chain : List Link) : Decidable (EndsInPrimitive chain) :=
  inferInstanceAs (Decidable (_ → _))

/-- The chain violates nothing. -/
structure Legal (chain : List Link) : Prop where
  /-- A link never has a space of higher rank than a link before it. -/
  ranks : chain.Pairwise fun early late => late.space.rank ≤ early.space.rank
  inputs : ∀ pair ∈ runningPairs chain, GivesInputs pair.1 pair.2
  versions : ∀ pair ∈ runningPairs chain, WithinBounds pair.1 pair.2
  ending : EndsInPrimitive chain

/-! ### Counting violations -/

/-- The number of times that the parent asks for an input that the child does not give. -/
def missingInputs (child parent : Link) : Nat :=
  match parent.inputs, child.outputs with
  | some required, some provided => required.countP (· ∉ provided)
  | _, _ => 0

/-- The number of bounds that the version of the child fails. -/
def failedBounds (child parent : Link) : Nat :=
  match child.version, boundsFor? child parent with
  | some version, some bounds =>
    (if ∃ least ∈ textOf? bounds "min_version", Version.compareTexts version least = .lt
      then 1 else 0) +
    (if ∃ greatest ∈ textOf? bounds "max_version", Version.compareTexts version greatest = .gt
      then 1 else 0)
  | _, _ => 0

/-- The number of violations of a link and the one that runs it. -/
def violations (child parent : Link) : Nat :=
  (if child.space.rank < parent.space.rank then 1 else 0) + missingInputs child parent +
    failedBounds child parent

theorem length_spaceIssues (child parent : Link) :
  (spaceIssues child parent).length = if child.space.rank < parent.space.rank then 1 else 0
  := by
  rw [spaceIssues]
  split
  · rfl
  · rfl

theorem length_inputIssues (child parent : Link) :
  (inputIssues child parent).length = missingInputs child parent
  := by
  rw [inputIssues, missingInputs]
  rcases parent.inputs with _ | required
  · rfl
  · rcases child.outputs with _ | provided
    · rfl
    · dsimp only
      rw [List.length_map, List.countP_eq_length_filter]

/-- The signs of the two bounds ask for what their names say. -/
theorem satisfies_bound (version limit : String) :
  Version.satisfies version ">=" limit = (Version.compareTexts version limit != .lt) ∧
    Version.satisfies version "<=" limit = (Version.compareTexts version limit != .gt)
  := by
  constructor
  · rfl
  · rfl

theorem length_versionIssues (child parent : Link) :
  (versionIssues child parent).length = failedBounds child parent
  := by
  rw [versionIssues, failedBounds, ← boundsFor?]
  rcases child.version with _ | version
  · rfl
  · rcases boundsFor? child parent with _ | bounds
    · rfl
    · simp only [versionBounds, List.filterMap_cons, List.filterMap_nil]
      -- Each bound is set or not, and one that is set holds or fails.
      rcases textOf? bounds "min_version" with _ | least
      · rcases textOf? bounds "max_version" with _ | greatest
        · simp
        · rcases h : Version.compareTexts version greatest <;> simp [satisfies_bound, h]
      · rcases textOf? bounds "max_version" with _ | greatest
        · rcases h : Version.compareTexts version least <;> simp [satisfies_bound, h]
        · rcases h : Version.compareTexts version least <;>
            rcases h' : Version.compareTexts version greatest <;> simp [satisfies_bound, h, h']

theorem length_pairIssues (child parent : Link) :
  (pairIssues child parent).length = violations child parent
  := by
  rw [pairIssues, List.length_append, List.length_append, length_spaceIssues, length_inputIssues,
    length_versionIssues]
  rfl

/-- Every violation of a pair is reported once. -/
theorem length_allPairIssues (chain : List Link) :
  (allPairIssues chain).length
    = ((runningPairs chain).map fun pair => violations pair.1 pair.2).sum
  := by
  induction chain with
  | nil => rfl
  | cons child rest ih =>
      cases rest with
      | nil => rfl
      | cons parent rest =>
          rw [allPairIssues, List.length_append, length_pairIssues, ih]
          rfl

theorem length_endIssues (last : Link) :
  (endIssues last).length
    = if last.executor = none ∧ ∀ role ∈ last.role, role = .primitive then 0 else 1
  := by
  rw [endIssues]
  rcases last.executor with _ | executor
  · rcases last.role with _ | role
    · simp
    · rcases role <;> simp
  · simp

/-- Every violation is reported once, and so is an end that is not legal. -/
theorem length_issues (chain : List Link) :
  (issues chain).length
    = ((runningPairs chain).map fun pair => violations pair.1 pair.2).sum
      + if EndsInPrimitive chain then 0 else 1
  := by
  rw [issues, List.length_append, length_allPairIssues]
  congr 1
  cases h : chain.getLast? with
  | none => simp [EndsInPrimitive, h]
  | some last =>
      by_cases several : 1 < chain.length
      · simp [EndsInPrimitive, h, several, length_endIssues]
      · simp [EndsInPrimitive, several]

/-! ### Violations and legality -/

theorem missingInputs_eq_zero_iff (child parent : Link) :
  missingInputs child parent = 0 ↔ GivesInputs child parent
  := by
  rw [missingInputs, GivesInputs]
  rcases parent.inputs with _ | required
  · simp
  · rcases child.outputs with _ | provided
    · simp
    · simp [List.countP_eq_zero]

theorem failedBounds_eq_zero_iff (child parent : Link) :
  failedBounds child parent = 0 ↔ WithinBounds child parent
  := by
  rw [failedBounds, WithinBounds]
  rcases child.version with _ | version
  · simp
  · rcases boundsFor? child parent with _ | bounds
    · simp
    · simp [Nat.add_eq_zero_iff]

theorem violations_eq_zero_iff (child parent : Link) :
  violations child parent = 0
    ↔ parent.space.rank ≤ child.space.rank ∧ GivesInputs child parent ∧ WithinBounds child parent
  := by
  rw [violations, Nat.add_eq_zero_iff, Nat.add_eq_zero_iff, missingInputs_eq_zero_iff,
    failedBounds_eq_zero_iff, and_assoc]
  simp

theorem isChain_iff_runningPairs {r : Link → Link → Prop} (chain : List Link) :
  chain.IsChain r ↔ ∀ pair ∈ runningPairs chain, r pair.1 pair.2
  := by
  induction chain with
  | nil => simp [runningPairs]
  | cons child rest ih =>
      cases rest with
      | nil => simp [runningPairs]
      | cons parent rest =>
          rw [List.isChain_cons_cons, ih]
          simp [runningPairs]

/-- Ranks that do not rise from any link to the next do not rise between any two links. -/
theorem ranks_iff_runningPairs (chain : List Link) :
  (chain.Pairwise fun early late => late.space.rank ≤ early.space.rank)
    ↔ ∀ pair ∈ runningPairs chain, pair.2.space.rank ≤ pair.1.space.rank
  := by
  have : IsTrans Link fun early late => late.space.rank ≤ early.space.rank :=
    ⟨fun _ _ _ first second => le_trans second first⟩
  rw [← List.isChain_iff_pairwise]
  apply isChain_iff_runningPairs

/-- A chain is legal exactly when no violation of it is counted. -/
theorem legal_iff_length_issues (chain : List Link) :
  Legal chain ↔ (issues chain).length = 0
  := by
  rw [length_issues, Nat.add_eq_zero_iff, List.sum_eq_zero_iff_forall_eq_nat]
  simp only [List.forall_mem_map, violations_eq_zero_iff]
  constructor
  · intro legal
    constructor
    · intro pair h
      exact ⟨(ranks_iff_runningPairs chain).mp legal.ranks pair h, legal.inputs pair h,
        legal.versions pair h⟩
    · rw [if_pos legal.ending]
  · rintro ⟨pairs, ending⟩
    constructor
    · apply (ranks_iff_runningPairs chain).mpr
      intro pair h
      apply (pairs pair h).1
    · intro pair h
      apply (pairs pair h).2.1
    · intro pair h
      apply (pairs pair h).2.2
    · by_contra h
      simp [h] at ending

/-! ### The verdict -/

/-- A chain is valid exactly when it is legal; every violation is reported once, and so is an end
that is not legal; every pair is checked. -/
theorem validate_iff_legal (chain : List Link) :
  ((validate chain).isValid = true ↔ Legal chain) ∧
    (validate chain).issues.length
      = ((runningPairs chain).map fun pair => violations pair.1 pair.2).sum
        + (if EndsInPrimitive chain then 0 else 1) ∧
    ((validate chain).pairs : Int) = max ((chain.length : Int) - 1) 0
  := by
  refine ⟨?_, ?_, ?_⟩
  · rw [legal_iff_length_issues, List.length_eq_zero_iff]
    simp [validate, Verdict.isValid]
  · rw [← length_issues]
    apply List.length_map
  · simp only [validate]
    omega

end Toolshed.Chain
