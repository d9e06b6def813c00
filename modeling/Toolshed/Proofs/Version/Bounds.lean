import Toolshed.Proofs.Chain.Legality
import Toolshed.Proofs.Search.Filters
import Toolshed.Proofs.Version.Front

/-!
# Bounds on versions

Filters and constraints bound a version from one side or both.  The order of versions is a total
preorder, so a version is below a bound or not, what a bound lets pass a lower one lets pass, too,
and a least and a greatest version leave an interval between them.
-/

namespace Toolshed

open Json

namespace Version

/-- The blanks around a bound do not matter. -/
theorem compareTexts_trim (a b : String) :
  compareTexts a (Text.trim b) = compareTexts a b
  := by
  have same : ofText (Text.trim b) = ofText b := by
    rw [ofText, Text.trim, String.toList_ofList, Text.trimBoth_trimBoth, ← ofText]
  rw [compareTexts, compareTexts, same]

end Version

/-! ### Filters -/

namespace Filter

theorem stripStart?_append (start text : String) :
  Text.stripStart? start (start ++ text) = some text
  := by
  rw [Text.stripStart?, Text.afterStart?_eq_some.mpr String.toList_append, Option.map_some,
    String.ofList_toList]

theorem stripStart?_eq_none {start text : String} (other : ¬ start.toList <+: text.toList) :
  Text.stripStart? start text = none
  := by
  rw [Text.stripStart?, Option.map_eq_none_iff, Option.eq_none_iff_forall_ne_some]
  intro rest after
  apply other
  rw [Text.afterStart?_eq_some.mp after]
  apply List.prefix_append

/-- A comparison does not go on in the bound behind it. -/
def EndsBefore (sign bound : String) : Prop :=
  sign ∈ [">=", "<="] ∨ bound.toList.head? ≠ some '='

/-- A sign with an equals sign behind it is not found before a bound that does not begin with
one. -/
theorem stripStart?_longer {sign longer bound : String} (goesOn : sign ++ "=" = longer)
    (plain : bound.toList.head? ≠ some '=') :
  Text.stripStart? longer (sign ++ bound) = none
  := by
  apply stripStart?_eq_none
  rw [← goesOn, String.toList_append, String.toList_append, List.prefix_append_right_inj]
  rintro ⟨rest, split⟩
  apply plain
  rw [← split]
  rfl

/-- A comparison is read back in front of its bound. -/
theorem comparison?_append {sign bound : String} (known : sign ∈ comparisons)
    (ends : EndsBefore sign bound) :
  comparison? (sign ++ bound) = some (sign, bound)
  := by
  simp only [comparisons, List.mem_cons, List.not_mem_nil, or_false] at known
  rw [comparison?, comparisons, List.findSome?_cons]
  rcases known with rfl | rfl | rfl | rfl
  · rw [stripStart?_append]
    rfl
  · rw [stripStart?_eq_none, Option.map_none, List.findSome?_cons, stripStart?_append]
    · rfl
    · simp
  · have plain := ends.resolve_left (by decide)
    have shorter : Text.stripStart? ">=" (">" ++ bound) = none := stripStart?_longer rfl plain
    rw [shorter, Option.map_none, List.findSome?_cons, stripStart?_eq_none, Option.map_none,
      List.findSome?_cons, stripStart?_append]
    · rfl
    · simp
  · have plain := ends.resolve_left (by decide)
    have shorter : Text.stripStart? "<=" ("<" ++ bound) = none := stripStart?_longer rfl plain
    rw [stripStart?_eq_none, Option.map_none, List.findSome?_cons, shorter, Option.map_none,
      List.findSome?_cons, stripStart?_eq_none, Option.map_none, List.findSome?_cons,
      stripStart?_append]
    · rfl
    · simp
    · simp

/-- A value passes a filter with a comparison when its text satisfies the constraint. -/
theorem passes_append {actual : Value} {sign bound : String} (known : sign ∈ comparisons)
    (ends : EndsBefore sign bound) :
  passes actual (.string (sign ++ bound))
    = actual.scalar?.any fun version => Version.satisfies version sign bound
  := by
  have same : ∀ version,
      Version.satisfies version sign (Text.trim bound) = Version.satisfies version sign bound := by
    intro version
    simp only [Version.satisfies, Version.meets, Version.compareTexts_trim]
  have affirmed : Text.stripStart? "!" (sign ++ bound) = none := by
    apply stripStart?_eq_none
    simp only [comparisons, List.mem_cons, List.not_mem_nil, or_false] at known
    rcases known with rfl | rfl | rfl | rfl
    · simp
    · simp
    · simp
    · simp
  rw [passes, passesText, affirmed, comparison?_append known ends]
  simp only [same]

/-- A value passes exactly one of two filters. -/
def PassesOneOf (actual : Value) (filter other : String) : Prop :=
  passes actual (.string filter) = !passes actual (.string other)

section

variable {actual : Value} {bound : String} (scalar : actual.scalar?.isSome = true)
  (plain : bound.toList.head? ≠ some '=')

include scalar plain

theorem passesOneOf_below :
  PassesOneOf actual ("<" ++ bound) (">=" ++ bound)
  := by
  obtain ⟨version, text⟩ := Option.isSome_iff_exists.mp scalar
  rw [PassesOneOf, passes_append (by decide) (.inr plain), passes_append (by decide) (.inr plain),
    text]
  change (Version.compareTexts version bound == .lt) = !(Version.compareTexts version bound != .lt)
  rw [bne, Bool.not_not]

theorem passesOneOf_above :
  PassesOneOf actual (">" ++ bound) ("<=" ++ bound)
  := by
  obtain ⟨version, text⟩ := Option.isSome_iff_exists.mp scalar
  rw [PassesOneOf, passes_append (by decide) (.inr plain), passes_append (by decide) (.inr plain),
    text]
  change (Version.compareTexts version bound == .gt) = !(Version.compareTexts version bound != .gt)
  rw [bne, Bool.not_not]

end

theorem passes_atLeast_iff {actual : Value} {bound : String} :
  passes actual (.string (">=" ++ bound)) = true
    ↔ ∃ version ∈ actual.scalar?, Version.AtMost bound version
  := by
  rw [passes_append (by decide) (.inl (by decide)), Option.any_eq_true]
  apply exists_congr
  intro version
  apply and_congr_right
  intro _
  rw [Version.atMost_iff_ne_lt]
  apply bne_iff_ne

/-- What a least version lets pass, a lower one lets pass. -/
theorem passes_atLeast_mono {actual : Value} {bound lower : String}
    (below : Version.AtMost lower bound)
    (pass : passes actual (.string (">=" ++ bound)) = true) :
  passes actual (.string (">=" ++ lower)) = true
  := by
  obtain ⟨version, text, above⟩ := passes_atLeast_iff.mp pass
  apply passes_atLeast_iff.mpr
  use version, text
  apply below.trans above

/-- An equals sign in front of a bound belongs to the comparison below it, and the version without
it passes. -/
theorem passes_below_equalsSign (version : String) :
  passes (.string version) (.string ("<" ++ ("=" ++ version))) = true
  := by
  have sign : "<" ++ ("=" ++ version) = "<=" ++ version := by
    rw [← String.append_assoc]
    rfl
  rw [sign, passes_append (by decide) (.inl (by decide))]
  have same : Version.compareTexts version version = .eq := Std.ReflCmp.compare_self
  change (Version.compareTexts version version != .gt) = true
  rw [same]
  decide

/-- The filters on the two sides of a bound leave nothing out and have nothing in common, unless an
equals sign in front of the bound belongs to the comparisons. -/
theorem passesOneOf_iff {bound : String} :
  (∀ actual : Value, actual.scalar?.isSome = true →
      PassesOneOf actual ("<" ++ bound) (">=" ++ bound)
        ∧ PassesOneOf actual (">" ++ bound) ("<=" ++ bound))
    ↔ bound.toList.head? ≠ some '='
  := by
  constructor
  · intro oneOf signed
    obtain ⟨rest, split⟩ := List.head?_eq_some_iff.mp signed
    have bound_eq : bound = "=" ++ String.ofList rest := by
      simp [← String.toList_inj, split]
    have atLeast : passes (.string (String.ofList rest)) (.string (">=" ++ bound)) = true := by
      apply passes_atLeast_iff.mpr
      use String.ofList rest, rfl
      rw [bound_eq]
      apply Version.atMost_equalsSign
    have below := (oneOf (.string (String.ofList rest)) rfl).1
    rw [PassesOneOf, atLeast, bound_eq, passes_below_equalsSign] at below
    cases below
  · intro plain actual scalar
    use passesOneOf_below scalar plain
    apply passesOneOf_above scalar plain

end Filter

/-! ### Constraints -/

namespace Chain

/-- The constraints of a parent let a version of a child pass. -/
def Accepts (child parent : Link) (version : String) : Prop :=
  versionIssues { child with version := some version } parent = []

/-- The bounds that a parent sets for the version of a child leave the versions between them. -/
theorem accepts_iff {child parent : Link} {version : String} :
  Accepts child parent version ↔ ∀ bounds ∈ boundsFor? child parent,
    (∀ least ∈ textOf? bounds "min_version", Version.AtMost least version)
      ∧ ∀ greatest ∈ textOf? bounds "max_version", Version.AtMost version greatest
  := by
  rw [Accepts, ← List.length_eq_zero_iff, length_versionIssues, failedBounds_eq_zero_iff,
    WithinBounds]
  constructor
  · intro within bounds set
    obtain ⟨above, below⟩ := within version rfl bounds set
    constructor
    · intro least set'
      apply Version.atMost_iff_ne_lt.mpr (above least set')
    · intro greatest set'
      apply Version.atMost_iff_ne_gt.mpr (below greatest set')
  · rintro between _ ⟨⟩ bounds set
    obtain ⟨above, below⟩ := between bounds set
    constructor
    · intro least set'
      apply Version.atMost_iff_ne_lt.mp (above least set')
    · intro greatest set'
      apply Version.atMost_iff_ne_gt.mp (below greatest set')

/-- A version between two that are accepted is accepted. -/
theorem Accepts.between {child parent : Link} {first middle last : String}
    (accepted : Accepts child parent first) (accepted' : Accepts child parent last)
    (above : Version.AtMost first middle) (below : Version.AtMost middle last) :
  Accepts child parent middle
  := by
  rw [accepts_iff] at accepted accepted' ⊢
  intro bounds set
  constructor
  · intro least set'
    apply ((accepted bounds set).1 least set').trans above
  · intro greatest set'
    apply below.trans ((accepted' bounds set).2 greatest set')

/-- The versions that a least and a greatest version leave between them. -/
theorem accepts_iff_between {child parent : Link} {bounds : Fields} {least greatest : String}
    (set : boundsFor? child parent = some bounds) (low : textOf? bounds "min_version" = some least)
    (high : textOf? bounds "max_version" = some greatest) (version : String) :
  Accepts child parent version ↔ Version.AtMost least version ∧ Version.AtMost version greatest
  := by
  rw [accepts_iff, set]
  constructor
  · intro between
    obtain ⟨above, below⟩ := between bounds rfl
    use above least low, below greatest high
  · rintro ⟨above, below⟩ _ ⟨⟩
    rw [low, high]
    constructor
    · rintro _ ⟨⟩
      apply above
    · rintro _ ⟨⟩
      apply below

end Chain

/-! ### The order and its bounds -/

namespace Version

/-- Texts as versions are in a total preorder.  All fields with a text pass exactly one of the
filters below and not below a bound, and exactly one of those above and not above it, if and only if
the bound does not begin with an equals sign, which belongs to the comparison then.  What passes a
least version passes every lower one.  A parent accepts the versions of an interval, which is the
one from the least to the greatest version when it sets both. -/
theorem bounds_respect_order :
  IsTotalPreorder compareTexts
    ∧ (∀ bound : String,
      (∀ actual : Value, actual.scalar?.isSome = true →
        Filter.PassesOneOf actual ("<" ++ bound) (">=" ++ bound)
          ∧ Filter.PassesOneOf actual (">" ++ bound) ("<=" ++ bound))
        ↔ bound.toList.head? ≠ some '=')
    ∧ (∀ (actual : Value) (bound lower : String), AtMost lower bound →
      Filter.passes actual (.string (">=" ++ bound)) = true →
        Filter.passes actual (.string (">=" ++ lower)) = true)
    ∧ ∀ child parent : Chain.Link,
      (∀ first middle last : String, AtMost first middle → AtMost middle last →
        Chain.Accepts child parent first → Chain.Accepts child parent last →
          Chain.Accepts child parent middle)
      ∧ ∀ (bounds : Fields) (least greatest version : String),
        Chain.boundsFor? child parent = some bounds →
        textOf? bounds "min_version" = some least →
        textOf? bounds "max_version" = some greatest →
          (Chain.Accepts child parent version ↔ AtMost least version ∧ AtMost version greatest)
  := by
  use isTotalPreorder_compareTexts
  refine ⟨?_, ?_, ?_⟩
  · intro bound
    apply Filter.passesOneOf_iff
  · intro actual bound lower below pass
    apply Filter.passes_atLeast_mono below pass
  · intro child parent
    constructor
    · intro first middle last above below accepted accepted'
      apply accepted.between accepted' above below
    · intro bounds least greatest version set low high
      apply Chain.accepts_iff_between set low high

/-- A tool whose version is bounded. -/
def boundedTool : Chain.Link :=
  ⟨"reader", .project, none, none, none, none, none, none⟩

/-- The versions from 1.2 to 2.0. -/
def bothBounds : Fields :=
  [("min_version", .string "1.2"), ("max_version", .string "2.0")]

/-- A tool that bounds the version of the other one. -/
def boundingTool : Chain.Link :=
  ⟨"processor", .project, none, none, none, none, none, some [("reader", .object bothBounds)]⟩

/-- A tenth version comes after a ninth one. -/
theorem bounds_respect_order_tenth :
  ((Value.string "1.10").scalar?.isSome = true ∧ "1.9".toList.head? ≠ some '='
      ∧ Filter.PassesOneOf (.string "1.10") ("<" ++ "1.9") (">=" ++ "1.9"))
    ∧ (AtMost "1.2-rc" "1.9" ∧ Filter.passes (.string "1.10") (.string (">=" ++ "1.9")) = true
      ∧ Filter.passes (.string "1.10") (.string (">=" ++ "1.2-rc")) = true)
    ∧ Chain.boundsFor? boundedTool boundingTool = some bothBounds
      ∧ textOf? bothBounds "min_version" = some "1.2"
      ∧ textOf? bothBounds "max_version" = some "2.0"
      ∧ Chain.Accepts boundedTool boundingTool "1.2"
      ∧ Chain.Accepts boundedTool boundingTool "2.0"
      ∧ Chain.Accepts boundedTool boundingTool "1.10"
  := by
  obtain ⟨-, oneOf, mono, bounded⟩ := bounds_respect_order
  have plain : "1.9".toList.head? ≠ some '=' := by
    decide
  have lower : AtMost "1.2-rc" "1.9" := by
    rw [AtMost, compareTexts_eq]
    decide +kernel
  have above : AtMost "1.9" "1.10" := by
    rw [AtMost, compareTexts_eq]
    decide +kernel
  have pass : Filter.passes (.string "1.10") (.string (">=" ++ "1.9")) = true :=
    Filter.passes_atLeast_iff.mpr ⟨"1.10", rfl, above⟩
  have inside : AtMost "1.2" "1.10" ∧ AtMost "1.10" "2.0" := by
    rw [AtMost, AtMost, compareTexts_eq, compareTexts_eq]
    decide +kernel
  have ends : AtMost "1.2" "1.2" ∧ AtMost "1.2" "2.0" ∧ AtMost "2.0" "2.0" := by
    simp only [AtMost, compareTexts_eq]
    decide +kernel
  have accepted : Chain.Accepts boundedTool boundingTool "1.2" :=
    ((bounded _ _).2 bothBounds _ _ _ rfl rfl rfl).mpr ⟨ends.1, ends.2.1⟩
  have accepted' : Chain.Accepts boundedTool boundingTool "2.0" :=
    ((bounded _ _).2 bothBounds _ _ _ rfl rfl rfl).mpr ⟨ends.2.1, ends.2.2⟩
  refine ⟨⟨rfl, plain, ?_⟩, ⟨lower, pass, ?_⟩, rfl, rfl, rfl, accepted, accepted', ?_⟩
  · apply ((oneOf _).mpr plain _ rfl).1
  · apply mono _ _ _ lower pass
  · apply (bounded _ _).1 "1.2" "1.10" "2.0" inside.1 inside.2 accepted accepted'

/-- A bound that begins with an equals sign is not bounded by the filters: a field passes both. -/
theorem not_passesOneOf_of_equalsSign :
  (Value.string "0.5").scalar?.isSome = true
    ∧ Filter.passes (.string "0.5") (.string ("<" ++ "=1")) = true
    ∧ Filter.passes (.string "0.5") (.string (">=" ++ "=1")) = true
    ∧ ¬ Filter.PassesOneOf (.string "0.5") ("<" ++ "=1") (">=" ++ "=1")
  := by
  have atMost : Filter.passes (.string "0.5") (.string ("<" ++ "=1")) = true := by
    change Filter.passes (.string "0.5") (.string ("<=" ++ "1")) = true
    rw [Filter.passes_append (by decide) (.inl (by decide))]
    change (compareTexts "0.5" "1" != .gt) = true
    rw [compareTexts_eq]
    decide +kernel
  have atLeast : Filter.passes (.string "0.5") (.string (">=" ++ "=1")) = true := by
    apply Filter.passes_atLeast_iff.mpr
    use "0.5", rfl
    rw [AtMost, compareTexts_eq]
    decide +kernel
  use rfl, atMost, atLeast
  rw [Filter.PassesOneOf, atMost, atLeast]
  decide

end Version

end Toolshed
