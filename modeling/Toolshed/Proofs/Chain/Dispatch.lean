import Toolshed.Proofs.Chain.Declarations
import Toolshed.Proofs.Chain.Execution
import Toolshed.Proofs.Chain.Legality
import Toolshed.Proofs.Chain.Links

/-!
# Which chains are dispatched

A primitive is called for a chain only if nothing runs the last link, something runs every other
link, and ranks never rise on the way there.  The last of several links is a primitive as well.  A
tool that makes up a chain on its own need not be one: the end of a chain is checked together with
its pairs, and there is none.  So it depends on what the file of the tool declares.
-/

namespace Toolshed.Chain

/-- A chain that may be dispatched. -/
structure IsDispatchable (chain : List Element) : Prop where
  /-- There is one link without an executor, it is the last one, and it is a primitive. -/
  ending : ∃ last, chain.getLast? = some last ∧ chain.filter Element.isTerminal = [last]
    ∧ last.role = .primitive
  /-- A link never has a space of higher rank than a link before it. -/
  ranks : chain.Pairwise fun early late => late.space.rank ≤ early.space.rank

/-- A manifest declares no type but that of primitives, in any letter case and with blanks around
it. -/
def DeclaresPrimitive (m : Manifest) : Prop :=
  ∀ declared ∈ m.toolType, Text.lower (Text.trim declared) = "primitive"

/-- What a chain that is dispatched for a tool is like, given the files that there have been. -/
structure IsDispatched (trees : List FileTree) (item : String) (chain : List Element) : Prop where
  /-- There is one link without an executor, and it is the last one. -/
  ending : ∃ last, chain.getLast? = some last ∧ chain.filter Element.isTerminal = [last]
  /-- A link never has a space of higher rank than a link before it. -/
  ranks : chain.Pairwise fun early late => late.space.rank ≤ early.space.rank
  /-- The chain may be dispatched if it has several links, or if its only link is made from a file
  that declares a primitive. -/
  primitive : ∃ first m, chain.head? = some first ∧ Declares trees first.path m
    ∧ first = .ofManifest item first.space first.path m
    ∧ (IsDispatchable chain ↔ 1 < chain.length ∨ DeclaresPrimitive m)

/-- In a chain whose links hang together, nothing runs the last link and something runs all
others. -/
theorem WellLinked.filter_isTerminal {item : String} {chain : List Element}
    (linked : WellLinked item chain) {last : Element} (ends : chain.getLast? = some last) :
  chain.filter Element.isTerminal = [last]
  := by
  obtain ⟨before, rfl⟩ := List.getLast?_eq_some_iff.mp ends
  have run : ∀ link ∈ before, ¬ link.isTerminal = true := by
    intro link among
    obtain ⟨earlier, later, rfl⟩ := List.append_of_mem among
    obtain ⟨parent, rest, onward⟩ := List.exists_cons_of_ne_nil (List.concat_ne_nil last later)
    have onwards := linked.linked
    rw [List.append_assoc, List.cons_append, onward] at onwards
    have runs := (List.isChain_append.mp onwards).2.1
    rw [Element.isTerminal, (List.isChain_cons_cons.mp runs).1]
    apply Bool.false_ne_true
  have alone : last.isTerminal = true := by
    rw [Element.isTerminal, linked.last last ends]
    rfl
  rw [List.filter_append, List.filter_eq_nil_iff.mpr run, List.nil_append,
    List.filter_cons_of_pos alone]
  rfl

/-- A chain is dispatched as it should be if its links hang together, were declared in some files,
and violate nothing. -/
theorem WellLinked.isDispatched {trees : List FileTree} {item : String} {chain : List Element}
    (linked : WellLinked item chain) (declared : ∀ link ∈ chain, IsDeclared trees link)
    (legal : Legal (chain.map Element.link)) {last : Element} (ends : chain.getLast? = some last) :
  IsDispatched trees item chain
  := by
  have alone : chain.filter Element.isTerminal = [last] := linked.filter_isTerminal ends
  have ranks := List.pairwise_map.mp legal.ranks
  use ⟨last, ends, alone⟩, ranks
  rcases chain with _ | ⟨first, rest⟩
  · cases ends
  · obtain ⟨m, declares, made⟩ := declared first List.mem_cons_self
    have named : first.item = item := Option.some.inj linked.first
    rw [named] at made
    refine ⟨first, m, rfl, declares, made, ?_⟩
    have dispatchable_iff : IsDispatchable (first :: rest) ↔ last.role = .primitive := by
      constructor
      · rintro ⟨⟨last', ends', _, primitive⟩, _⟩
        obtain rfl := Option.some.inj (ends.symm.trans ends')
        apply primitive
      · intro primitive
        exact ⟨⟨last, ends, alone, primitive⟩, ranks⟩
    rw [dispatchable_iff]
    rcases rest with _ | ⟨next, rest⟩
    · obtain rfl : first = last := Option.some.inj ends
      have executor : m.executor = none := by
        have := linked.last first rfl
        rw [made] at this
        apply this
      rw [made, role_eq_primitive_iff executor, DeclaresPrimitive]
      simp
    · constructor
      · intro _
        left
        simp
      · intro _
        have ending := legal.ending
        rw [EndsInPrimitive, List.length_map, List.getLast?_map, ends] at ending
        apply (ending (by simp) last.link rfl).2 last.role rfl

namespace Session

variable {World : Type}

/-- Whenever executing a tool calls a primitive after a run, it does so for a chain whose items are
those of the outcome.  The chain may be dispatched, unless it consists of the tool alone and the
file of the tool declares another type. -/
theorem isDispatched_of_calls (settings : Settings) (host : Host) (events : List Event)
    (layers : EnvironmentLayers) (item : String) (params : Json.Fields)
    (registry : RegistryIn (StateM World)) (world : World) :
  let s := run settings host events
  s.builder.calls layers s.host item params registry world ≠ [] →
    ∃ chain outcome, (s.builder.build s.host item false).1 = .ok chain
      ∧ ((s.builder.execute layers s.host item params registry).run world).1.1 = .ok outcome
      ∧ outcome.chain = chain.map Element.item
      ∧ IsDispatched (trees host events) item chain
  := by
  intro s called
  have linked := Builder.build_wellLinked (run_keepsLinked settings host events) s.host item false
  obtain ⟨fails, executes⟩ := execute_executes layers s.host item params registry world s.builder
  rcases built : (s.builder.build s.host item false).1 with failure | chain
  · cases called (fails failure built).2.2
  · obtain ⟨outcome, given, executes⟩ := executes chain built
    obtain ⟨last, ends, valid, _⟩ := executes.ready.mp called
    have nonempty : chain ≠ [] := by
      rintro rfl
      cases ends
    use chain, outcome, rfl, given, executes.items nonempty
    apply (linked.2 chain built nonempty).isDispatched (isDeclared_of_build built) _ ends
    apply (validate_iff_legal _).1.mp valid

/-- A machine with a tool that has no executor, and a type that is not one of a primitive. -/
def loneTool : Host :=
  smallHost [("a.json", textFile "\x7b\"tool_type\":\"python\"\x7d" 1)]

/-- A tool with its executor is dispatched as it may be.  A tool on its own is dispatched though it
may not be. -/
theorem isDispatched_of_calls_loneTool :
  (∃ first last, ((run smallSettings twoTools []).builder.build twoTools "a" false).1
      = .ok [first, last] ∧ IsDispatchable [first, last]) ∧
    ∃ tool, ((run smallSettings loneTool []).builder.build loneTool "a" false).1 = .ok [tool]
      ∧ ¬ IsDispatchable [tool]
  := by
  constructor
  · have called : (run smallSettings twoTools []).builder.calls smallLayers twoTools "a" []
        (echo "b") () ≠ [] := by
      decide +kernel
    have items : ((run smallSettings twoTools []).builder.build twoTools "a" false).1.toOption.map
        (List.map Element.item) = some ["a", "b"] := by
      decide +kernel
    obtain ⟨chain, outcome, built, _, _, dispatched⟩ :=
      isDispatched_of_calls smallSettings twoTools [] smallLayers "a" [] (echo "b") () called
    rw [show (run smallSettings twoTools []).host = twoTools from rfl] at built
    rw [built] at items
    obtain ⟨first, rest, rfl, _, named⟩ := List.map_eq_cons_iff.mp (Option.some.inj items)
    obtain ⟨last, rest, rfl, _, named⟩ := List.map_eq_cons_iff.mp named
    obtain rfl := List.map_eq_nil_iff.mp named
    obtain ⟨_, _, _, _, _, dispatchable⟩ := dispatched.primitive
    use first, last, built
    apply dispatchable.mpr
    left
    apply Nat.one_lt_two
  · have called : (run smallSettings loneTool []).builder.calls smallLayers loneTool "a" []
        (echo "a") () ≠ [] := by
      decide +kernel
    have paths : ((run smallSettings loneTool []).builder.build loneTool "a" false).1.toOption.map
        (List.map Element.path) = some ["/s/tools/a.json"] := by
      decide +kernel
    have python : (Manifest.inFile? loneTool.files "/s/tools/a.json").bind Manifest.toolType
        = some "python" := by
      decide +kernel
    obtain ⟨chain, outcome, built, _, _, dispatched⟩ :=
      isDispatched_of_calls smallSettings loneTool [] smallLayers "a" [] (echo "a") () called
    rw [show (run smallSettings loneTool []).host = loneTool from rfl] at built
    rw [built] at paths
    obtain ⟨tool, rest, rfl, path, others⟩ := List.map_eq_cons_iff.mp (Option.some.inj paths)
    obtain rfl := List.map_eq_nil_iff.mp others
    use tool, built
    obtain ⟨first, m, head, ⟨files, among, declares⟩, _, dispatchable⟩ := dispatched.primitive
    obtain rfl := Option.some.inj head
    obtain rfl := List.mem_singleton.mp among
    rw [path] at declares
    rw [declares, Option.bind_some] at python
    rw [dispatchable]
    rintro (several | primitive)
    · cases Nat.lt_irrefl 1 several
    · have other : Text.lower (Text.trim "python") ≠ "primitive" := by
        decide +kernel
      cases other (primitive "python" python)

end Session

end Toolshed.Chain
