import Toolshed.Chain.Execution
import Toolshed.Proofs.Assoc
import Toolshed.Proofs.Chain.Session
import Toolshed.Proofs.Text.Runs

/-!
# What executing a tool hands over

Executing a tool calls a primitive once or not at all.  It is called if the chain of the tool has
links and is legal and the registry has an entry for the last one, under its name or else under the
last segment of that.  It is given the filled configuration in which parameters come first, then the
links from the tool on.

A primitive may do anything to a world.  What is called is seen by keeping a record beside it.
-/

namespace Toolshed.Chain

open Json

/-! ### Entries of a registry -/

/-- The last segment of an item: what stands behind its last slash, or the item itself if it has
none. -/
def IsLastSegment (segment item : String) : Prop :=
  '/' ∉ segment.toList ∧ (item = segment ∨ ∃ outer, item = outer ++ "/" ++ segment)

/-- The short name of an item is its last segment. -/
theorem shortName_eq_iff {segment item : String} :
  shortName item = segment ↔ IsLastSegment segment item
  := by
  have split : (∃ outer, item.toList = outer ++ '/' :: segment.toList)
      ↔ ∃ outer, item = outer ++ "/" ++ segment := by
    constructor
    · rintro ⟨outer, whole⟩
      use String.ofList outer
      rw [← String.toList_inj, whole]
      simp
    · rintro ⟨outer, rfl⟩
      use outer.toList
      simp
  rw [shortName, ← String.toList_inj, String.toList_ofList, Text.lastPart_eq_iff, split,
    String.toList_inj, IsLastSegment]

/-- The entry of a registry for an item: the one with its name or, failing that, the one with the
last segment of its name. -/
def RegistryIn.IsEntry {m : Type → Type} (registry : RegistryIn m) (item name : String) : Prop :=
  name ∈ Assoc.keys registry
    ∧ (name = item ∨ item ∉ Assoc.keys registry ∧ IsLastSegment name item)

/-- The name under which a registry has the primitive of an item. -/
def RegistryIn.entryName {m : Type → Type} (registry : RegistryIn m) (item : String) : String :=
  if item ∈ Assoc.keys registry then item else shortName item

/-- The primitive of an item is the entry with its name. -/
theorem get?_entryName {m : Type → Type} (registry : RegistryIn m) (item : String) :
  Assoc.get? (registry.entryName item) registry = registry.find? item
  := by
  rw [RegistryIn.find?, RegistryIn.entryName]
  split
  · next whole =>
      obtain ⟨primitive, found⟩ := Option.isSome_iff_exists.mp ((Assoc.isSome_get? _ _).mpr whole)
      rw [found]
      rfl
  · next part =>
      rw [← Assoc.isSome_get?, Option.not_isSome_iff_eq_none] at part
      rw [part]
      rfl

/-- The name under which a registry has a primitive is that of an entry. -/
theorem isEntry_entryName {m : Type → Type} {registry : RegistryIn m} {item : String}
    {primitive : Primitive m} (found : registry.find? item = some primitive) :
  registry.IsEntry item (registry.entryName item)
  := by
  constructor
  · rw [← Assoc.isSome_get?, get?_entryName, found]
    rfl
  · rw [RegistryIn.entryName]
    split
    · left
      rfl
    · next missing =>
        right
        exact ⟨missing, shortName_eq_iff.mp rfl⟩

/-- An item has a primitive if the registry has an entry for it. -/
theorem isSome_find? {m : Type → Type} (registry : RegistryIn m) (item : String) :
  (registry.find? item).isSome = true ↔ ∃ name, registry.IsEntry item name
  := by
  constructor
  · intro found
    obtain ⟨primitive, found⟩ := Option.isSome_iff_exists.mp found
    exact ⟨_, isEntry_entryName found⟩
  · rintro ⟨name, among, rfl | ⟨missing, segment⟩⟩
    · rw [← get?_entryName, RegistryIn.entryName, if_pos among, Assoc.isSome_get?]
      apply among
    · rw [← get?_entryName, RegistryIn.entryName, if_neg missing, shortName_eq_iff.mpr segment,
        Assoc.isSome_get?]
      apply among

/-! ### Records -/

/-- A call of a primitive by its name in the registry, with the configuration it was given. -/
structure Call where
  name : String
  config : Value

variable {World : Type}

/-- A primitive that records its calls. -/
def record (name : String) (primitive : Primitive (StateM World)) :
    Primitive (StateM (World × List Call)) :=
  fun config (world, calls) =>
    let (outcome, world) := (primitive config).run world
    (outcome, (world, calls ++ [⟨name, config⟩]))

/-- A registry whose primitives record their calls. -/
def RegistryIn.recorded (registry : RegistryIn (StateM World)) :
    RegistryIn (StateM (World × List Call)) :=
  registry.map fun (name, primitive) => (name, record name primitive)

/-- A recorded primitive is found where the plain one is. -/
theorem find?_recorded (registry : RegistryIn (StateM World)) (item : String) :
  registry.recorded.find? item
    = (registry.find? item).map (record (registry.entryName item))
  := by
  rw [RegistryIn.find?, RegistryIn.find?, RegistryIn.recorded, Assoc.get?_map, Assoc.get?_map,
    RegistryIn.entryName]
  have whole := Assoc.isSome_get? item registry
  rcases found : Assoc.get? item registry with _ | primitive
  · rw [found] at whole
    rw [if_neg (by simpa using whole)]
    rfl
  · rw [found] at whole
    rw [if_pos (by simpa using whole)]
    rfl

/-! ### Merged configurations -/

/-- The merged configuration has for every key what the first of the parameters and the links, from
the tool on, has for it. -/
theorem get?_mergedConfig (chain : List Element) (params : Fields) (key : String) :
  Assoc.get? key (mergedConfig chain params)
    = (params :: chain.map Element.config).findSome? (Assoc.last? key)
  := by
  rw [mergedConfig, Assoc.get?_insertAll, Assoc.get?_foldl_insertAll, ← List.map_reverse,
    List.reverse_reverse, List.findSome?_cons, Assoc.get?, Option.or_none]
  rcases Assoc.last? key params with _ | value
  · rfl
  · rfl

theorem nodup_keys_mergedConfig (chain : List Element) (params : Fields) :
  (Assoc.keys (mergedConfig chain params)).Nodup
  := by
  apply Assoc.nodup_keys_insertAll
  apply List.foldlRecOn (chain.reverse.map Element.config)
    (fun merged config => Assoc.insertAll config merged)
    (motive := fun merged => (Assoc.keys merged).Nodup)
  · apply List.nodup_nil
  · intro merged distinct config _
    apply Assoc.nodup_keys_insertAll config distinct

/-! ### Running a chain -/

variable {layers : EnvironmentLayers} {host : Host} {item : String} {params : Fields}
  {registry : RegistryIn (StateM World)} {chain : List Element} {b : Builder} {world : World}

/-- A chain may be run: it has a last link and is legal, and there is an entry for that link. -/
def IsReady (registry : RegistryIn (StateM World)) (chain : List Element) : Prop :=
  ∃ last, chain.getLast? = some last ∧ (validate (chain.map Element.link)).isValid = true
    ∧ ∃ name, registry.IsEntry last.item name

/-- The configuration of a chain, merged and filled. -/
def filledConfig (layers : EnvironmentLayers) (host : Host) (params : Fields)
    (chain : List Element) : Value :=
  Template.fillConfig (.object (mergedConfig chain params)) (environment layers host chain)

/-- The calls that running a chain makes. -/
def handedOver (layers : EnvironmentLayers) (host : Host) (params : Fields)
    (registry : RegistryIn (StateM World)) (chain : List Element) : List Call :=
  match chain.getLast? with
  | none => []
  | some last =>
    if (validate (chain.map Element.link)).isValid && (registry.find? last.item).isSome then
      [⟨registry.entryName last.item, filledConfig layers host params chain⟩]
    else []

theorem handedOver_ne_nil :
  handedOver layers host params registry chain ≠ [] ↔ IsReady registry chain
  := by
  rw [handedOver, IsReady]
  rcases chain.getLast? with _ | last
  · simp
  · simp only [Option.some.injEq, exists_eq_left', ← isSome_find?, ← Bool.and_eq_true]
    split
    · next ready => simpa using ready
    · next unready => simpa using unready

/-- Recording calls changes nothing else about running a chain. -/
theorem run_recorded {last : Element} (ends : chain.getLast? = some last) (calls : List Call) :
  (run layers host params registry.recorded chain last).run (world, calls)
    = (((run layers host params registry chain last).run world).1,
      ((run layers host params registry chain last).run world).2,
      calls ++ handedOver layers host params registry chain)
  := by
  rw [run, run, handedOver, ends, find?_recorded]
  dsimp only
  rcases (validate (chain.map Element.link)).isValid with _ | _
  · rw [Bool.false_and, if_neg Bool.false_ne_true, List.append_nil]
    rfl
  · rcases registry.find? last.item with _ | primitive
    · rw [Option.isSome_none, Bool.and_false, if_neg Bool.false_ne_true, List.append_nil]
      rfl
    · rfl

/-! ### Executing a tool -/

/-- What executing a tool with a chain comes to: its outcome, the world after it and its calls. -/
structure Executes (layers : EnvironmentLayers) (host : Host) (params : Fields)
    (registry : RegistryIn (StateM World)) (chain : List Element) (world : World)
    (outcome : Outcome) (world' : World) (calls : List Call) : Prop where
  /-- There is one call at most. -/
  once : calls.length ≤ 1
  /-- There is one just when the chain may be run. -/
  ready : calls ≠ [] ↔ IsReady registry chain
  /-- The configuration is merged from the parameters and the links, the tool first, and filled. -/
  config : ∀ call ∈ calls, ∃ merged : Fields,
    call.config = Template.fillConfig (.object merged) (environment layers host chain)
      ∧ (Assoc.keys merged).Nodup
      ∧ ∀ key, Assoc.get? key merged
          = (params :: chain.map Element.config).findSome? (Assoc.last? key)
  /-- The primitive called is the entry for the last link, and gives the outcome and the world. -/
  answer : ∀ call ∈ calls, ∃ last primitive, chain.getLast? = some last
    ∧ registry.IsEntry last.item call.name ∧ Assoc.get? call.name registry = some primitive
    ∧ ∃ given, (primitive call.config).run world = (given, world')
        ∧ outcome = { given with chain := chain.map Element.item }
  /-- Without a call, the outcome is a failure, and nothing happens to the world. -/
  refusal : calls = [] → outcome.success = false ∧ world' = world
  /-- Links are listed whatever the outcome is. -/
  items : chain ≠ [] → outcome.chain = chain.map Element.item

/-- Running a chain is to call the primitive of its last link, or to refuse. -/
theorem run_cases {last : Element} (ends : chain.getLast? = some last) :
  (∃ primitive, registry.find? last.item = some primitive
      ∧ handedOver layers host params registry chain
        = [⟨registry.entryName last.item, filledConfig layers host params chain⟩]
      ∧ run layers host params registry chain last
        = primitive (filledConfig layers host params chain)) ∨
    (handedOver layers host params registry chain = []
      ∧ ∃ error, run layers host params registry chain last = pure (.ofError error))
  := by
  rw [handedOver, ends, run]
  dsimp only
  rcases (validate (chain.map Element.link)).isValid with _ | _
  · right
    exact ⟨rfl, _, rfl⟩
  · rcases registry.find? last.item with _ | primitive
    · right
      exact ⟨rfl, _, rfl⟩
    · left
      use primitive, rfl, rfl
      rfl

/-- What may not be run and is refused makes no call. -/
theorem executes_of_refused {outcome : Outcome} (unready : ¬ IsReady registry chain)
    (failed : outcome.success = false)
    (items : chain ≠ [] → outcome.chain = chain.map Element.item) :
  Executes layers host params registry chain world outcome world []
  := by
  constructor
  case once => apply Nat.zero_le
  case ready =>
    constructor
    · intro nonempty
      cases nonempty rfl
    · intro ready
      cases unready ready
  case config =>
    intro call among
    cases among
  case answer =>
    intro call among
    cases among
  case refusal =>
    intro _
    use failed
  case items => apply items

/-- Running a chain gives its outcome with the items of the chain. -/
theorem executes_run {last : Element} (ends : chain.getLast? = some last) :
  Executes layers host params registry chain world
    { ((run layers host params registry chain last).run world).1 with
      chain := chain.map Element.item }
    ((run layers host params registry chain last).run world).2
    (handedOver layers host params registry chain)
  := by
  rcases run_cases ends with ⟨primitive, found, calls, called⟩ | ⟨calls, error, refused⟩
  · have only : ∀ call ∈ handedOver layers host params registry chain,
        call = ⟨registry.entryName last.item, filledConfig layers host params chain⟩ := by
      intro call among
      rw [calls] at among
      apply List.mem_singleton.mp among
    constructor
    case once =>
      rw [calls]
      apply Nat.le_refl
    case ready => apply handedOver_ne_nil
    case config =>
      intro call among
      rw [only call among]
      use mergedConfig chain params, rfl
      constructor
      · apply nodup_keys_mergedConfig
      · apply get?_mergedConfig
    case answer =>
      intro call among
      rw [only call among]
      use last, primitive, ends, isEntry_entryName found
      constructor
      · rw [get?_entryName, found]
      · rw [called]
        exact ⟨_, rfl, rfl⟩
    case refusal =>
      intro empty
      rw [calls] at empty
      cases empty
    case items =>
      intro _
      rfl
  · rw [refused, calls]
    apply executes_of_refused
    · intro ready
      apply handedOver_ne_nil.mpr ready calls
    · rfl
    · intro _
      rfl

/-- Without links, nothing is run. -/
theorem executes_nil {error : String} :
  Executes layers host params registry [] world (.ofError error) world []
  := by
  apply executes_of_refused
  · rintro ⟨last, ends, _⟩
    cases ends
  · rfl
  · intro nonempty
    cases nonempty rfl

/-! ### From building to running -/

variable {m : Type → Type} [Monad m] {entries : RegistryIn m} {b' : Builder}

theorem execute_of_error {failure : Failure}
  (failed : b.build host item false = (.error failure, b')) :
  b.execute layers host item params entries = pure (.error failure, b')
  := by
  rw [Builder.execute, failed]

theorem execute_of_nil (built : b.build host item false = (.ok [], b')) :
  b.execute layers host item params entries
    = pure (.ok (.ofError ("tool not found: " ++ item)), b')
  := by
  rw [Builder.execute, built]
  rfl

theorem execute_of_last {last : Element} (ends : chain.getLast? = some last)
  (built : b.build host item false = (.ok chain, b')) :
  b.execute layers host item params entries
    = run layers host params entries chain last >>= fun outcome =>
      pure (.ok { outcome with chain := chain.map Element.item }, b')
  := by
  rw [Builder.execute, built]
  dsimp only
  rw [ends]

/-- The calls that executing a tool makes. -/
def Builder.calls (layers : EnvironmentLayers) (host : Host) (item : String) (params : Fields)
    (registry : RegistryIn (StateM World)) (world : World) (b : Builder) : List Call :=
  ((b.execute layers host item params registry.recorded).run (world, [])).2.2

/-- Recording calls changes nothing else about executing a tool. -/
theorem execute_recorded :
  (b.execute layers host item params registry.recorded).run (world, [])
    = (((b.execute layers host item params registry).run world).1,
      ((b.execute layers host item params registry).run world).2,
      b.calls layers host item params registry world)
  := by
  rw [Builder.calls]
  rcases built : b.build host item false with ⟨failure | chain, b'⟩
  · rw [execute_of_error built, execute_of_error built]
    rfl
  · rcases ends : chain.getLast? with _ | last
    · obtain rfl := List.getLast?_eq_none_iff.mp ends
      rw [execute_of_nil built, execute_of_nil built]
      rfl
    · rw [execute_of_last ends built, execute_of_last ends built, StateT.run_bind,
        run_recorded ends]
      rfl

/-- A chain that is built is run, and the calls are those that running it makes. -/
theorem calls_of_build (built : b.build host item false = (.ok chain, b')) :
  b.calls layers host item params registry world = handedOver layers host params registry chain
  := by
  rw [Builder.calls]
  rcases ends : chain.getLast? with _ | last
  · obtain rfl := List.getLast?_eq_none_iff.mp ends
    rw [execute_of_nil built]
    rfl
  · rw [execute_of_last ends built, StateT.run_bind, run_recorded ends]
    rfl

/-- Executing a tool fails with its chain, or it comes to what running the chain does. -/
theorem execute_executes (layers : EnvironmentLayers) (host : Host) (item : String)
    (params : Fields) (registry : RegistryIn (StateM World)) (world : World) (b : Builder) :
  let after := (b.execute layers host item params registry).run world
  let calls := b.calls layers host item params registry world
  (∀ failure, (b.build host item false).1 = .error failure →
      after.1.1 = .error failure ∧ after.2 = world ∧ calls = []) ∧
    ∀ chain, (b.build host item false).1 = .ok chain →
      ∃ outcome, after.1.1 = .ok outcome
        ∧ Executes layers host params registry chain world outcome after.2 calls
  := by
  dsimp only
  rcases built : b.build host item false with ⟨failure | chain, b'⟩
  · constructor
    · intro failure' same
      rw [Builder.calls, execute_of_error built, execute_of_error built]
      obtain rfl := Except.error.inj same
      use rfl, rfl
      rfl
    · intro chain same
      cases same
  · constructor
    · intro failure same
      cases same
    · intro chain' same
      obtain rfl := Except.ok.inj same
      rw [calls_of_build built]
      rcases ends : chain.getLast? with _ | last
      · obtain rfl := List.getLast?_eq_none_iff.mp ends
        rw [execute_of_nil built]
        use .ofError ("tool not found: " ++ item), rfl
        apply executes_nil
      · rw [execute_of_last ends built]
        exact ⟨_, rfl, executes_run ends⟩

namespace Session

/-- What environments are built from on a machine that has a system space only. -/
def smallLayers : EnvironmentLayers :=
  ⟨⟨none, "/u", some ""⟩, some []⟩

/-- A registry with one primitive, which gives back what it is given. -/
def echo (name : String) : RegistryIn (StateM Unit) :=
  [(name, fun config => pure (.ofData config))]

/-- A tool and its executor, whose name has two segments. -/
def segmentedTools : Host :=
  smallHost [("a.json", textFile "\x7b\"executor_id\":\"k/b\"\x7d" 1),
    ("k", .directory [("b.json", textFile "\x7b\x7d" 1)])]

/-- The executor has no entry under its name, so the one with its last segment is called. -/
theorem execute_executes_segmentedTools :
  let b := Builder.empty smallSettings
  ∃ chain outcome world config, (b.build segmentedTools "a" false).1 = .ok chain
    ∧ chain.map Element.item = ["a", "k/b"] ∧ IsLastSegment "b" "k/b"
    ∧ ((b.execute smallLayers segmentedTools "a" [] (echo "b")).run ()).1.1 = .ok outcome
    ∧ Executes smallLayers segmentedTools [] (echo "b") chain () outcome world [⟨"b", config⟩]
  := by
  intro b
  have called : b.calls smallLayers segmentedTools "a" [] (echo "b") () ≠ [] := by
    decide +kernel
  have items : (b.build segmentedTools "a" false).1.toOption.map (List.map Element.item)
      = some ["a", "k/b"] := by
    decide +kernel
  obtain ⟨fails, executes⟩ := execute_executes smallLayers segmentedTools "a" [] (echo "b") () b
  rcases built : (b.build segmentedTools "a" false).1 with failure | chain
  · cases called (fails failure built).2.2
  · rw [built] at items
    have items := Option.some.inj items
    obtain ⟨outcome, given, executes⟩ := executes chain built
    obtain ⟨call, more, calls⟩ := List.exists_cons_of_ne_nil called
    obtain rfl : more = [] := by
      have once := executes.once
      rw [calls, List.length_cons] at once
      apply List.eq_nil_of_length_eq_zero (by omega)
    obtain ⟨last, _, ends, ⟨among, named⟩, _⟩ := executes.answer call (by rw [calls]; simp)
    obtain ⟨name, config⟩ := call
    obtain rfl : name = "b" := List.mem_singleton.mp among
    have last_item : some last.item = some "k/b" := by
      rw [← Option.map_some, ← ends, ← List.getLast?_map, items]
      rfl
    rw [Option.some.inj last_item] at named
    rw [calls] at executes
    refine ⟨chain, outcome, _, config, rfl, items, ?_, given, executes⟩
    rcases named with whole | ⟨_, segment⟩
    · have apart : "b" ≠ "k/b" := by decide
      cases apart whole
    · apply segment

end Session

end Toolshed.Chain
