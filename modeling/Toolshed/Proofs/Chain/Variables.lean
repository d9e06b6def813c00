import Toolshed.Proofs.Chain.Execution
import Toolshed.Proofs.Environment.Order
import Toolshed.Proofs.Json.Reading

/-!
# The order of the variables of a chain

The variables of a chain are those of its links put together, from the last link on, and they are
expanded one after another.  A variable that a link shares with one that it runs through stands in
the place that it has there.  So the variables of a tool come to what they come to in the order of
the tool if and only if each of them still follows those it refers to.
-/

namespace Toolshed.Chain

open Json Environment

/-! ### Variables put together -/

/-- The variables that a link declares, in order. -/
def Element.declared (element : Element) : Fields :=
  (objectOf? (element.envConfig.getD []) "env").getD []

/-- The variables of a chain, in the order in which they are expanded. -/
def mergedVariables (chain : List Element) : Fields :=
  (objectOf? (environmentConfig chain) "env").getD []

/-- The configuration of the environment of a link is a proper object, which has no key twice. -/
def Element.IsProper (element : Element) : Prop :=
  (Value.object (element.envConfig.getD [])).IsProper

theorem objectOf?_insert (name : String) (value : Value) (fields : Fields) (other : String) :
  objectOf? (Assoc.insert name value fields) other
    = if name = other then value.object? else objectOf? fields other
  := by
  rw [objectOf?, Assoc.get?_insert]
  split
  · rfl
  · rfl

theorem environmentConfig_cons (element : Element) (rest : List Element) :
  environmentConfig (element :: rest)
    = (element.envConfig.getD []).foldl
      (fun merged (name, value) => mergeVariables merged name value) (environmentConfig rest)
  := by
  rw [environmentConfig, List.reverse_cons, List.flatMap_append, List.foldl_append,
    List.flatMap_singleton, ← environmentConfig]

/-- Members under other keys leave the variables as they are. -/
theorem objectOf?_foldl_of_not_mem {members : Fields} (other : "env" ∉ Assoc.keys members)
    (merged : Fields) :
  objectOf? (members.foldl (fun merged (name, value) => mergeVariables merged name value) merged)
      "env"
    = objectOf? merged "env"
  := by
  induction members generalizing merged with
  | nil => rfl
  | cons member members ih =>
      obtain ⟨name, value⟩ := member
      rw [Assoc.keys_cons, List.mem_cons, not_or] at other
      have kept : objectOf? (mergeVariables merged name value) "env" = objectOf? merged "env" := by
        rw [mergeVariables.eq_def]
        split
        · rw [if_neg (Ne.symm other.1), objectOf?_insert, if_neg (Ne.symm other.1)]
        · rw [objectOf?_insert, if_neg (Ne.symm other.1)]
      rw [List.foldl_cons, ih other.2, kept]

/-- Variables are added to those that are there, and anything else takes their place. -/
theorem objectOf?_mergeVariables {value : Value} (proper : value.IsProper) (merged : Fields) :
  objectOf? (mergeVariables merged "env" value) "env"
    = value.object?.map fun members =>
      Assoc.insertAll members ((objectOf? merged "env").getD [])
  := by
  cases proper with
  | @object members distinct each =>
      rw [mergeVariables.eq_def]
      split
      · next before update found same =>
          cases same
          rw [if_pos rfl, objectOf?_insert, if_pos rfl, objectOf?, found]
          rfl
      · next other =>
          have bare : objectOf? merged "env" = none := by
            rw [objectOf?, Option.bind_eq_none_iff]
            intro before found
            cases before with
            | object before => cases other before members found rfl
            | _ => rfl
          rw [objectOf?_insert, if_pos rfl, bare, Option.getD_none, Value.object?, Option.map_some,
            Assoc.insertAll_nil distinct]
  | _ =>
      rw [mergeVariables.eq_def]
      split
      · next same => cases same
      · rw [objectOf?_insert, if_pos rfl]
        rfl

/-- What a link declares is added to the variables of those that it runs through, unless it has
something else in place of variables. -/
theorem mergedVariables_cons {element : Element} (proper : element.IsProper) (rest : List Element) :
  mergedVariables (element :: rest) = Assoc.insertAll element.declared (mergedVariables rest)
    ∨ element.declared = [] ∧ mergedVariables (element :: rest) = []
  := by
  rw [mergedVariables, mergedVariables, environmentConfig_cons, Element.declared]
  rw [Element.IsProper] at proper
  generalize element.envConfig.getD [] = config at proper ⊢
  cases proper with
  | object distinct each =>
      rcases found : Assoc.get? "env" config with _ | value
      · left
        have missing : "env" ∉ Assoc.keys config := by
          rw [← Assoc.isSome_get?, found]
          apply Bool.false_ne_true
        have bare : objectOf? config "env" = none := by
          rw [objectOf?, found, Option.bind_none]
        rw [objectOf?_foldl_of_not_mem missing, bare]
        rfl
      · have declared : objectOf? config "env" = value.object? := by
          rw [objectOf?, found, Option.bind_some]
        have member := Assoc.mem_of_get? found
        rw [declared]
        obtain ⟨before, after, rfl⟩ := List.append_of_mem member
        rw [List.map_append, List.map_cons, List.nodup_middle, List.nodup_cons, List.mem_append,
          not_or] at distinct
        rw [List.foldl_append, List.foldl_cons, objectOf?_foldl_of_not_mem distinct.1.2,
          objectOf?_mergeVariables (each _ member), objectOf?_foldl_of_not_mem distinct.1.1]
        rcases value.object? with _ | members
        · right
          use rfl
          rfl
        · left
          rfl

theorem Element.IsProper.nodup {element : Element} (proper : element.IsProper) :
  (Assoc.keys element.declared).Nodup
  := by
  rw [Element.declared, objectOf?]
  rw [Element.IsProper] at proper
  cases proper with
  | object distinct each =>
      rcases found : Assoc.get? "env" (element.envConfig.getD []) with _ | value
      · apply List.nodup_nil
      · have proper := each _ (Assoc.mem_of_get? found)
        cases proper with
        | object distinct each => apply distinct
        | _ => apply List.nodup_nil

section

variable {chain : List Element} (proper : ∀ element ∈ chain, element.IsProper)

include proper

theorem nodup_keys_mergedVariables :
  (Assoc.keys (mergedVariables chain)).Nodup
  := by
  induction chain with
  | nil => apply List.nodup_nil
  | cons element chain ih =>
      rw [List.forall_mem_cons] at proper
      rcases mergedVariables_cons proper.1 chain with added | ⟨_, empty⟩
      · rw [added]
        apply Assoc.nodup_keys_insertAll _ (ih proper.2)
      · rw [empty]
        apply List.nodup_nil

/-- The variables of a chain are declared by its links. -/
theorem exists_declared {name : String} (among : name ∈ Assoc.keys (mergedVariables chain)) :
  ∃ element ∈ chain, name ∈ Assoc.keys element.declared
  := by
  induction chain with
  | nil => cases among
  | cons element chain ih =>
      rw [List.forall_mem_cons] at proper
      rcases mergedVariables_cons proper.1 chain with added | ⟨_, empty⟩
      · rw [added, Assoc.keys] at among
        obtain ⟨⟨name, value⟩, member, rfl⟩ := List.mem_map.mp among
        rcases Assoc.mem_insertAll member with own | lower
        · use element, List.mem_cons_self
          apply List.mem_map_of_mem own
        · obtain ⟨element', listed, among⟩ := ih proper.2 (List.mem_map_of_mem lower)
          use element', List.mem_cons_of_mem _ listed
      · rw [empty] at among
        cases among

end

/-! ### Variables of the tool -/

section

variable {tool : Element} {rest : List Element}
  (proper : ∀ element ∈ tool :: rest, element.IsProper)

include proper

/-- What a tool declares is added to the variables of the links that it runs through. -/
theorem mergedVariables_eq (nonempty : tool.declared ≠ []) :
  mergedVariables (tool :: rest) = Assoc.insertAll tool.declared (mergedVariables rest)
  := by
  rw [List.forall_mem_cons] at proper
  apply (mergedVariables_cons proper.1 rest).resolve_right
  rintro ⟨empty, _⟩
  apply nonempty empty

/-- The tool takes precedence. -/
theorem get?_mergedVariables {name : String} (own : name ∈ Assoc.keys tool.declared) :
  Assoc.get? name (mergedVariables (tool :: rest)) = Assoc.get? name tool.declared
  := by
  have nonempty : tool.declared ≠ [] := by
    rintro empty
    rw [empty] at own
    cases own
  rw [mergedVariables_eq proper nonempty, Assoc.get?_insertAll,
    Assoc.last?_eq_get? (proper tool List.mem_cons_self).nodup]
  apply Option.or_of_isSome
  apply (Assoc.isSome_get? _ _).mpr own

end

/-- The environment of a chain, with the variables of one link in the order of that link. -/
def ownEnvironment (layers : EnvironmentLayers) (host : Host) (chain : List Element)
    (element : Element) : Environment :=
  (layers.beneath host (environmentConfig chain)).assignAll element.declared

section

variable (layers : EnvironmentLayers) (host : Host) (chain : List Element) (element : Element)

theorem values_ownEnvironment :
  values (ownEnvironment layers host chain element)
    = afterMembers (layers.beneath host (environmentConfig chain)).values element.declared
  := values_assignAll _ _

theorem values_environment :
  values (environment layers host chain)
    = afterMembers (layers.beneath host (environmentConfig chain)).values (mergedVariables chain)
  := EnvironmentLayers.values_resolve_eq_afterMembers _ _ _

end

/-- Every text of a tool refers to variables that the tool declares before it, and to such that no
link declares. -/
def RefersBack (tool : Element) (rest : List Element) : Prop :=
  ∀ name x, Refers tool.declared name x →
    ComesBefore (Assoc.keys tool.declared) x name
      ∨ ∀ element ∈ tool :: rest, x ∉ Assoc.keys element.declared

/-- The variables of a tool keep their order if no other link declares one of them. -/
theorem inOrder_of_alone {tool : Element} {rest : List Element}
    (proper : ∀ element ∈ tool :: rest, element.IsProper) (back : RefersBack tool rest)
    (alone : ∀ element ∈ rest, ∀ name ∈ Assoc.keys element.declared,
      name ∉ Assoc.keys tool.declared) :
  InOrder tool.declared (Assoc.keys (mergedVariables (tool :: rest)))
  := by
  intro name x refers set
  obtain ⟨text, set⟩ := Option.isSome_iff_exists.mp set
  have own := mem_keys_of_textOf? set
  have nonempty : tool.declared ≠ [] := by
    rintro empty
    rw [empty] at own
    cases own
  have new : (Assoc.keys tool.declared).filter (· ∉ Assoc.keys (mergedVariables rest))
      = Assoc.keys tool.declared := by
    rw [List.filter_eq_self]
    intro name own
    rw [decide_eq_true_iff]
    intro among
    obtain ⟨element, listed, declared⟩ :=
      exists_declared (List.forall_mem_cons.mp proper).2 among
    apply alone element listed name declared own
  rw [mergedVariables_eq proper nonempty,
    Assoc.keys_insertAll (proper tool List.mem_cons_self).nodup, new]
  apply ComesBefore.append
  apply (back name x refers).resolve_right
  intro outside
  apply outside tool List.mem_cons_self own

/-- The variables of a chain are those of the links that the tool runs through, and after them those
that are new with the tool.  If the texts of the tool refer back, its variables have the values that
they come to one after another in the order of the tool, as long as each of them that is set comes
before those that refer to it among the variables of the chain as well.  That is so if no other link
declares a variable of the tool.  If it is not so of some variable, then on every machine that
leaves it to the base there is a value of the base for which the one that refers to it has another
value. -/
theorem environment_eq_own_of_inOrder {tool : Element} {rest : List Element}
    (proper : ∀ element ∈ tool :: rest, element.IsProper) (back : RefersBack tool rest) :
  (tool.declared ≠ [] → Assoc.keys (mergedVariables (tool :: rest))
      = Assoc.keys (mergedVariables rest)
        ++ (Assoc.keys tool.declared).filter (· ∉ Assoc.keys (mergedVariables rest)))
    ∧ (InOrder tool.declared (Assoc.keys (mergedVariables (tool :: rest))) →
      ∀ layers host, ∀ name ∈ Assoc.keys tool.declared,
        Assoc.get? name (environment layers host (tool :: rest))
          = Assoc.get? name (ownEnvironment layers host (tool :: rest) tool))
    ∧ ((∀ element ∈ rest, ∀ name ∈ Assoc.keys element.declared, name ∉ Assoc.keys tool.declared) →
      InOrder tool.declared (Assoc.keys (mergedVariables (tool :: rest))))
    ∧ ∀ name x, Refers tool.declared name x → (textOf? tool.declared x).isSome = true →
      ¬ ComesBefore (Assoc.keys (mergedVariables (tool :: rest))) x name →
      ∀ (layers : EnvironmentLayers) (host : Host),
        layers.LeavesOut host (environmentConfig (tool :: rest)) x →
        ∃ value,
          Assoc.get? name (environment (layers.onBase [(x, value)]) host (tool :: rest))
            ≠ Assoc.get? name (ownEnvironment (layers.onBase [(x, value)]) host (tool :: rest) tool)
  := by
  have distinct := (proper tool List.mem_cons_self).nodup
  have distinct' := nodup_keys_mergedVariables proper
  have inside : ∀ name ∈ Assoc.keys tool.declared,
      Assoc.get? name (mergedVariables (tool :: rest)) = Assoc.get? name tool.declared := by
    intro name own
    apply get?_mergedVariables proper own
  have back' : ∀ name x, Refers tool.declared name x →
      ComesBefore (Assoc.keys tool.declared) x name
        ∨ x ∉ Assoc.keys (mergedVariables (tool :: rest)) := by
    intro name x refers
    apply (back name x refers).imp_right
    intro outside among
    obtain ⟨element, listed, declared⟩ := exists_declared proper among
    apply outside element listed declared
  refine ⟨?_, ?_, ?_, ?_⟩
  · intro nonempty
    rw [mergedVariables_eq proper nonempty, Assoc.keys_insertAll distinct]
  · intro ordered layers host name among
    change values _ name = values _ name
    rw [values_environment, values_ownEnvironment]
    apply afterMembers_eq_of_inOrder distinct distinct' inside back' ordered _ name among
    intro x _
    rfl
  · apply inOrder_of_alone proper back
  · intro name x refers set late layers host out
    obtain ⟨value, other⟩ := exists_afterMembers_ne distinct distinct' inside back' refers set late
      (values ((layers.onBase []).beneath host (environmentConfig (tool :: rest))))
    use value
    rw [← out.values_beneath, ← values_environment, ← values_ownEnvironment] at other
    apply other

/-- A link that declares some texts as variables. -/
def linkOf (texts : List (String × String)) : Element :=
  { (default : Element) with
    envConfig := some [("env", .object (texts.map fun (name, text) => (name, .string text)))] }

theorem isProper_linkOf {texts : List (String × String)} (distinct : (texts.map Prod.fst).Nodup) :
  (linkOf texts).IsProper
  := by
  apply Value.IsProper.object
  · apply List.nodup_singleton
  · intro member among
    obtain rfl := List.mem_singleton.mp among
    apply Value.IsProper.object
    · rw [List.map_map]
      apply distinct
    · intro member among
      obtain ⟨⟨name, text⟩, _, rfl⟩ := List.mem_map.mp among
      apply Value.IsProper.string

/-- A tool with a directory, and one in it. -/
def nestedTool : Element :=
  linkOf [("DIR", "/opt"), ("BIN", "$\x7bDIR\x7d/bin")]

/-- A runtime that has its directories in the order of the tool. -/
def nestedRuntime : Element :=
  linkOf [("DIR", "/usr"), ("BIN", "/usr/bin")]

/-- A runtime that has them in the other order. -/
def turnedRuntime : Element :=
  linkOf [("BIN", "/usr/bin"), ("DIR", "/usr")]

/-- A machine without files, on which nothing is set. -/
def bareHost : Host :=
  ⟨.directory [], 0, []⟩

/-- Layers without a project. -/
def bareLayers : EnvironmentLayers :=
  ⟨⟨none, "/user", none⟩, none⟩

example :
  environment bareLayers bareHost [nestedTool, turnedRuntime] = [("BIN", "/bin"), ("DIR", "/opt")]
  := by
  decide +kernel

theorem refers_nestedTool {name x : String} (refers : Refers nestedTool.declared name x) :
  name = "BIN" ∧ x = "DIR"
  := by
  obtain ⟨text, set, among⟩ := refers
  have outer : references "/opt".toList = [] := by
    decide +kernel
  have inner : references "$\x7bDIR\x7d/bin".toList = ["DIR"] := by
    decide +kernel
  obtain ⟨value, member, scalar⟩ := (textOf?_eq_some_iff (by decide)).mp set
  rcases List.mem_cons.mp member with same | member
  · cases same
    cases scalar
    rw [outer] at among
    cases among
  · cases List.mem_singleton.mp member
    cases scalar
    rw [inner] at among
    use rfl, List.mem_singleton.mp among

theorem refersBack_nestedTool (rest : List Element) :
  RefersBack nestedTool rest
  := by
  intro name x refers
  obtain ⟨rfl, rfl⟩ := refers_nestedTool refers
  left
  use ["DIR"], [], by decide, List.mem_singleton_self _

/-- Over the first runtime, the directories of the tool are those that they come to in its order, on
every machine.  Over the second one, with some outer directory in the base, the inner one is not. -/
theorem environment_eq_own_of_inOrder_nestedTool :
  (InOrder nestedTool.declared (Assoc.keys (mergedVariables [nestedTool, nestedRuntime]))
      ∧ ∀ layers host, ∀ name ∈ Assoc.keys nestedTool.declared,
        Assoc.get? name (environment layers host [nestedTool, nestedRuntime])
          = Assoc.get? name (ownEnvironment layers host [nestedTool, nestedRuntime] nestedTool))
    ∧ ∃ value,
      Assoc.get? "BIN"
          (environment (bareLayers.onBase [("DIR", value)]) bareHost [nestedTool, turnedRuntime])
        ≠ Assoc.get? "BIN" (ownEnvironment (bareLayers.onBase [("DIR", value)]) bareHost
          [nestedTool, turnedRuntime] nestedTool)
  := by
  have proper : ∀ element ∈ [nestedTool, nestedRuntime], element.IsProper := by
    rw [List.forall_mem_cons, List.forall_mem_singleton]
    use isProper_linkOf (by decide), isProper_linkOf (by decide)
  have proper' : ∀ element ∈ [nestedTool, turnedRuntime], element.IsProper := by
    rw [List.forall_mem_cons, List.forall_mem_singleton]
    use isProper_linkOf (by decide), isProper_linkOf (by decide)
  obtain ⟨_, holds, _, _⟩ := environment_eq_own_of_inOrder proper (refersBack_nestedTool _)
  obtain ⟨_, _, _, fails⟩ := environment_eq_own_of_inOrder proper' (refersBack_nestedTool _)
  constructor
  · have ordered :
        InOrder nestedTool.declared (Assoc.keys (mergedVariables [nestedTool, nestedRuntime])) := by
      intro name x refers _
      obtain ⟨rfl, rfl⟩ := refers_nestedTool refers
      use ["DIR"], [], by decide, List.mem_singleton_self _
    use ordered, holds ordered
  · apply fails "BIN" "DIR"
    · use "$\x7bDIR\x7d/bin", by decide
      decide +kernel
    · decide
    · have keys : Assoc.keys (mergedVariables [nestedTool, turnedRuntime])
          = [] ++ "BIN" :: ["DIR"] := by
        decide
      rw [keys, comesBefore_iff (by decide)]
      apply List.not_mem_nil
    · constructor
      · decide +kernel
      · decide +kernel

end Toolshed.Chain
