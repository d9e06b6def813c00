import Toolshed.Proofs.Chain.Session
import Mathlib.Data.List.Chain
import Mathlib.Data.List.Nodup

/-!
# How the links of a chain hang together

A chain starts with the tool that was asked for, every link is run by the next one, no tool comes
twice, and nothing runs the last link.  So it is with every chain that a session gives, whether it
was built or kept, and whatever happened to the files.
-/

namespace Toolshed.Chain

/-- From a tool, some links lead to another tool: each of them resolves as required and is run by
the next one, and none comes twice. -/
inductive Leads (resolves : String → Resolved → Prop) (item : String) :
    List Element → String → Prop where
  | start : Leads resolves item [] item
  | link {chain : List Element} {tool next : String} {found : Resolved}
      (before : Leads resolves item chain tool) (unseen : tool ∉ chain.map Element.item)
      (resolved : resolves tool found) (runs : found.manifest.executor = some next) :
      Leads resolves item (chain ++ [found.element tool]) next

/-- The links of a chain hang together. -/
structure WellLinked (item : String) (chain : List Element) : Prop where
  first : chain.head?.map Element.item = some item
  linked : chain.IsChain fun child parent => child.executor = some parent.item
  distinct : (chain.map Element.item).Nodup
  last : ∀ link ∈ chain.getLast?, link.executor = none
  bounded : chain.length ≤ 10

theorem map_item_append (chain : List Element) (found : Resolved) (tool : String) :
  (chain ++ [found.element tool]).map Element.item = chain.map Element.item ++ [tool]
  := by
  apply List.map_append

namespace Leads

variable {resolves : String → Resolved → Prop} {item tool : String} {chain : List Element}

theorem distinct (leads : Leads resolves item chain tool) :
  (chain.map Element.item).Nodup
  := by
  induction leads with
  | start => apply List.nodup_nil
  | link before unseen resolved runs ih =>
      rw [map_item_append, ← List.concat_eq_append]
      apply ih.concat unseen

/-- A tool that is new is different from those before it. -/
theorem distinct_append (leads : Leads resolves item chain tool)
    (unseen : tool ∉ chain.map Element.item) :
  (chain.map Element.item ++ [tool]).Nodup
  := by
  rw [← List.concat_eq_append]
  apply leads.distinct.concat unseen

theorem first (leads : Leads resolves item chain tool) :
  (chain.map Element.item ++ [tool]).head? = some item
  := by
  induction leads with
  | start => rfl
  | link before unseen resolved runs ih =>
      rw [map_item_append, List.head?_append, ih]
      rfl

/-- An element of the tool that is led to may be the next link. -/
theorem linked (leads : Leads resolves item chain tool) {next : Element}
    (named : next.item = tool) :
  (chain ++ [next]).IsChain fun child parent => child.executor = some parent.item
  := by
  induction leads generalizing next with
  | start => apply List.isChain_singleton
  | link before unseen resolved runs ih =>
      apply List.isChain_append.mpr
      refine ⟨ih rfl, List.isChain_singleton _, ?_⟩
      intro child last parent head
      rw [List.getLast?_concat] at last
      rw [← Option.some.inj last, ← Option.some.inj head, named]
      apply runs

/-- The links are what their tools resolve to. -/
theorem resolved (leads : Leads resolves item chain tool) :
  ∀ link ∈ chain, ∃ found, resolves link.item found ∧ link = found.element link.item
  := by
  induction leads with
  | start => apply List.forall_mem_nil
  | @link chain tool next found before unseen resolved runs ih =>
      rw [List.forall_mem_append, List.forall_mem_singleton]
      use ih, found, resolved
      rfl

end Leads

/-- A chain is complete: its links lead to one that has no executor. -/
inductive Completes (resolves : String → Resolved → Prop) (item : String) :
    List Element → Prop where
  | intro {chain : List Element} {tool : String} {found : Resolved}
      (leads : Leads resolves item chain tool) (unseen : tool ∉ chain.map Element.item)
      (room : chain.length < maxLength) (resolved : resolves tool found)
      (terminal : found.manifest.executor = none) :
      Completes resolves item (chain ++ [found.element tool])

namespace Completes

variable {resolves : String → Resolved → Prop} {item : String} {chain : List Element}

/-- The links of a complete chain hang together. -/
theorem wellLinked (completes : Completes resolves item chain) :
  WellLinked item chain
  := by
  obtain ⟨leads, unseen, room, resolved, terminal⟩ := completes
  constructor
  · rw [← List.head?_map, map_item_append]
    apply leads.first
  · apply leads.linked rfl
  · rw [map_item_append]
    apply leads.distinct_append unseen
  · intro link last
    rw [List.getLast?_concat] at last
    rw [← Option.some.inj last]
    apply terminal
  · rw [List.length_append]
    apply room

theorem resolved (completes : Completes resolves item chain) :
  ∀ link ∈ chain, ∃ found, resolves link.item found ∧ link = found.element link.item
  := by
  obtain @⟨chain, tool, found, leads, unseen, room, resolved, terminal⟩ := completes
  rw [List.forall_mem_append, List.forall_mem_singleton]
  use leads.resolved, found, resolved
  rfl

end Completes

namespace Builder

/-! ### Walks of a builder -/

/-- A walk that goes on with links that lead to a tool gives a complete chain, whatever the builder
has read. -/
theorem completes_of_follow {resolves : String → Resolved → Prop} {settings : Settings}
    {host : Host} (resolved : ∀ (b : Builder) tool found, b.settings = settings →
      (b.resolve host tool).1 = some found → resolves tool found)
    {root item tool : String} {room : Nat} {walked final : Walked} {b : Builder}
    (same : b.settings = settings) (leads : Leads resolves item walked.chain tool)
    (length : walked.chain.length + room = maxLength)
    (h : (follow host root room walked tool b).1 = .ok (some final)) :
  Completes resolves item final.chain
  := by
  induction room generalizing walked tool b with
  | zero =>
      rw [follow] at h
      split at h
      · cases h
      · cases h
  | succ room ih =>
      rw [follow] at h
      split at h
      · cases h
      · next unseen =>
          have reads := resolve_onlyReads host tool b
          have found := resolved b tool
          rcases hr : b.resolve host tool with ⟨_ | next, b'⟩
          · rw [hr] at h
            cases h
          · rw [hr] at h reads found
            have resolves := found next same rfl
            dsimp only at h
            rcases he : next.manifest.executor with _ | runs
            · rw [he] at h
              rw [← Option.some.inj (Except.ok.inj h), add_chain]
              apply Completes.intro leads unseen _ resolves he
              omega
            · rw [he] at h
              apply ih (reads.settings.trans same) _ _ h
              · rw [add_chain]
                apply Leads.link leads unseen resolves he
              · rw [add_chain, List.length_append, List.length_singleton]
                omega

/-- The chains of all walks hang together. -/
theorem walks_wellLinked (settings : Settings) (files : FileTree) :
  Walks WellLinked settings files
  := by
  intro host item b walked _ same walk
  have resolved := fun (b : Builder) tool found (_ : b.settings = settings)
    (_ : (b.resolve host tool).1 = some found) => trivial
  apply (completes_of_follow resolved same Leads.start (Nat.zero_add maxLength) walk).wellLinked

/-- All chains that are kept hang together. -/
def KeepsLinked (b : Builder) : Prop :=
  ∀ e ∈ b.chains.entries, WellLinked e.key e.value.chain

theorem build_wellLinked {b : Builder} (linked : KeepsLinked b) (host : Host) (item : String)
    (anew : Bool) :
  KeepsLinked (b.build host item anew).2
    ∧ ∀ chain, (b.build host item anew).1 = .ok chain → chain ≠ [] → WellLinked item chain
  := build_keeps (walks_wellLinked b.settings host.files) linked item anew

end Builder

/-! ### Chains of a session -/

namespace Session

open Builder (KeepsLinked)

/-- After every run, the chains that are kept hang together. -/
theorem run_keepsLinked (settings : Settings) (host : Host) (events : List Event) :
  KeepsLinked (run settings host events).builder
  := by
  have walks : ∀ files ∈ trees host events, Builder.Walks WellLinked settings files := by
    intro files _
    apply Builder.walks_wellLinked
  apply run_keeps settings host events walks

end Session

end Toolshed.Chain
