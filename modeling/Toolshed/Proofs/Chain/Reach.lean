import Toolshed.Proofs.Chain.Links

/-!
# What comes of following executors

From a tool one reaches its executor, the executor of that, and so on.  A chain that is not served
is refused as circular exactly when this comes back to a tool soon, and as too deep exactly when it
goes on too long; it is empty exactly when a tool does not resolve, and else it is the whole walk.
-/

namespace Toolshed.Chain

/-! ### Reaching tools -/

section Reach

variable (resolve : String → Option Resolved) (item : String)

/-- The executor of what a tool resolves to. -/
def next? (tool : String) : Option String :=
  (resolve tool).bind fun found => found.manifest.executor

/-- The tool that is reached from another one after some executors. -/
def reach : Nat → Option String
  | 0 => some item
  | n + 1 => (reach n).bind (next? resolve)

/-- The link that a tool makes that is reached after some executors. -/
def elementAt? (n : Nat) : Option Element :=
  (reach resolve item n).bind fun tool => (resolve tool).map fun found => found.element tool

/-- A tool that was reached is reached again. -/
def Revisits : Prop :=
  ∃ k ≤ 10, ∃ j < k, ∃ tool, reach resolve item j = some tool
    ∧ reach resolve item k = some tool

/-- More tools are reached than a chain may have, all of them different. -/
def RunsOn : Prop :=
  (∃ tool, reach resolve item 10 = some tool) ∧
    ∀ k ≤ 10, ∀ j < k, reach resolve item j ≠ reach resolve item k

/-- A tool that would belong to the chain is reached and does not resolve. -/
def Breaks : Prop :=
  ∃ k < 10, ∃ tool, reach resolve item k = some tool ∧ resolve tool = none

/-- A result is what following executors comes to. -/
structure ComesTo (result : Except Failure (List Element)) : Prop where
  circular : (∃ tool tools, result = .error (.circularDependency tool tools))
    ↔ Revisits resolve item
  tooDeep : (∃ tool limit, result = .error (.chainTooDeep tool limit)) ↔ RunsOn resolve item
  empty : result = .ok [] ↔ Breaks resolve item
  full : ¬ Revisits resolve item → ¬ RunsOn resolve item → ¬ Breaks resolve item →
    result = .ok ((List.range 10).filterMap (elementAt? resolve item))

end Reach

/-! ### How walks end -/

open Builder (Walked)

/-- How a walk ends that has made a chain and has come to a tool. -/
inductive Ends (resolve : String → Option Resolved) (root : String) (chain : List Element)
    (tool : String) : Except Failure (Option Walked) → Prop where
  | circular (seen : tool ∈ chain.map Element.item) :
      Ends resolve root chain tool
        (.error (.circularDependency tool (chain.map Element.item ++ [tool])))
  | tooDeep (unseen : tool ∉ chain.map Element.item) (long : chain.length = maxLength) :
      Ends resolve root chain tool (.error (.chainTooDeep root maxLength))
  | broken (unseen : tool ∉ chain.map Element.item) (room : chain.length < maxLength)
      (unresolved : resolve tool = none) :
      Ends resolve root chain tool (.ok none)
  | terminal {found : Resolved} {walked : Walked} (unseen : tool ∉ chain.map Element.item)
      (room : chain.length < maxLength) (resolved : resolve tool = some found)
      (last : found.manifest.executor = none)
      (whole : walked.chain = chain ++ [found.element tool]) :
      Ends resolve root chain tool (.ok (some walked))

variable {resolve : String → Option Resolved} {item tool : String} {chain : List Element}

theorem walkBy_ends {root : String} {room : Nat} {walked : Walked}
    (leads : Leads (fun tool found => resolve tool = some found) item walked.chain tool)
    (length : walked.chain.length + room = maxLength) :
  ∃ chain last, Leads (fun tool found => resolve tool = some found) item chain last
    ∧ chain.length ≤ maxLength ∧ Ends resolve root chain last (walkBy resolve root room walked tool)
  := by
  induction room generalizing walked tool with
  | zero =>
      use walked.chain, tool, leads, length.le
      rw [walkBy]
      split
      · next seen => apply Ends.circular seen
      · next unseen => apply Ends.tooDeep unseen length
  | succ room ih =>
      rw [walkBy]
      split
      · next seen =>
          use walked.chain, tool, leads, by omega
          apply Ends.circular seen
      · next unseen =>
          dsimp only
          split
          · next unresolved =>
              use walked.chain, tool, leads, by omega
              apply Ends.broken unseen (by omega) unresolved
          · next found resolved =>
              split
              · next last =>
                  use walked.chain, tool, leads, by omega
                  apply Ends.terminal unseen (by omega) resolved last
                  apply add_chain
              · next runs =>
                  apply ih
                  · rw [add_chain]
                    apply Leads.link leads unseen resolved runs
                  · rw [add_chain, List.length_append, List.length_singleton]
                    omega

/-! ### What was reached -/

section Leads

variable (leads : Leads (fun tool found => resolve tool = some found) item chain tool)

include leads

/-- The tools of a chain and the one it leads to are those that are reached. -/
theorem reach_of_leads {k : Nat} (h : k ≤ chain.length) :
  reach resolve item k = (chain.map Element.item ++ [tool])[k]?
  := by
  induction leads generalizing k with
  | start =>
      obtain rfl : k = 0 := Nat.le_zero.mp h
      rfl
  | @link chain tool next found before unseen resolved runs ih =>
      rw [map_item_append]
      rw [List.length_append, List.length_singleton] at h
      rcases Nat.lt_or_eq_of_le h with h | rfl
      · rw [List.getElem?_append_left, ih]
        · omega
        · rw [List.length_append, List.length_map]
          apply h
      · have reached := ih le_rfl
        rw [List.getElem?_append_right] at reached ⊢
        · rw [reach, reached]
          simp [next?, resolved, runs]
        · simp
        · simp

theorem reach_length_of_leads :
  reach resolve item chain.length = some tool
  := by
  rw [reach_of_leads leads le_rfl, List.getElem?_append_right]
  · simp
  · simp

/-- The links of a chain are those of the tools that are reached. -/
theorem elementAt?_of_leads {k : Nat} (h : k < chain.length) :
  elementAt? resolve item k = chain[k]?
  := by
  induction leads generalizing k with
  | start => cases h
  | @link chain tool next found before unseen resolved runs ih =>
      rw [List.length_append, List.length_singleton] at h
      rcases Nat.lt_or_eq_of_le (Nat.le_of_lt_succ h) with h | rfl
      · rw [List.getElem?_append_left h, ih h]
      · rw [elementAt?, reach_length_of_leads before]
        simp [resolved]

/-- The tools of a chain resolve. -/
theorem resolve_ne_none_of_leads {k : Nat} (h : k < chain.length) {reached : String}
    (hk : reach resolve item k = some reached) :
  resolve reached ≠ none
  := by
  intro unresolved
  have := elementAt?_of_leads leads h
  rw [elementAt?, hk, Option.bind_some, unresolved, List.getElem?_eq_getElem h] at this
  cases this

/-- Nothing is reached beyond a tool without an executor. -/
theorem reach_of_next?_eq_none (ends : next? resolve tool = none) (k : Nat) :
  reach resolve item k = (chain.map Element.item ++ [tool])[k]?
  := by
  rcases Nat.lt_or_ge chain.length k with h | h
  · rw [List.getElem?_eq_none]
    · induction k, h using Nat.le_induction with
      | base => rw [reach, reach_length_of_leads leads, Option.bind_some, ends]
      | succ k _ ih => rw [reach, ih, Option.bind_none]
    · rw [List.length_append, List.length_map]
      apply h
  · apply reach_of_leads leads h

/-- A walk that comes back reaches nothing but what is in its chain. -/
theorem reach_of_seen (seen : tool ∈ chain.map Element.item) (k : Nat) :
  ∃ j < chain.length, reach resolve item k = reach resolve item j
  := by
  obtain ⟨back, hb, same⟩ := List.mem_iff_getElem.mp seen
  rw [List.length_map] at hb
  have again : reach resolve item chain.length = reach resolve item back := by
    rw [reach_length_of_leads leads, reach_of_leads leads hb.le, List.getElem?_append_left]
    · rw [← same, List.getElem?_eq_getElem]
    · rw [List.length_map]
      apply hb
  induction k with
  | zero => use 0, Nat.zero_lt_of_lt hb
  | succ k ih =>
      obtain ⟨j, hj, same⟩ := ih
      have step : reach resolve item (k + 1) = reach resolve item (j + 1) := by
        rw [reach, same, reach]
      rcases Nat.lt_or_eq_of_le (Nat.succ_le_of_lt hj) with h | h
      · use j + 1, h
      · use back, hb
        rw [step, ← again, ← h]

end Leads

/-! ### Where walks end -/

/-- The first elements of a list that is short enough are all of it. -/
theorem filterMap_range_getElem? {α : Type} (xs : List α) {n : Nat} (h : xs.length ≤ n) :
  ((List.range n).filterMap fun k => xs[k]?) = xs
  := by
  induction xs generalizing n with
  | nil => simp
  | cons x xs ih =>
      obtain ⟨m, rfl⟩ := Nat.exists_eq_add_of_le' (Nat.zero_lt_of_lt h)
      rw [List.range_succ_eq_map, List.filterMap_cons_some (List.getElem?_cons_zero ..),
        List.filterMap_map]
      congr 1
      apply ih (Nat.le_of_succ_le_succ h)

section Ends

variable (leads : Leads (fun tool found => resolve tool = some found) item chain tool)

include leads

/-- Nothing is revisited where the walk stops at a new tool. -/
theorem not_revisits_of_stops (unseen : tool ∉ chain.map Element.item)
    (stops : next? resolve tool = none) :
  ¬ Revisits resolve item
  := by
  rintro ⟨k, _, j, hj, _, first, again⟩
  rw [reach_of_next?_eq_none leads stops] at first again
  obtain ⟨inside, _⟩ := List.getElem?_eq_some_iff.mp again
  apply List.nodup_iff_getElem?_ne_getElem?.mp (leads.distinct_append unseen) j k hj inside
  rw [first, again]

/-- A walk that stops in time does not run on. -/
theorem not_runsOn_of_stops (room : chain.length < maxLength) (stops : next? resolve tool = none) :
  ¬ RunsOn resolve item
  := by
  rintro ⟨⟨_, reached⟩, _⟩
  rw [reach_of_next?_eq_none leads stops, List.getElem?_eq_none] at reached
  · cases reached
  · rw [List.length_append, List.length_map]
    apply room

theorem comesTo_of_seen (bounded : chain.length ≤ maxLength)
    (seen : tool ∈ chain.map Element.item) (tools : List String) :
  ComesTo resolve item (.error (.circularDependency tool tools))
  := by
  obtain ⟨j, hj, same⟩ := reach_of_seen leads seen chain.length
  rw [reach_length_of_leads leads] at same
  constructor
  · simp only [Except.error.injEq, Failure.circularDependency.injEq, exists_and_left,
      exists_eq', and_true, true_iff]
    use chain.length, bounded, j, hj, tool, same.symm, reach_length_of_leads leads
  · simp only [Except.error.injEq, reduceCtorEq, exists_false, false_iff]
    rintro ⟨_, different⟩
    apply different chain.length bounded j hj
    rw [← same, reach_length_of_leads leads]
  · simp only [reduceCtorEq, false_iff]
    rintro ⟨k, _, reached, hr, unresolved⟩
    obtain ⟨j, hj, same⟩ := reach_of_seen leads seen k
    rw [hr] at same
    apply resolve_ne_none_of_leads leads hj same.symm unresolved
  · intro unvisited
    exfalso
    apply unvisited
    use chain.length, bounded, j, hj, tool, same.symm, reach_length_of_leads leads

theorem comesTo_of_long (long : chain.length = 10) (unseen : tool ∉ chain.map Element.item)
    (root : String) :
  ComesTo resolve item (.error (.chainTooDeep root maxLength))
  := by
  have different : ∀ k ≤ 10, ∀ j < k, reach resolve item j ≠ reach resolve item k := by
    intro k hk j hj
    rw [reach_of_leads leads (by omega), reach_of_leads leads (by omega)]
    apply List.nodup_iff_getElem?_ne_getElem?.mp (leads.distinct_append unseen) j k hj
    rw [List.length_append, List.length_map, long]
    apply Nat.lt_succ_of_le hk
  have runsOn : RunsOn resolve item := by
    refine ⟨⟨tool, ?_⟩, different⟩
    rw [← long]
    apply reach_length_of_leads leads
  constructor
  · simp only [Except.error.injEq, reduceCtorEq, exists_false, false_iff]
    rintro ⟨k, hk, j, hj, _, first, again⟩
    apply different k hk j hj
    rw [first, again]
  · simp [runsOn]
  · simp only [reduceCtorEq, false_iff]
    rintro ⟨k, hk, reached, hr, unresolved⟩
    rw [← long] at hk
    apply resolve_ne_none_of_leads leads hk hr unresolved
  · intro _ short
    contradiction

theorem comesTo_of_unresolved (room : chain.length < maxLength)
    (unseen : tool ∉ chain.map Element.item) (unresolved : resolve tool = none) :
  ComesTo resolve item (.ok [])
  := by
  have stops : next? resolve tool = none := by rw [next?, unresolved, Option.bind_none]
  have breaks : Breaks resolve item :=
    ⟨chain.length, room, tool, reach_length_of_leads leads, unresolved⟩
  constructor
  · simp only [reduceCtorEq, exists_false, false_iff]
    apply not_revisits_of_stops leads unseen stops
  · simp only [reduceCtorEq, exists_false, false_iff]
    apply not_runsOn_of_stops leads room stops
  · simp [breaks]
  · intro _ _ whole
    contradiction

/-- The links of a whole walk are those of the tools that are reached. -/
theorem elementAt?_of_terminal {found : Resolved} (resolved : resolve tool = some found)
    (stops : next? resolve tool = none) (k : Nat) :
  elementAt? resolve item k = (chain ++ [found.element tool])[k]?
  := by
  rcases Nat.lt_trichotomy k chain.length with h | rfl | h
  · rw [elementAt?_of_leads leads h, List.getElem?_append_left h]
  · rw [elementAt?, reach_length_of_leads leads, Option.bind_some, resolved,
      List.getElem?_concat_length]
    rfl
  · rw [elementAt?, reach_of_next?_eq_none leads stops, List.getElem?_eq_none,
      List.getElem?_eq_none, Option.bind_none]
    · rw [List.length_append]
      apply h
    · rw [List.length_append, List.length_map]
      apply h

theorem comesTo_of_terminal (room : chain.length < maxLength)
    (unseen : tool ∉ chain.map Element.item) {found : Resolved}
    (resolved : resolve tool = some found) (last : found.manifest.executor = none) :
  ComesTo resolve item (.ok (chain ++ [found.element tool]))
  := by
  have stops : next? resolve tool = none := by rw [next?, resolved, Option.bind_some, last]
  constructor
  · simp only [reduceCtorEq, exists_false, false_iff]
    apply not_revisits_of_stops leads unseen stops
  · simp only [reduceCtorEq, exists_false, false_iff]
    apply not_runsOn_of_stops leads room stops
  · simp only [Except.ok.injEq, List.append_eq_nil_iff, List.cons_ne_self, and_false,
      false_iff]
    rintro ⟨k, _, reached, hr, unresolved⟩
    have nothing : elementAt? resolve item k = none := by
      rw [elementAt?, hr, Option.bind_some, unresolved, Option.map_none]
    rw [elementAt?_of_terminal leads resolved stops, List.getElem?_eq_none_iff,
      List.length_append] at nothing
    rw [reach_of_next?_eq_none leads stops, List.getElem?_eq_none] at hr
    · cases hr
    · rw [List.length_append, List.length_map]
      apply nothing
  · intro _ _ _
    rw [funext (elementAt?_of_terminal leads resolved stops), filterMap_range_getElem?]
    rw [List.length_append]
    apply room

end Ends

/-- The end of a walk tells what following executors comes to. -/
theorem comesTo_of_ends {root : String} {result : Except Failure (Option Walked)}
    (leads : Leads (fun tool found => resolve tool = some found) item chain tool)
    (bounded : chain.length ≤ maxLength) (ends : Ends resolve root chain tool result) :
  ComesTo resolve item (result.map fun walked => (walked.map Walked.chain).getD [])
  := by
  cases ends with
  | circular seen => apply comesTo_of_seen leads bounded seen
  | tooDeep unseen long => apply comesTo_of_long leads long unseen
  | broken unseen room unresolved => apply comesTo_of_unresolved leads room unseen unresolved
  | @terminal found walked unseen room resolved last whole =>
      have given := comesTo_of_terminal leads room unseen resolved last
      rw [← whole] at given
      apply given

/-- The chain that files give is what following executors in them comes to. -/
theorem comesTo_of_chainOf (settings : Settings) (files : FileTree) (item : String) :
  ComesTo (resolved? settings files) item (chainOf settings files item)
  := by
  have empty : Leads (fun tool found => resolved? settings files tool = some found) item
      (⟨[], []⟩ : Walked).chain item := Leads.start
  obtain ⟨chain, last, leads, bounded, ends⟩ := walkBy_ends empty (Nat.zero_add maxLength)
  apply comesTo_of_ends leads bounded ends

/-! ### Sessions -/

namespace Session

/-- After every run in which fingerprints tell, a chain that is not served is what following
executors comes to in the files that there are; and after every run, the links of a chain hang
together, whether it is served or not. -/
theorem build_comesTo (settings : Settings) (host : Host) (events : List Event) (item : String)
    (anew : Bool) :
  let s := run settings host events
  let result := (s.builder.build s.host item anew).1
  (FingerprintsTell (trees host events) → s.builder.isServed s.host item anew = false →
      ComesTo (resolved? settings s.host.files) item result) ∧
    ∀ chain, result = .ok chain → chain ≠ [] → WellLinked item chain
  := by
  intro s result
  constructor
  · intro tell fresh
    have sound := sound_run settings host events tell
    have given := Builder.build_of_not_isServed tell sound.here sound.faithful fresh
    rw [run_settings] at given
    rw [show result = _ from given]
    apply comesTo_of_chainOf
  · apply (Builder.build_wellLinked (run_keepsLinked settings host events) s.host item anew).2

/-- The tool runs through its executor, and that through the tool. -/
def circularTools : Host :=
  smallHost [("a.json", textFile "\x7b\"executor_id\":\"b\"\x7d" 1),
    ("b.json", textFile "\x7b\"executor_id\":\"a\"\x7d" 2)]

/-- A chain hangs together, and after its executor has come to need it, it is refused. -/
theorem build_comesTo_of_cycle :
  (∃ chain, ((start smallSettings twoTools).builder.build twoTools "a" false).1 = .ok chain
      ∧ chain.length = 2 ∧ WellLinked "a" chain) ∧
  (let s := run smallSettings twoTools [.build "a" false, .change circularTools.files];
    ∃ tool tools,
      (s.builder.build s.host "a" false).1 = .error (.circularDependency tool tools))
  := by
  constructor
  · have long : ((start smallSettings twoTools).builder.build twoTools "a" false).1.toOption.map
        List.length = some 2 := by
      decide +kernel
    rcases given : ((start smallSettings twoTools).builder.build twoTools "a" false).1 with
      failure | chain
    · rw [given] at long
      cases long
    · rw [given] at long
      use chain, rfl, Option.some.inj long
      apply (build_comesTo smallSettings twoTools [] "a" false).2 chain given
      rintro rfl
      cases long
  · have tell : FingerprintsTell
        (trees twoTools [.build "a" false, .change circularTools.files]) := by
      apply FingerprintsTell.of_nodes
      decide +kernel
    have comes := (build_comesTo smallSettings twoTools
      [.build "a" false, .change circularTools.files] "a" false).1 tell (by decide +kernel)
    apply comes.circular.mpr
    use 2, by decide, 0, by decide, "a", rfl
    decide +kernel

/-- The tool, with another executor, in a file of the same time and size. -/
def staleTools : Host :=
  smallHost [("a.json", textFile "\x7b\"executor_id\":\"c\"\x7d" 1),
    ("b.json", textFile "\x7b\x7d" 1)]

/-- Where fingerprints do not tell, a chain that is built anew may be one that the files do not
give: here its tool needs an executor that there is not. -/
theorem not_comesTo_of_stale_manifest :
  let s := run smallSettings twoTools [.build "a" false, .change staleTools.files]
  s.builder.isServed s.host "a" true = false ∧
    ¬ ComesTo (resolved? smallSettings s.host.files) "a" (s.builder.build s.host "a" true).1
  := by
  intro s
  constructor
  · rfl
  · intro comes
    have breaks : Breaks (resolved? smallSettings s.host.files) "a" := by
      use 1, by decide, "c"
      constructor
      · decide +kernel
      · rw [← Option.isNone_iff_eq_none]
        decide +kernel
    have long : (s.builder.build s.host "a" true).1.toOption.map List.length = some 2 := by
      decide +kernel
    rw [comes.empty.mpr breaks] at long
    cases long

end Session

end Toolshed.Chain
