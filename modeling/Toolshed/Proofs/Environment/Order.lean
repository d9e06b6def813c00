import Toolshed.Proofs.Environment.Layering

/-!
# The order of assignments

A text depends on the variables that it refers to and on no others.  So variables come to the same
values in any order in which each of them follows those it refers to.  One that comes before a
variable it refers to is made of what that was before.
-/

namespace Toolshed

open Json

namespace Environment

/-! ### What a text refers to -/

/-- The variables that a text refers to. -/
def references : List Char → List String
  | [] => []
  | c :: cs =>
    match _h : reference? (c :: cs) with
    | some (r, rest) => String.ofList r.name :: references rest
    | none => references cs
termination_by cs => cs.length
decreasing_by
  · exact reference?_length _h
  · simp

section

variable {c : Char} {cs rest : List Char} {r : Reference}

theorem references_of_reference (found : reference? (c :: cs) = some (r, rest)) :
  references (c :: cs) = String.ofList r.name :: references rest
  := by
  rw [references]
  split
  · next found' =>
      cases found.symm.trans found'
      rfl
  · next found' => cases found.symm.trans found'

theorem references_of_character (found : reference? (c :: cs) = none) :
  references (c :: cs) = references cs
  := by
  rw [references]
  split
  · next found' => cases found.symm.trans found'
  · rfl

end

/-- A text becomes the same if the variables that it refers to have the same values. -/
theorem expandBy_congr {values values' : String → Option String} {cs : List Char}
    (same : ∀ name ∈ references cs, values name = values' name) :
  expandBy values cs = expandBy values' cs
  := by
  induction cs using references.induct with
  | case1 => rw [expandBy, expandBy]
  | case2 c cs r rest found ih =>
      rw [references_of_reference found, List.forall_mem_cons] at same
      rw [expandBy_of_reference values found, expandBy_of_reference values' found, ih same.2,
        Reference.valueBy, Reference.valueBy, same.1]
  | case3 c cs found ih =>
      rw [references_of_character found] at same
      rw [expandBy_of_character values found, expandBy_of_character values' found, ih same]

/-- A text takes up the values of all variables that it refers to. -/
theorem length_le_expandBy {values : String → Option String} {cs : List Char} {name value : String}
    (refers : name ∈ references cs) (set : values name = some value) :
  value.toList.length ≤ (expandBy values cs).length
  := by
  induction cs using references.induct with
  | case1 =>
      rw [references] at refers
      cases refers
  | case2 c cs r rest found ih =>
      rw [references_of_reference found] at refers
      rw [expandBy_of_reference values found, List.length_append]
      rcases List.mem_cons.mp refers with rfl | later
      · rw [Reference.valueBy, set]
        apply Nat.le_add_right
      · apply Nat.le_trans (ih later)
        apply Nat.le_add_left
  | case3 c cs found ih =>
      rw [references_of_character found] at refers
      rw [expandBy_of_character values found, List.length_cons]
      apply Nat.le_succ_of_le (ih refers)

/-! ### Members that are assigned -/

/-- The values after the scalars among some members are assigned, one after another. -/
def afterMembers (values : String → Option String) (members : Fields) : String → Option String :=
  valuesAfter values (expandedAssignments members)

/-- The text of a variable refers to a variable. -/
def Refers (members : Fields) (name x : String) : Prop :=
  ∃ text, textOf? members name = some text ∧ x ∈ references text.toList

section

variable {base : String → Option String} {members before after : Fields} {name x : String}
  {value : Value} {text : String}

theorem textOf?_eq_some_iff (distinct : (Assoc.keys members).Nodup) :
  textOf? members name = some text
    ↔ ∃ value, (name, value) ∈ members ∧ value.scalar? = some text
  := by
  simp only [textOf?, Option.bind_eq_some_iff, Assoc.get?_eq_some_iff distinct]

theorem textOf?_eq_none_iff (distinct : (Assoc.keys members).Nodup) :
  textOf? members name = none ↔ ∀ value, (name, value) ∈ members → value.scalar? = none
  := by
  simp only [textOf?, Option.bind_eq_none_iff, Assoc.get?_eq_some_iff distinct]

theorem mem_keys_of_textOf? (set : textOf? members name = some text) :
  name ∈ Assoc.keys members
  := by
  obtain ⟨value, found, _⟩ := Option.bind_eq_some_iff.mp set
  rw [← Assoc.isSome_get?, found]
  rfl

theorem exists_member {a : Assignment} (among : a ∈ expandedAssignments members) :
  ∃ value, (a.name, value) ∈ members ∧ value.scalar? ≠ none
  := by
  obtain ⟨⟨name, value⟩, member, assigned⟩ := List.mem_filterMap.mp among
  obtain ⟨text, scalar, rfl⟩ := Option.map_eq_some_iff.mp assigned
  use value, member
  rw [scalar]
  apply Option.some_ne_none

theorem expandedAssignments_append (before after : Fields) :
  expandedAssignments (before ++ after) = expandedAssignments before ++ expandedAssignments after
  := List.filterMap_append

/-- A variable of no scalar keeps its value. -/
theorem afterMembers_of_unset (unset : ∀ value, (x, value) ∈ members → value.scalar? = none) :
  afterMembers base members x = base x
  := by
  apply valuesAfter_of_not_assigned
  rintro a among rfl
  obtain ⟨value, member, scalar⟩ := exists_member among
  apply scalar (unset value member)

/-- A variable keeps its value from its member on. -/
theorem afterMembers_append (distinct : (Assoc.keys (before ++ after)).Nodup)
    (earlier : x ∈ Assoc.keys before) :
  afterMembers base (before ++ after) x = afterMembers base before x
  := by
  rw [afterMembers, expandedAssignments_append, valuesAfter_append]
  apply afterMembers_of_unset
  intro value member
  rw [Assoc.keys, List.map_append] at distinct
  cases List.disjoint_of_nodup_append distinct earlier (List.mem_map_of_mem member)

/-- A variable is what the values before it make of its text. -/
theorem afterMembers_of_split (distinct : (Assoc.keys (before ++ (name, value) :: after)).Nodup)
    (scalar : value.scalar? = some text) :
  afterMembers base (before ++ (name, value) :: after) name
    = some (String.ofList (expandBy (afterMembers base before) text.toList))
  := by
  have split : expandedAssignments (before ++ (name, value) :: after)
      = expandedAssignments before ++ .expanded name text :: expandedAssignments after := by
    rw [expandedAssignments_append, expandedAssignments_cons, scalar]
    rfl
  rw [afterMembers, split]
  apply valuesAfter_of_last base _ (Assignment.expanded name text)
  intro a among same
  obtain ⟨value', member, _⟩ := exists_member among
  rw [Assoc.keys, List.map_append, List.map_cons] at distinct
  apply (List.nodup_cons.mp distinct.of_append_right).1
  change name ∈ _
  rw [← show a.name = name from same]
  apply List.mem_map_of_mem member

end

/-! ### Assignments in another order -/

/-- A name comes before another one. -/
def ComesBefore (names : List String) (x y : String) : Prop :=
  ∃ before after, names = before ++ y :: after ∧ x ∈ before

theorem ComesBefore.mem {names : List String} {x y : String} (h : ComesBefore names x y) :
  x ∈ names
  := by
  obtain ⟨before, after, rfl, among⟩ := h
  apply List.mem_append_left _ among

theorem ComesBefore.append {names : List String} {x y : String} (h : ComesBefore names x y)
    (lower : List String) :
  ComesBefore (lower ++ names) x y
  := by
  obtain ⟨before, after, rfl, among⟩ := h
  use lower ++ before, after, (List.append_assoc _ _ _).symm
  apply List.mem_append_right _ among

theorem comesBefore_iff {before after : List String} {x y : String}
    (distinct : (before ++ y :: after).Nodup) :
  ComesBefore (before ++ y :: after) x y ↔ x ∈ before
  := by
  constructor
  · rintro ⟨before', after', same, among⟩
    have new : y ∉ before ∧ y ∉ after := by
      rw [List.nodup_middle, List.nodup_cons, List.mem_append, not_or] at distinct
      apply distinct.1
    obtain ⟨rfl, _⟩ := (List.append_cons_inj_of_notMem new.1 new.2).mp same
    apply among
  · intro among
    use before, after, rfl

theorem comesBefore_keys_iff {before after : Fields} {x name : String} {value : Value}
    (distinct : (Assoc.keys (before ++ (name, value) :: after)).Nodup) :
  ComesBefore (Assoc.keys (before ++ (name, value) :: after)) x name ↔ x ∈ Assoc.keys before
  := by
  rw [Assoc.keys, List.map_append, List.map_cons] at distinct ⊢
  apply comesBefore_iff distinct

/-- Every variable that is set comes before those whose texts refer to it. -/
def InOrder (members : Fields) (names : List String) : Prop :=
  ∀ name x, Refers members name x → (textOf? members x).isSome = true → ComesBefore names x name

section

variable {own all : Fields} (distinct : (Assoc.keys own).Nodup)
  (distinct' : (Assoc.keys all).Nodup)
  (inside : ∀ name ∈ Assoc.keys own, Assoc.get? name all = Assoc.get? name own)
  (back : ∀ name x, Refers own name x → ComesBefore (Assoc.keys own) x name ∨ x ∉ Assoc.keys all)

include inside

theorem textOf?_of_inside {name : String} (among : name ∈ Assoc.keys own) :
  textOf? all name = textOf? own name
  := by
  rw [textOf?, textOf?, inside name among]

theorem mem_keys_of_inside {name : String} (among : name ∈ Assoc.keys own) :
  name ∈ Assoc.keys all
  := by
  rw [← Assoc.isSome_get?, inside name among, Assoc.isSome_get?]
  apply among

include back distinct distinct'

/-- What a text refers to is the same where the text is among its own members and where it is among
others, if the members before it come to the same. -/
theorem afterMembers_before_eq {base base' : String → Option String}
    (ordered : InOrder own (Assoc.keys all))
    (agree : ∀ x, textOf? own x = none → base x = base' x)
    {before after before' after' : Fields} {name : String} {value : Value}
    (split : own = before ++ (name, value) :: after)
    (split' : all = before' ++ (name, value) :: after')
    (same : ∀ x ∈ Assoc.keys before, afterMembers base all x = afterMembers base' own x)
    {x : String} (refers : Refers own name x) :
  afterMembers base before' x = afterMembers base' before x
  := by
  rcases set : textOf? own x with _ | text
  · have unset : textOf? all x = none := by
      rcases back name x refers with earlier | outside
      · rw [textOf?_of_inside inside earlier.mem, set]
      · rw [Option.eq_none_iff_forall_ne_some]
        intro text set
        apply outside (mem_keys_of_textOf? set)
    rw [afterMembers_of_unset, afterMembers_of_unset, agree x set]
    · intro value member
      apply (textOf?_eq_none_iff distinct).mp set
      rw [split]
      apply List.mem_append_left _ member
    · intro value member
      apply (textOf?_eq_none_iff distinct').mp unset
      rw [split']
      apply List.mem_append_left _ member
  · have among := mem_keys_of_inside inside (mem_keys_of_textOf? set)
    have earlier := (back name x refers).resolve_right (not_not_intro among)
    have earlier' := ordered name x refers (by rw [set, Option.isSome_some])
    subst split split'
    rw [comesBefore_keys_iff distinct] at earlier
    rw [comesBefore_keys_iff distinct'] at earlier'
    rw [← afterMembers_append distinct' earlier', same x earlier,
      afterMembers_append distinct earlier]

/-- Members come to the same values among others, as long as they are in order there, and by other
values before, as long as these differ in nothing but the variables that are set. -/
theorem afterMembers_eq_of_inOrder {base base' : String → Option String}
    (ordered : InOrder own (Assoc.keys all))
    (agree : ∀ x, textOf? own x = none → base x = base' x) :
  ∀ name ∈ Assoc.keys own, afterMembers base all name = afterMembers base' own name
  := by
  -- along the members in their own order, since what a text refers to comes before it there
  suffices along : ∀ before after, own = before ++ after →
      ∀ name ∈ Assoc.keys before, afterMembers base all name = afterMembers base' own name from
    along own [] (List.append_nil own).symm
  intro before
  induction before using List.reverseRecOn with
  | nil =>
      intro after _ name among
      cases among
  | append_singleton before member ih =>
      obtain ⟨name', value⟩ := member
      intro after split name among
      rw [List.append_assoc, List.singleton_append] at split
      rw [Assoc.keys, List.map_append, List.mem_append] at among
      rcases among with earlier | here
      · apply ih _ split name earlier
      · obtain rfl := List.mem_singleton.mp here
        have found : Assoc.get? name own = some value := by
          rw [Assoc.get?_eq_some_iff distinct, split]
          apply List.mem_append_right _ List.mem_cons_self
        have among : name ∈ Assoc.keys own := by
          rw [← Assoc.isSome_get?, found, Option.isSome_some]
        rcases scalar : value.scalar? with _ | text
        · have unset : textOf? own name = none := by
            rw [textOf?, found, Option.bind_some, scalar]
          have unset' : textOf? all name = none := by
            rw [textOf?_of_inside inside among, unset]
          rw [afterMembers_of_unset ((textOf?_eq_none_iff distinct).mp unset),
            afterMembers_of_unset ((textOf?_eq_none_iff distinct').mp unset'), agree name unset]
        · have set : textOf? own name = some text := by
            rw [textOf?, found, Option.bind_some, scalar]
          have member : (name, value) ∈ all := by
            rw [← Assoc.get?_eq_some_iff distinct', inside name among, found]
          obtain ⟨before', after', split'⟩ := List.append_of_mem member
          have values : ∀ x ∈ references text.toList,
              afterMembers base before' x = afterMembers base' before x := by
            intro x refers
            apply afterMembers_before_eq distinct distinct' inside back ordered agree split split'
              (ih _ split) ⟨text, set, refers⟩
          rw [split'] at distinct'
          rw [split] at distinct
          rw [split', split, afterMembers_of_split distinct' scalar,
            afterMembers_of_split distinct scalar, expandBy_congr values]

/-- A variable that is assigned among others before one that its text refers to takes up what that
one was before.  That may be anything, so it may come to something else than among its own. -/
theorem exists_afterMembers_ne {name x : String} (refers : Refers own name x)
    (set : (textOf? own x).isSome = true) (late : ¬ ComesBefore (Assoc.keys all) x name)
    (base : String → Option String) :
  ∃ value, afterMembers (Function.update base x (some value)) all name
    ≠ afterMembers (Function.update base x (some value)) own name
  := by
  obtain ⟨text, named, among⟩ := refers
  obtain ⟨value, member, scalar⟩ := (textOf?_eq_some_iff distinct).mp named
  have named' : name ∈ Assoc.keys own := List.mem_map_of_mem member
  have member' : (name, value) ∈ all := by
    rw [← Assoc.get?_eq_some_iff distinct', inside name named', Assoc.get?_eq_some_iff distinct]
    apply member
  -- among its own members, the variable does not depend on what the other one was before
  have fixed (before : String) :
      afterMembers (Function.update base x (some before)) own name
        = afterMembers base own name := by
    apply afterMembers_eq_of_inOrder distinct distinct _ _ _ _ name named'
    · intro _ _
      rfl
    · intro name x refers
      apply (back name x refers).imp_right
      intro outside among
      apply outside (mem_keys_of_inside inside among)
    · intro name x refers set
      apply (back name x refers).resolve_right
      apply not_not_intro
      obtain ⟨text, set⟩ := Option.isSome_iff_exists.mp set
      apply mem_keys_of_inside inside (mem_keys_of_textOf? set)
    · intro y unset
      apply Function.update_of_ne
      rintro rfl
      rw [unset] at set
      cases set
  obtain ⟨before, after, split⟩ := List.append_of_mem member
  have own' : afterMembers base own name
      = some (String.ofList (expandBy (afterMembers base before) text.toList)) := by
    subst split
    apply afterMembers_of_split distinct scalar
  obtain ⟨before', after', rfl⟩ := List.append_of_mem member'
  rw [comesBefore_keys_iff distinct'] at late
  -- so a longer value of the other one does not fit in
  let long := String.ofList ('.' :: expandBy (afterMembers base before) text.toList)
  use long
  have taken : afterMembers (Function.update base x (some long)) before' x = some long := by
    rw [afterMembers_of_unset, Function.update_self]
    intro value among
    cases late (List.mem_map_of_mem among)
  have length := length_le_expandBy among taken
  rw [fixed, own', afterMembers_of_split distinct' scalar, ne_eq, Option.some.injEq,
    String.ofList_inj]
  intro same
  rw [same, String.toList_ofList, List.length_cons] at length
  apply Nat.not_succ_le_self _ length

end

/-- Assignments of values make no difference to the other variables. -/
theorem valuesAfter_update {assignments : List Assignment} {x : String}
    (plain : ∀ a ∈ assignments, ∃ name value, a = .plain name value)
    (other : ∀ a ∈ assignments, a.name ≠ x) (base : String → Option String)
    (value : Option String) :
  valuesAfter (Function.update base x value) assignments
    = Function.update (valuesAfter base assignments) x value
  := by
  induction assignments generalizing base with
  | nil => rfl
  | cons a assignments ih =>
      rw [List.forall_mem_cons] at plain other
      obtain ⟨⟨name, text, rfl⟩, plain⟩ := plain
      have swap : (Assignment.plain name text).update (Function.update base x value)
          = Function.update ((Assignment.plain name text).update base) x value := by
        apply Function.update_comm
        apply Ne.symm other.1
      rw [valuesAfter, List.foldl_cons, swap, ← valuesAfter, ih plain other.2]
      rfl

end Environment

namespace EnvironmentLayers

open Environment

variable (r : EnvironmentLayers) (host : Host) (config : Fields)

/-! ### Beneath the chain -/

/-- The environment to which the variables of a configuration are added. -/
def beneath : Environment :=
  r.withInterpreter host config
    (Assoc.insertAll (r.fileVariables host) (r.base.getD host.environment))

/-- The same layers on another base. -/
def onBase (base : Environment) : EnvironmentLayers :=
  { r with base := some base }

/-- A variable that is set neither by a file nor for the interpreter. -/
def LeavesOut (name : String) : Prop :=
  (∀ path ∈ r.filePaths, name ∉ Assoc.keys (fileLayer host path))
    ∧ ∀ a ∈ r.interpreterAssignment? host config, a.name ≠ name

/-- The assignments of files and for the interpreter. -/
def assignmentsBeneath : List Assignment :=
  (r.filePaths.map fun path => plainAssignments (fileLayer host path)).flatten
    ++ (r.interpreterAssignment? host config).toList

theorem values_beneath :
  values (r.beneath host config)
    = valuesAfter (r.base.getD host.environment).values (r.assignmentsBeneath host config)
  := by
  rw [beneath, values_withInterpreter, values_fileVariables, ← map_filePaths, ← valuesAfter_append]
  rfl

theorem values_resolve_eq_afterMembers :
  values (r.resolve host config [] true)
    = afterMembers (r.beneath host config).values ((objectOf? config "env").getD [])
  := by
  have whole : r.resolve host config [] true
      = (r.beneath host config).assignAll ((objectOf? config "env").getD []) := rfl
  rw [whole, values_assignAll, afterMembers]

theorem mem_assignmentsBeneath {a : Assignment} (among : a ∈ r.assignmentsBeneath host config) :
  (∃ path ∈ r.filePaths, ∃ entry ∈ fileLayer host path, a = .plain entry.1 entry.2)
    ∨ a ∈ r.interpreterAssignment? host config
  := by
  rcases List.mem_append.mp among with file | interpreter
  · obtain ⟨row, listed, among⟩ := List.mem_flatten.mp file
    obtain ⟨path, read, rfl⟩ := List.mem_map.mp listed
    obtain ⟨entry, member, rfl⟩ := List.mem_map.mp among
    left
    use path, read, entry, member
  · right
    apply Option.mem_toList.mp interpreter

/-- The assignments beneath are of values. -/
theorem exists_plain {a : Assignment} (among : a ∈ r.assignmentsBeneath host config) :
  ∃ name value, a = .plain name value
  := by
  rcases r.mem_assignmentsBeneath host config among with ⟨_, _, entry, _, rfl⟩ | interpreter
  · use entry.1, entry.2
  · obtain ⟨fields, _, assigned⟩ := Option.bind_eq_some_iff.mp interpreter
    obtain ⟨path, _, rfl⟩ := Option.map_eq_some_iff.mp assigned
    exact ⟨_, _, rfl⟩

variable {r host config} {name : String}

theorem LeavesOut.name_ne (out : r.LeavesOut host config name) {a : Assignment}
    (among : a ∈ r.assignmentsBeneath host config) :
  a.name ≠ name
  := by
  rcases r.mem_assignmentsBeneath host config among with ⟨path, read, entry, member, rfl⟩ | set
  · rintro rfl
    apply out.1 path read (List.mem_map_of_mem member)
  · apply out.2 a set

/-- A variable that is left out has the value of the base, and the base has no part in the others
through it. -/
theorem LeavesOut.values_beneath (out : r.LeavesOut host config name) (value : String) :
  values ((r.onBase [(name, value)]).beneath host config)
    = Function.update (values ((r.onBase []).beneath host config)) name (some value)
  := by
  have base : values [(name, value)] = Function.update (values []) name (some value) :=
    values_insert name value []
  rw [EnvironmentLayers.values_beneath, EnvironmentLayers.values_beneath]
  change valuesAfter (values [(name, value)]) (r.assignmentsBeneath host config)
    = Function.update (valuesAfter (values []) (r.assignmentsBeneath host config)) name (some value)
  rw [base]
  apply valuesAfter_update
  · intro a among
    apply exists_plain r host config among
  · intro a among
    apply out.name_ne among

end EnvironmentLayers

end Toolshed
