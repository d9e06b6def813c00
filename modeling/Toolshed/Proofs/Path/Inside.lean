import Toolshed.Proofs.Path
import Mathlib.Tactic.Use

/-!
# Paths inside of directories

A path goes down with every name and up with two points.  What is left of an absolute path is the
way from the root that it goes.  It lies inside of a directory if its way goes on from there.
-/

namespace Toolshed.Path

/-! ### Joined paths -/

theorem join_of_isAbsolute (path : String) {other : String} (h : isAbsolute other = true) :
  join path other = other
  := by
  simp [join, h]

/-- A path below another one has the parts of both. -/
theorem filter_parts_join (path : String) {other : String} (h : isAbsolute other = false) :
  (parts (join path other)).filter (· ≠ "")
    = (parts path).filter (· ≠ "") ++ (parts other).filter (· ≠ "")
  := by
  rw [join, h, Bool.false_or]
  split
  · next empty =>
      rw [String.isEmpty_iff] at empty
      rw [empty]
      rfl
  · split
    · next slash =>
        obtain ⟨front, rfl⟩ := exists_append_slash slash
        rw [parts_append_slash_append, parts_append_slash, List.filter_append, List.filter_append]
        simp
    · rw [parts_append_slash_append, List.filter_append]

theorem names_join (path : String) {other : String} (h : isAbsolute other = false) :
  names (join path other) = names path ++ names other
  := by
  rw [names_eq_filter, filter_parts_join path h, List.filter_append, ← names_eq_filter,
    ← names_eq_filter]

/-! ### Proper names -/

/-- A name that an entry of a directory may have. -/
structure IsName (name : String) : Prop where
  nonempty : name ≠ ""
  not_point : name ≠ "."
  not_parent : name ≠ ".."
  no_slash : '/' ∉ name.toList

instance (name : String) : Decidable (IsName name) :=
  decidable_of_iff (name ≠ "" ∧ name ≠ "." ∧ name ≠ ".." ∧ '/' ∉ name.toList)
    ⟨fun ⟨h, h', h'', h'''⟩ => ⟨h, h', h'', h'''⟩, fun ⟨h, h', h'', h'''⟩ => ⟨h, h', h'', h'''⟩⟩

theorem IsName.parts {name : String} (h : IsName name) :
  parts name = [name]
  := by
  have apart := parts_intercalate (List.cons_ne_nil name [])
    (List.forall_mem_singleton.mpr h.no_slash)
  rw [String.intercalate_singleton] at apart
  apply apart

theorem IsName.isAbsolute {name : String} (h : IsName name) :
  isAbsolute name = false
  := by
  rw [Path.isAbsolute, decide_eq_false_iff_not]
  intro slash
  apply h.no_slash (List.mem_of_head? slash)

/-- Below a path, names add themselves to its parts. -/
theorem filter_parts_joinAll (path : String) {below : List String}
    (proper : ∀ name ∈ below, IsName name) :
  (parts (joinAll path below)).filter (· ≠ "") = (parts path).filter (· ≠ "") ++ below
  := by
  induction below generalizing path with
  | nil => simp [joinAll]
  | cons name below ih =>
      obtain ⟨first, rest⟩ := List.forall_mem_cons.mp proper
      rw [joinAll, List.foldl_cons, ← joinAll, ih _ rest, filter_parts_join path first.isAbsolute,
        first.parts]
      simp [first.nonempty]

theorem names_joinAll (path : String) {below : List String}
    (proper : ∀ name ∈ below, IsName name) :
  names (joinAll path below) = names path ++ below
  := by
  rw [names_eq_filter, filter_parts_joinAll path proper, List.filter_append, ← names_eq_filter]
  congr 1
  rw [List.filter_eq_self]
  intro name among
  rw [decide_eq_true_iff]
  apply (proper name among).not_point

/-! ### Ways -/

/-- A way with one more step, down to a name or up with two points. -/
def descend (way : List String) (name : String) : List String :=
  if name = ".." then way.dropLast else way ++ [name]

/-- The way from the root that an absolute path goes. -/
def way (path : String) : List String :=
  (names path).foldl descend []

theorem foldl_descend (way : List String) {below : List String} (down : ".." ∉ below) :
  below.foldl descend way = way ++ below
  := by
  induction below generalizing way with
  | nil => simp
  | cons name below ih =>
      rw [List.mem_cons, not_or] at down
      rw [List.foldl_cons, ih _ down.2, descend, if_neg (Ne.symm down.1), List.append_assoc]
      rfl

theorem way_join (path : String) {other : String} (h : isAbsolute other = false) :
  way (join path other) = (names other).foldl descend (way path)
  := by
  rw [way, names_join path h, List.foldl_append, ← way]

theorem way_joinAll (path : String) {below : List String}
    (proper : ∀ name ∈ below, IsName name) :
  way (joinAll path below) = way path ++ below
  := by
  rw [way, names_joinAll path proper, List.foldl_append, ← way, foldl_descend]
  intro among
  apply (proper _ among).not_parent rfl

/-- A path lies below a directory. -/
def Inside (directory path : String) : Prop :=
  way directory <+: way path ∧ way path ≠ way directory

instance (directory path : String) : Decidable (Inside directory path) :=
  inferInstanceAs (Decidable (_ ∧ _))

/-- A path lies inside of a directory if the way to its last name goes through that directory. -/
theorem inside_iff_of_way_eq {directory path name : String} {outer : List String}
    (h : way path = outer ++ [name]) :
  Inside directory path ↔ way directory <+: outer
  := by
  rw [Inside, h, List.prefix_concat_iff]
  constructor
  · rintro ⟨same | within, other⟩
    · cases other same.symm
    · apply within
  · intro within
    use Or.inr within
    intro same
    have := within.length_le
    rw [← same, List.length_append, List.length_singleton] at this
    omega

example :
  Inside "/project/.ai" "/project/./.ai/tools/tidy.py"
    ∧ ¬ Inside "/project/.ai" "/project/.ai/tools/../../tidy.py"
  := by
  decide +kernel

/-! ### Longer last names -/

theorem intercalate_append_last (before : List String) (last ending : String) :
  "/".intercalate (before ++ [last]) ++ ending = "/".intercalate (before ++ [last ++ ending])
  := by
  by_cases empty : before = []
  · rw [empty, List.nil_append, List.nil_append, String.intercalate_singleton,
      String.intercalate_singleton]
  · rw [String.intercalate_append_of_ne_nil empty (List.cons_ne_nil _ _),
      String.intercalate_append_of_ne_nil empty (List.cons_ne_nil _ _),
      String.intercalate_singleton, String.intercalate_singleton, String.append_assoc]

/-- What is written behind a path belongs to its last part. -/
theorem parts_append {path ending last : String} {before : List String}
    (split : parts path = before ++ [last]) (apart : '/' ∉ ending.toList) :
  parts (path ++ ending) = before ++ [last ++ ending]
  := by
  have old : ∀ part ∈ before ++ [last], '/' ∉ part.toList := by
    intro part among
    rw [← split] at among
    apply slash_not_mem_of_mem_parts among
  rw [← intercalate_parts path, split, intercalate_append_last]
  apply parts_intercalate (List.concat_ne_nil _ _)
  intro part among
  rcases List.mem_append.mp among with among | among
  · apply old part (List.mem_append_left _ among)
  · rw [List.mem_singleton.mp among, String.toList_append, List.mem_append, not_or]
    use old last (List.mem_append_right _ (List.mem_singleton_self _)), apart

/-- The names of a path up to its last slash. -/
def outerNames (path : String) : List String :=
  (parts path).dropLast.filter fun name => name ≠ "" && name ≠ "."

/-- A path with something behind it that makes a name of its last part, whatever that is, has one
name behind its outer ones. -/
theorem names_append (path : String) {ending : String} (apart : '/' ∉ ending.toList)
    (long : 2 < ending.length) :
  ∃ name, names (path ++ ending) = outerNames path ++ [name] ∧ name ≠ ".."
  := by
  obtain ⟨before, last, split⟩ :=
    (List.eq_nil_or_concat' (parts path)).resolve_left (parts_ne_nil path)
  have differs {name : String} (short : name.length ≤ 2) : last ++ ending ≠ name := by
    intro same
    rw [← same, String.length_append] at short
    omega
  use last ++ ending
  rw [names, parts_append split apart, List.filter_append, outerNames, split,
    List.dropLast_concat]
  constructor
  · congr 1
    rw [List.filter_eq_self]
    intro name among
    rw [List.mem_singleton.mp among, Bool.and_eq_true, decide_eq_true_iff, decide_eq_true_iff]
    constructor
    · apply differs (by decide)
    · apply differs (by decide)
  · apply differs (by decide)

theorem isAbsolute_append (path : String) {ending : String} (apart : '/' ∉ ending.toList) :
  isAbsolute (path ++ ending) = isAbsolute path
  := by
  rw [isAbsolute, isAbsolute, String.toList_append]
  rcases path.toList with _ | ⟨c, rest⟩
  · rw [List.nil_append, decide_eq_decide]
    constructor
    · intro slash
      cases apart (List.mem_of_head? slash)
    · intro slash
      cases slash
  · rfl

end Toolshed.Path
