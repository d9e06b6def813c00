import Toolshed.Path
import Toolshed.Proofs.Text.Runs
import Mathlib.Data.String.Basic

/-!
# Paths and their parts

A path is its parts with slashes between them.  The absolute path of a path is cut from it: it has
the same names, and leaves out points and slashes that count for nothing.
-/

namespace Toolshed.Path

/-! ### Parts -/

theorem parts_eq_splitOn (path : String) :
  parts path = (path.toList.splitOn '/').map String.ofList
  := by
  rw [parts, Text.cutAll_eq_splitOn]

theorem parts_append_slash_append (path other : String) :
  parts (path ++ "/" ++ other) = parts path ++ parts other
  := by
  rw [parts_eq_splitOn, String.append_assoc, String.toList_append, String.toList_append]
  change (List.splitOn '/' (path.toList ++ '/' :: other.toList)).map String.ofList = _
  rw [List.splitOn_append_cons_self, List.map_append, parts_eq_splitOn, parts_eq_splitOn]

theorem parts_slash_append (path : String) :
  parts ("/" ++ path) = "" :: parts path
  := by
  apply parts_append_slash_append ""

theorem parts_append_slash (path : String) :
  parts (path ++ "/") = parts path ++ [""]
  := by
  have h := parts_append_slash_append path ""
  rw [String.append_empty] at h
  apply h

theorem intercalate_parts (path : String) :
  "/".intercalate (parts path) = path
  := by
  apply String.toList_injective
  rw [String.toList_intercalate, parts_eq_splitOn, List.map_map]
  have same : String.toList ∘ String.ofList = id := by
    funext cs
    apply String.toList_ofList
  rw [same, List.map_id]
  apply List.intercalate_splitOn

theorem parts_ne_nil (path : String) :
  parts path ≠ []
  := by
  rw [parts_eq_splitOn]
  intro empty
  apply List.splitOn_ne_nil _ _ (List.map_eq_nil_iff.mp empty)

theorem slash_not_mem_of_mem_parts {path part : String} (h : part ∈ parts path) :
  '/' ∉ part.toList
  := by
  obtain ⟨cs, among, rfl⟩ := List.mem_map.mp h
  rw [String.toList_ofList]
  apply Text.not_mem_of_mem_cutAll among

theorem parts_intercalate {names : List String} (nonempty : names ≠ [])
    (apart : ∀ name ∈ names, '/' ∉ name.toList) :
  parts ("/".intercalate names) = names
  := by
  rw [parts_eq_splitOn, String.toList_intercalate]
  change (List.splitOn '/' (['/'].intercalate (names.map String.toList))).map String.ofList = _
  rw [List.splitOn_intercalate, List.map_map]
  · have same : String.ofList ∘ String.toList = id := by
      funext name
      apply String.ofList_toList
    rw [same, List.map_id]
  · intro cs among
    obtain ⟨name, named, rfl⟩ := List.mem_map.mp among
    apply apart name named
  · simpa using nonempty

/-! ### First and last slashes -/

theorem eq_append_ofList {path start : String} {rest : List Char}
    (h : path.toList = start.toList ++ rest) :
  path = start ++ String.ofList rest
  := by
  apply String.toList_injective
  rw [h, String.toList_append, String.toList_ofList]

theorem exists_slash_append {path : String} (h : isAbsolute path = true) :
  ∃ other, path = "/" ++ other
  := by
  rw [isAbsolute, decide_eq_true_iff] at h
  rcases cs : path.toList with _ | ⟨c, rest⟩
  · rw [cs] at h
    cases h
  · rw [cs, List.head?_cons, Option.some.injEq] at h
    use String.ofList rest
    apply eq_append_ofList
    rw [cs, h]
    rfl

theorem exists_append_slash {path : String} (h : path.toList.getLast? = some '/') :
  ∃ other, path = other ++ "/"
  := by
  obtain ⟨before, same⟩ := List.getLast?_eq_some_iff.mp h
  use String.ofList before
  apply String.toList_injective
  rw [same, String.toList_append, String.toList_ofList]
  rfl

/-- The last part of a path is empty if nothing stands after its last slash. -/
theorem getLast?_parts (path : String) :
  (parts path).getLast? = some "" ↔ path = "" ∨ path.toList.getLast? = some '/'
  := by
  constructor
  · intro last
    obtain ⟨before, same⟩ := List.getLast?_eq_some_iff.mp last
    have whole := intercalate_parts path
    rw [same] at whole
    by_cases empty : before = []
    · left
      rw [← whole, empty]
      rfl
    · right
      rw [← whole, String.intercalate_append_of_ne_nil empty (List.cons_ne_nil _ _),
        String.intercalate_singleton, String.append_empty, String.toList_append]
      apply List.getLast?_concat
  · rintro (rfl | slash)
    · rfl
    · obtain ⟨front, rfl⟩ := exists_append_slash slash
      rw [parts_append_slash]
      apply List.getLast?_concat

/-! ### Names -/

theorem names_eq_filter (path : String) :
  names path = ((parts path).filter (· ≠ "")).filter (· ≠ ".")
  := by
  rw [names, List.filter_filter]
  congr 1
  funext name
  apply Bool.and_comm

theorem mem_names {path name : String} :
  name ∈ names path ↔ name ∈ parts path ∧ name ≠ "" ∧ name ≠ "."
  := by
  rw [names, List.mem_filter, Bool.and_eq_true, decide_eq_true_iff, decide_eq_true_iff]

theorem names_append_slash (path : String) :
  names (path ++ "/") = names path
  := by
  rw [names, parts_append_slash, List.filter_append]
  apply List.append_nil

/-- Names with slashes between them have these names as their parts, if there are any. -/
theorem parts_intercalate_names {path : String} (nonempty : names path ≠ []) :
  parts ("/".intercalate (names path)) = names path
  := by
  apply parts_intercalate nonempty
  intro name among
  apply slash_not_mem_of_mem_parts (mem_names.mp among).1

theorem filter_names (path : String) :
  (names path).filter (· ≠ "") = names path ∧ (names path).filter (· ≠ ".") = names path
  := by
  constructor
  · rw [List.filter_eq_self]
    intro name among
    rw [decide_eq_true_iff]
    apply (mem_names.mp among).2.1
  · rw [List.filter_eq_self]
    intro name among
    rw [decide_eq_true_iff]
    apply (mem_names.mp among).2.2

/-! ### Absolute paths -/

theorem root_cases (path : String) :
  root path = "/" ∨ root path = "/" ++ "/"
  := by
  rw [root]
  split
  · left
    rfl
  · right
    rfl
  · left
    rfl

/-- An absolute path is its root with names, and with a slash if the path ends with one. -/
theorem absolute_cases (path : String) :
  (names path = [] ∧ absolute path = root path)
    ∨ (names path ≠ [] ∧ path.toList.getLast? ≠ some '/'
      ∧ absolute path = root path ++ "/".intercalate (names path))
    ∨ (names path ≠ [] ∧ path.toList.getLast? = some '/'
      ∧ absolute path = root path ++ ("/".intercalate (names path) ++ "/"))
  := by
  by_cases empty : names path = []
  · left
    use empty
    rw [absolute, empty]
    apply String.append_empty
  · right
    by_cases slash : path.toList.getLast? = some '/'
    · right
      use empty, slash
      rw [absolute]
      simp [empty, slash, String.append_assoc]
    · left
      use empty, slash
      rw [absolute]
      simp [slash]

theorem filter_parts_root_append (path other : String) :
  (parts (root path ++ other)).filter (· ≠ "") = (parts other).filter (· ≠ "")
  := by
  rcases root_cases path with h | h
  · rw [h, parts_slash_append]
    rfl
  · rw [h, String.append_assoc, parts_slash_append, parts_slash_append]
    rfl

theorem getLast?_parts_root_append (path other : String) :
  (parts (root path ++ other)).getLast? = (parts other).getLast?
  := by
  rcases root_cases path with h | h
  · rw [h, parts_slash_append, List.getLast?_cons_of_ne_nil (parts_ne_nil other)]
  · rw [h, String.append_assoc, parts_slash_append, parts_slash_append,
      List.getLast?_cons_of_ne_nil (List.cons_ne_nil _ _),
      List.getLast?_cons_of_ne_nil (parts_ne_nil other)]

theorem names_root_append (path other : String) :
  names (root path ++ other) = names other
  := by
  rw [names_eq_filter, filter_parts_root_append, names_eq_filter]

theorem filter_parts_absolute (path : String) :
  (parts (absolute path)).filter (· ≠ "") = names path
  := by
  rcases absolute_cases path with ⟨empty, h⟩ | ⟨nonempty, _, h⟩ | ⟨nonempty, _, h⟩
  · rw [h, empty, ← String.append_empty (s := root path), filter_parts_root_append]
    rfl
  · rw [h, filter_parts_root_append, parts_intercalate_names nonempty]
    apply (filter_names path).1
  · rw [h, filter_parts_root_append, parts_append_slash, parts_intercalate_names nonempty,
      List.filter_append, (filter_names path).1]
    apply List.append_nil

/-- The absolute path ends in a slash if the path does, or if it is only slashes. -/
theorem getLast?_parts_absolute (path : String) :
  (parts (absolute path)).getLast? = some "" ↔ names path = [] ∨ path.toList.getLast? = some '/'
  := by
  rcases absolute_cases path with ⟨empty, h⟩ | ⟨nonempty, open', h⟩ | ⟨nonempty, slash, h⟩
  · rw [h, ← String.append_empty (s := root path), getLast?_parts_root_append]
    simp only [empty, true_or, iff_true]
    rfl
  · rw [h, getLast?_parts_root_append, parts_intercalate_names nonempty]
    simp only [nonempty, open', or_self, iff_false]
    intro last
    cases (mem_names.mp (List.mem_of_getLast? last)).2.1 rfl
  · rw [h, getLast?_parts_root_append, parts_append_slash]
    simp only [slash, or_true, iff_true]
    apply List.getLast?_concat

/-- The absolute path of a path has the same names. -/
theorem names_absolute (path : String) :
  names (absolute path) = names path
  := by
  rw [names_eq_filter, filter_parts_absolute]
  apply (filter_names path).2

theorem isAbsolute_root_append (path other : String) :
  isAbsolute (root path ++ other) = true
  := by
  rw [isAbsolute, decide_eq_true_iff, String.toList_append]
  rcases root_cases path with h | h
  · rw [h]
    rfl
  · rw [h]
    rfl

theorem isAbsolute_absolute (path : String) :
  isAbsolute (absolute path) = true
  := by
  rcases absolute_cases path with ⟨_, h⟩ | ⟨_, _, h⟩ | ⟨_, _, h⟩
  · rw [h, ← String.append_empty (s := root path)]
    apply isAbsolute_root_append
  · rw [h]
    apply isAbsolute_root_append
  · rw [h]
    apply isAbsolute_root_append

/-! ### Absolute paths as pieces -/

/-- An absolute path begins with its root. -/
theorem exists_root_append {path : String} (h : isAbsolute path = true) :
  ∃ other, path = root path ++ other
  := by
  rw [root]
  split
  · apply exists_slash_append h
  · next rest _ same =>
      use String.ofList rest
      apply eq_append_ofList
      rw [same]
      rfl
  · apply exists_slash_append h

/-- Fewer parts give less text. -/
theorem intercalate_sublist {few many : List String} (h : few.Sublist many) :
  ("/".intercalate few).toList.Sublist ("/".intercalate many).toList
  := by
  induction h with
  | slnil => apply List.Sublist.refl
  | @cons few many part h ih =>
      by_cases empty : many = []
      · rw [empty] at h
        rw [List.eq_nil_of_sublist_nil h]
        apply List.nil_sublist
      · rw [String.intercalate_cons_of_ne_nil empty, String.toList_append]
        apply ih.trans
        apply List.sublist_append_right
  | @cons_cons few many part h ih =>
      by_cases empty : many = []
      · rw [empty] at h
        rw [empty, List.eq_nil_of_sublist_nil h]
      · rw [String.intercalate_cons_of_ne_nil empty, String.toList_append, String.toList_append]
        by_cases empty' : few = []
        · rw [empty', String.intercalate_singleton, List.append_assoc]
          apply List.sublist_append_left
        · rw [String.intercalate_cons_of_ne_nil empty', String.toList_append, String.toList_append]
          apply ih.append_left

theorem names_sublist (path : String) :
  ("/".intercalate (names path)).toList.Sublist path.toList
  := by
  have h := intercalate_sublist (List.filter_sublist : (names path).Sublist (parts path))
  rw [intercalate_parts] at h
  apply h

theorem isAbsolute_slash_append (other : String) :
  isAbsolute ("/" ++ other) = true
  := by
  rw [isAbsolute, String.toList_append]
  rfl

/-- The names of an absolute path, written behind a slash, are that path with characters left
out. -/
theorem slash_names_sublist {path : String} (h : isAbsolute path = true) :
  ("/" ++ "/".intercalate (names path)).toList.Sublist path.toList
  := by
  obtain ⟨other, rfl⟩ := exists_slash_append h
  have named : names ("/" ++ other) = names other := by
    rw [names, parts_slash_append]
    rfl
  rw [named, String.toList_append, String.toList_append]
  apply List.Sublist.append_left
  apply names_sublist

/-- The absolute path of an absolute path is that path with characters left out. -/
theorem absolute_sublist {path : String} (h : isAbsolute path = true) :
  (absolute path).toList.Sublist path.toList
  := by
  obtain ⟨other, same⟩ := exists_root_append h
  have text : path.toList = (root path).toList ++ other.toList := by
    rw [← String.toList_append, ← same]
  have named : names path = names other := by
    rw [← names_root_append path other, ← same]
  rcases absolute_cases path with ⟨_, h⟩ | ⟨_, _, h⟩ | ⟨nonempty, slash, h⟩
  · rw [h, text]
    apply List.sublist_append_left
  · rw [h, text, String.toList_append, named]
    apply List.Sublist.append_left
    apply names_sublist
  · rw [h, text, String.toList_append, named]
    apply List.Sublist.append_left
    have last : other.toList.getLast? = some '/' := by
      rw [text, List.getLast?_append] at slash
      rcases ends : other.toList.getLast? with _ | c
      · rw [List.getLast?_eq_none_iff, String.toList_eq_nil_iff] at ends
        rw [named, ends] at nonempty
        cases nonempty rfl
      · rw [ends] at slash
        apply slash
    obtain ⟨front, rfl⟩ := exists_append_slash last
    rw [names_append_slash, String.toList_append, String.toList_append]
    apply List.Sublist.append_right
    apply names_sublist

end Toolshed.Path
