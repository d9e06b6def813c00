import Toolshed.Lock.Name
import Toolshed.Proofs.Path.Inside
import Toolshed.Proofs.Text.Runs
import Mathlib.Data.List.Chain
import Mathlib.Data.String.Basic

/-!
# Reading the names of lockfiles

What a lockfile pins is read from its name: the version stands after the last at-sign, and two
underscores stand for a slash.  So the name of a pin is read as that pin only if its version has no
at-sign, and if in its tool no underscore stands in front of another one or of a slash.
-/

namespace Toolshed.Lock

variable {cs : List Char}

/-! ### Cut texts -/

theorem beforeEnd?_eq_some {ending stem : List Char} :
  beforeEnd? ending cs = some stem ↔ cs = stem ++ ending
  := by
  rw [beforeEnd?, Option.map_eq_some_iff]
  constructor
  · rintro ⟨reversed, cut, rfl⟩
    rw [← List.reverse_inj, Text.afterStart?_eq_some.mp cut, List.reverse_append,
      List.reverse_reverse]
  · rintro rfl
    use stem.reverse
    constructor
    · apply Text.afterStart?_eq_some.mpr
      apply List.reverse_append
    · apply List.reverse_reverse

theorem cutLast?_eq_some {mark : Char} {before after : List Char} :
  cutLast? mark cs = some (before, after) ↔ cs = before ++ mark :: after ∧ mark ∉ after
  := by
  rw [cutLast?, Option.map_eq_some_iff]
  constructor
  · rintro ⟨⟨reversed, reversed'⟩, cut, same⟩
    obtain ⟨rfl, rfl⟩ := Prod.mk.inj same
    obtain ⟨text, apart⟩ := Text.cutAt?_eq_some.mp cut
    rw [List.mem_reverse]
    use ?_, apart
    rw [← List.reverse_inj, text]
    simp
  · rintro ⟨rfl, apart⟩
    use (after.reverse, before.reverse)
    constructor
    · apply Text.cutAt?_eq_some.mpr
      rw [List.mem_reverse]
      use ?_, apart
      simp
    · simp

/-! ### Slashes and underscores -/

theorem encode_cons (c : Char) (cs : List Char) :
  encode (c :: cs) = if c = '/' then '_' :: '_' :: encode cs else c :: encode cs
  := by
  rw [encode, List.flatMap_cons, ← encode]
  split
  · rfl
  · rfl

theorem slash_not_mem_encode (cs : List Char) :
  '/' ∉ encode cs
  := by
  rw [encode, List.mem_flatMap]
  rintro ⟨c, _, among⟩
  split at among
  · revert among
    decide
  · next other => apply other (List.mem_singleton.mp among).symm

theorem encode_eq_nil :
  encode cs = [] ↔ cs = []
  := by
  rcases cs with _ | ⟨c, cs⟩
  · rw [encode, List.flatMap_nil]
  · rw [encode_cons]
    split
    · simp
    · simp

/-- An underscore does not stand in front of another one or of a slash. -/
def StandsBefore (c next : Char) : Prop :=
  c = '_' → next ≠ '_' ∧ next ≠ '/'

instance (c next : Char) : Decidable (StandsBefore c next) :=
  inferInstanceAs (Decidable (_ → _))

theorem decode_cons_of_ne {c : Char} (other : c ≠ '_') (cs : List Char) :
  decode (c :: cs) = c :: decode cs
  := by
  rw [decode]
  rintro cs' rfl
  cases other rfl

theorem decode_underscore (lone : cs.head? ≠ some '_') :
  decode ('_' :: cs) = '_' :: decode cs
  := by
  rw [decode]
  rintro cs' _ rfl
  apply lone rfl

theorem head?_encode_ne (h : cs.head? ≠ some '_' ∧ cs.head? ≠ some '/') :
  (encode cs).head? ≠ some '_'
  := by
  rcases cs with _ | ⟨c, cs⟩
  · simp [encode]
  · obtain ⟨underscore, slash⟩ := h
    rw [List.head?_cons] at underscore slash
    rw [encode_cons, if_neg (fun same => slash (congrArg some same)), List.head?_cons]
    apply underscore

theorem exists_encode_eq (h : cs.head? = some '_' ∨ cs.head? = some '/') :
  ∃ rest, encode cs = '_' :: rest
  := by
  rcases cs with _ | ⟨c, cs⟩
  · simp at h
  · rw [List.head?_cons, Option.some.injEq, Option.some.injEq] at h
    rw [encode_cons]
    rcases h with rfl | rfl
    · use encode cs
      apply if_neg
      decide
    · use '_' :: encode cs
      apply if_pos rfl

/-- A written text is read as itself if no underscore in it stands before another one or before a
slash. -/
theorem decode_encode_iff :
  decode (encode cs) = cs ↔ cs.IsChain StandsBefore
  := by
  induction cs with
  | nil => simp [encode, decode]
  | cons c cs ih =>
      rw [List.isChain_cons, ← ih, encode_cons]
      by_cases slash : c = '/'
      · rw [if_pos slash, decode, slash, List.cons.injEq]
        simp [StandsBefore]
      · rw [if_neg slash]
        by_cases underscore : c = '_'
        · subst underscore
          by_cases lone : cs.head? ≠ some '_' ∧ cs.head? ≠ some '/'
          · rw [decode_underscore (head?_encode_ne lone), List.cons.injEq]
            simp only [true_and, iff_and_self]
            rintro - next first -
            constructor
            · rintro rfl
              apply lone.1 first
            · rintro rfl
              apply lone.2 first
          · rw [not_and_or, not_not, not_not] at lone
            constructor
            · -- Two underscores are read as a slash.
              intro same
              obtain ⟨rest, written⟩ := exists_encode_eq lone
              rw [written, decode] at same
              cases same
            · rintro ⟨apart, -⟩
              rcases lone with first | first
              · cases (apart _ first rfl).1 rfl
              · cases (apart _ first rfl).2 rfl
        · rw [decode_cons_of_ne underscore, List.cons.injEq]
          simp [StandsBefore, underscore]

/-- A text without slashes is written again as it was read. -/
theorem encode_decode (apart : '/' ∉ cs) :
  encode (decode cs) = cs
  := by
  induction cs using decode.induct with
  | case1 cs ih =>
      rw [decode, encode_cons, if_pos rfl, ih]
      intro among
      apply apart
      simp [among]
  | case2 c cs lone ih =>
      rw [List.mem_cons, not_or] at apart
      rw [decode]
      · rw [encode_cons, if_neg (Ne.symm apart.1), ih apart.2]
      · apply lone
  | case3 => rfl

/-! ### Names -/

namespace Pin

variable {pin : Pin} {name : String}

theorem toList_fileName (pin : Pin) :
  pin.fileName.toList = encode pin.tool.toList ++ '@' :: pin.version.toList ++ nameEnd.toList
  := by
  rw [fileName, String.toList_ofList]

/-- A name is read as a pin if it is a written tool, not empty, with a version, not empty and
without at-signs, and the end of names. -/
theorem ofFileName?_eq_some :
  ofFileName? name = some pin ↔ ∃ stem, stem ≠ [] ∧ pin.tool = String.ofList (decode stem)
    ∧ pin.version ≠ "" ∧ '@' ∉ pin.version.toList
    ∧ name.toList = stem ++ '@' :: pin.version.toList ++ nameEnd.toList
  := by
  rw [ofFileName?]
  simp only [Option.bind_eq_bind, Option.bind_eq_some_iff, beforeEnd?_eq_some, Prod.exists,
    cutLast?_eq_some]
  constructor
  · rintro ⟨_, text, tool, version, ⟨rfl, apart⟩, h⟩
    split at h
    · cases h
    · next nonempty =>
        rw [Bool.or_eq_true, not_or, List.isEmpty_iff, List.isEmpty_iff] at nonempty
        obtain rfl := Option.some.inj h
        rw [String.toList_ofList]
        refine ⟨tool, nonempty.1, rfl, ?_, apart, text⟩
        rw [ne_eq, String.ofList_eq_empty_iff]
        apply nonempty.2
  · rintro ⟨stem, tool, same, version, apart, text⟩
    refine ⟨_, text, stem, pin.version.toList, ⟨rfl, apart⟩, ?_⟩
    rw [if_neg, String.ofList_toList, ← same]
    · rfl
    · rw [Bool.or_eq_true, not_or, List.isEmpty_iff, List.isEmpty_iff, String.toList_eq_nil_iff]
      use tool, version

/-- Nothing in a pin runs into what separates its parts in the name of its lockfile. -/
structure IsPlain (pin : Pin) : Prop where
  tool_nonempty : pin.tool ≠ ""
  version_nonempty : pin.version ≠ ""
  no_at : '@' ∉ pin.version.toList
  no_overlap : pin.tool.toList.IsChain StandsBefore

instance (pin : Pin) : Decidable pin.IsPlain :=
  decidable_of_iff (pin.tool ≠ "" ∧ pin.version ≠ "" ∧ '@' ∉ pin.version.toList
      ∧ pin.tool.toList.IsChain StandsBefore)
    ⟨fun ⟨h, h', h'', h'''⟩ => ⟨h, h', h'', h'''⟩, fun ⟨h, h', h'', h'''⟩ => ⟨h, h', h'', h'''⟩⟩

/-- The name of a pin is read as that pin exactly if nothing in it runs into what separates its
parts. -/
theorem ofFileName?_fileName_iff :
  ofFileName? pin.fileName = some pin ↔ pin.IsPlain
  := by
  rw [ofFileName?_eq_some]
  constructor
  · rintro ⟨stem, nonempty, same, version, apart, text⟩
    rw [toList_fileName, List.append_left_inj] at text
    have cut : cutLast? '@' (encode pin.tool.toList ++ '@' :: pin.version.toList)
        = some (encode pin.tool.toList, pin.version.toList) :=
      cutLast?_eq_some.mpr ⟨rfl, apart⟩
    rw [cutLast?_eq_some.mpr ⟨text, apart⟩, Option.some.injEq, Prod.mk.injEq] at cut
    rw [cut.1] at nonempty same
    have tool : decode (encode pin.tool.toList) = pin.tool.toList := by
      rw [← String.toList_ofList (l := decode _), ← same]
    refine ⟨?_, version, apart, decode_encode_iff.mp tool⟩
    rw [ne_eq, encode_eq_nil, String.toList_eq_nil_iff] at nonempty
    apply nonempty
  · rintro ⟨tool, version, apart, overlap⟩
    refine ⟨encode pin.tool.toList, ?_, ?_, version, apart, toList_fileName pin⟩
    · rw [ne_eq, encode_eq_nil, String.toList_eq_nil_iff]
      apply tool
    · rw [decode_encode_iff.mpr overlap, String.ofList_toList]

/-- Pins whose versions have no at-sign share a name if their tools are written alike. -/
theorem fileName_eq_iff {other : Pin} (no_at : '@' ∉ pin.version.toList)
    (no_at' : '@' ∉ other.version.toList) :
  pin.fileName = other.fileName
    ↔ encode pin.tool.toList = encode other.tool.toList ∧ pin.version = other.version
  := by
  rw [← String.toList_inj, toList_fileName, toList_fileName, List.append_left_inj]
  constructor
  · intro same
    have cut : cutLast? '@' (encode pin.tool.toList ++ '@' :: pin.version.toList)
        = some (encode pin.tool.toList, pin.version.toList) :=
      cutLast?_eq_some.mpr ⟨rfl, no_at⟩
    rw [cutLast?_eq_some.mpr ⟨same, no_at'⟩, Option.some.injEq, Prod.mk.injEq] at cut
    use cut.1.symm
    apply String.toList_injective cut.2.symm
  · rintro ⟨tool, version⟩
    rw [tool, version]

/-- A name without slashes that is read as a pin is the name of that pin. -/
theorem fileName_of_ofFileName? (apart : '/' ∉ name.toList) (read : ofFileName? name = some pin) :
  pin.fileName = name
  := by
  obtain ⟨stem, _, same, _, _, text⟩ := ofFileName?_eq_some.mp read
  rw [text, List.append_assoc, List.mem_append, not_or] at apart
  apply String.toList_injective
  rw [toList_fileName, same, String.toList_ofList, encode_decode apart.1, text]

/-- The name of a lockfile is a proper name if there is no slash in the version. -/
theorem isName_fileName (apart : '/' ∉ pin.version.toList) :
  Path.IsName pin.fileName
  := by
  have long : 2 < pin.fileName.toList.length := by
    rw [toList_fileName, List.length_append]
    apply Nat.lt_of_lt_of_le (by decide) (Nat.le_add_left _ _)
  refine ⟨?_, ?_, ?_, ?_⟩
  · intro same
    rw [same] at long
    cases long
  · intro same
    rw [same] at long
    revert long
    decide
  · intro same
    rw [same] at long
    revert long
    decide
  · rw [toList_fileName, List.mem_append, List.mem_append, List.mem_cons, not_or, not_or, not_or]
    refine ⟨⟨slash_not_mem_encode _, ?_, apart⟩, ?_⟩
    · decide
    · decide

example :
  ofFileName? (fileName ⟨"rye/core/thing", "0.1.0"⟩) = some ⟨"rye/core/thing", "0.1.0"⟩
    ∧ ofFileName? (fileName ⟨"my__tool", "1"⟩) = some ⟨"my/tool", "1"⟩
  := by
  decide +kernel

end Pin

end Toolshed.Lock
