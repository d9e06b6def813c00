import Toolshed.Proofs.Directive.Assignments

/-!
# What identifies a directive

What identifies a directive is what it declares, whatever that is, at the places where the looser
rules make no difference: its attribute has no blanks, no other assignment to its name stands behind
it in the tag, and none in a tag before.
-/

namespace Toolshed.Directive

open Text

/-! ### Places where values identify -/

namespace Site

/-- The text before the value. -/
def opening (s : Site) : List Char :=
  s.before ++ (tagStart ++ (s.inner ++ s.header.text))

/-- The text from the end of the value on. -/
def closing (s : Site) : List Char :=
  s.header.quote :: (s.back ++ '>' :: s.after)

theorem text_eq (s : Site) (value : List Char) :
  s.text value = s.opening ++ (value ++ s.closing)
  := by
  simp [text, tag, opening, closing]

/-- A header that ends with its name and the equals sign has no blanks. -/
theorem bare_of_ends (s : Site) {front front' : List Char}
    (ends : front ++ s.header.bare = front' ++ (s.header.name ++ ['='])) :
  s.header.gap = [] ∧ s.header.gap' = []
  := by
  obtain ⟨blank, blank'⟩ := List.forall_mem_append.mp s.header.isBlank
  have ends' : front ++ (s.header.name ++ s.header.gap) ++ '=' :: s.header.gap'
      = front' ++ s.header.name ++ ['='] := by
    simpa [Header.bare] using ends
  have gap' : s.header.gap' = [] := by
    rcases List.eq_nil_or_concat s.header.gap' with bare | ⟨others, b, blankLast⟩
    · apply bare
    · have last := blank' b (by simp [blankLast])
      rw [blankLast, List.concat_eq_append, ← List.cons_append, ← List.append_assoc] at ends'
      rw [List.singleton_inj.mp (List.append_inj' ends' rfl).2] at last
      cases last
  refine ⟨?_, gap'⟩
  rw [gap'] at ends'
  have named := (List.append_inj' ends' rfl).1
  rcases List.eq_nil_or_concat s.header.gap with bare | ⟨others, b, blankLast⟩
  · apply bare
  · have last := blank b (by simp [blankLast])
    rcases List.eq_nil_or_concat s.header.name with empty | ⟨start, c, name⟩
    · obtain ⟨c, run, name, -⟩ := s.header.isName
      rw [name] at empty
      cases empty
    · have letter := s.header.isName.isNameChar (c := c) (by simp [name])
      have named' : front ++ (s.header.name ++ others) ++ [b] = front' ++ start ++ [c] :=
        calc front ++ (s.header.name ++ others) ++ [b]
            = front ++ (s.header.name ++ s.header.gap) := by simp [blankLast]
          _ = front' ++ s.header.name := named
          _ = front' ++ start ++ [c] := by simp [name]
      rw [List.singleton_inj.mp (List.append_inj' named' rfl).2] at last
      rw [isNameChar_of_isBlank last] at letter
      cases letter

/-- The values at a place identify the directive: there are no blanks around its equals sign, no tag
before it has an assignment to its name, and none stands behind it in its tag. -/
structure IsDirect (s : Site) : Prop where
  bare : s.header.gap = [] ∧ s.header.gap' = []
  first : ∀ before inner back, s.opening = before ++ (tagStart ++ (inner ++ back)) → inner ≠ [] →
    '>' ∉ inner → '>' ∈ back → ∀ v, ¬ Assigns s.header.name v back
  last : lastAssigned? s.header.name (s.back ++ '>' :: s.after) = none

/-- A value at a place does not begin an assignment of another one, and has no quotes. -/
structure IsKept (s : Site) (value : List Char) : Prop where
  free : ∀ c ∈ value, ¬ IsQuote c
  only : ∀ tail v, tail <:+ value → Assigns s.header.name v (tail ++ s.closing) → v = value

section

variable {s : Site} {v : List Char}

/-- An assignment that begins behind a place begins in its value. -/
theorem lastAssigned?_closing (free : ∀ c ∈ v, ¬ IsQuote c) (free' : '>' ∉ v)
    (last : lastAssigned? s.header.name (s.back ++ '>' :: s.after) = none) {u : List Char} :
  lastAssigned? s.header.name (v ++ s.closing) = some u
    ↔ ∃ tail, tail <:+ v ∧ Assigns s.header.name u (tail ++ s.closing)
  := by
  have begins {u : List Char} (found : lastAssigned? s.header.name (v ++ s.closing) = some u) :
      ∃ tail, tail <:+ v ∧ Assigns s.header.name u (tail ++ s.closing) := by
    obtain ⟨front, c, rest, parts, passed, assigns, -⟩ :=
      (lastAssigned?_eq_some_iff s.header.isName).mp found
    rcases exists_of_append_eq parts with ⟨between, rfl, after⟩ | ⟨between, rfl, rfl⟩
    · rcases between with _ | ⟨d, between⟩
      · obtain ⟨d, rest', same, letter⟩ := assigns.exists_eq_cons s.header.isName
        rw [← (List.cons.inj same).1, ← (List.cons.inj after).1] at letter
        rw [s.header.isQuote.not_isNameChar] at letter
        cases letter
      · simp only [List.mem_append, List.mem_cons, not_or] at passed
        cases (lastAssigned?_eq_none_iff s.header.isName).mp last between (c :: rest)
          (List.cons.inj after).2 passed.2.2 u assigns
    · use c :: between, List.suffix_append front _
      apply assigns
  constructor
  · apply begins
  · rintro ⟨tail, ⟨front, rfl⟩, assigns⟩
    rcases found : lastAssigned? s.header.name (front ++ tail ++ s.closing) with _ | u'
    · rw [List.append_assoc] at found
      rw [List.mem_append, not_or] at free'
      cases (lastAssigned?_eq_none_iff s.header.isName).mp found front _ rfl free'.1 u assigns
    · obtain ⟨tail', suffix', assigns'⟩ := begins found
      have same : tail = tail' := by
        rw [assigns.eq_of_quote s.header.isName s.header.isQuote
            fun c among => free c (List.mem_append_right _ among),
          assigns'.eq_of_quote s.header.isName s.header.isQuote
            fun c among => free c (suffix'.subset among)]
      rw [← same] at assigns'
      rw [assigns.unique assigns']

/-- The text of a header without blanks. -/
theorem text_header (bare : s.header.gap = [] ∧ s.header.gap' = []) :
  s.header.text = s.header.name ++ ['=', s.header.quote]
  := by
  simp [Header.text, Header.bare, bare]

/-- The last assignment from a place on, in its tag. -/
theorem lastAssigned?_header (bare : s.header.gap = [] ∧ s.header.gap' = [])
    (free : ∀ c ∈ v, ¬ IsQuote c) (nonempty : v ≠ []) :
  lastAssigned? s.header.name (s.header.text ++ (v ++ s.closing))
    = (lastAssigned? s.header.name (v ++ s.closing)).or (some v)
  := by
  have here : Assigns s.header.name v (s.header.text ++ (v ++ s.closing)) := by
    refine ⟨s.header.quote, s.header.quote, s.back ++ '>' :: s.after, ?_, s.header.isQuote,
      s.header.isQuote, nonempty, free⟩
    rw [text_header bare, List.append_assoc]
    rfl
  obtain ⟨c, run, name, first, others⟩ := s.header.isName
  have outside : '>' ∉ s.header.name := s.header.isName.not_mem (by decide)
  rw [name, List.mem_cons, not_or] at outside
  have text : s.header.text = c :: (run ++ ['='] ++ [s.header.quote]) := by
    rw [text_header bare, name]
    simp
  rw [← assigned?_eq_some_iff, text] at here
  rw [text, List.cons_append, lastAssigned?_cons (Ne.symm outside.1), ← List.cons_append, here,
    lastAssigned?_append_of_not]
  · simp only [List.mem_append, List.mem_singleton, not_or]
    use ⟨outside.2, by decide⟩, (s.header.isQuote.ne (by decide)).symm
  · intro back u suffix proper assigns
    rcases List.eq_nil_or_concat back with rfl | ⟨back, d, rfl⟩
    · apply proper rfl
    · rw [List.concat_eq_append] at suffix assigns
      obtain ⟨front, whole⟩ := suffix
      rw [← List.append_assoc] at whole
      obtain ⟨start, last⟩ := List.append_inj' whole rfl
      rw [List.singleton_inj.mp last, List.append_assoc] at assigns
      have unquoted : ∀ e ∈ back, ¬ IsQuote e := by
        intro e among
        apply s.header.not_isQuote
        rw [Header.bare, name, bare.1, bare.2]
        have among' : e ∈ run ++ ['='] := by
          rw [← start]
          apply List.mem_append_right _ among
        exact List.mem_cons_of_mem c among'
      have whole' := assigns.eq_of_quote s.header.isName s.header.isQuote unquoted
      have lengths := congrArg List.length start
      rw [whole', name] at lengths
      simp at lengths
      omega

/-- A tag with a place is the first one with an assignment, if the values there identify. -/
theorem identifier?_of_isDirect (direct : s.IsDirect) {u : List Char}
    (last : lastAssigned? s.header.name (s.header.text ++ (v ++ s.closing)) = some u) :
  identifier? s.header.name (s.text v) = some u
  := by
  have text : s.text v
      = s.before ++ (tagStart ++ (s.inner ++ (s.header.text ++ (v ++ s.closing)))) := by
    simp [Site.text, tag, closing]
  obtain ⟨d, inner, goesOn⟩ := List.exists_cons_of_ne_nil s.goesOn
  have free := s.free
  rw [goesOn, List.mem_cons, not_or] at free
  rw [text, goesOn]
  apply identifier?_append
  · apply tagged?_eq_some_iff.mpr ⟨d, _, rfl, Ne.symm free.1, lastAssigned?_append free.2 last⟩
  · intro back u' suffix found
    obtain ⟨d', rest, parts, goesOn', last'⟩ := tagged?_eq_some_iff.mp found
    rcases exists_of_tagStart parts.symm with ⟨-, same⟩ | ⟨between, rfl, same⟩
    · rw [List.cons_append, List.cons.injEq] at same
      rw [same.2, lastAssigned?_append free.2 last] at last'
      apply (Option.some.inj last').symm
    · obtain ⟨e, passed, whole⟩ : ∃ e passed,
          between ++ (tagStart ++ d :: inner) = e :: passed := by
        apply List.exists_cons_of_ne_nil
        simp
      have tails : d' :: rest = e :: (passed ++ (s.header.text ++ (v ++ s.closing))) := by
        rw [same, ← List.cons_append, ← whole]
        simp
      obtain ⟨rfl, rfl⟩ := List.cons.inj tails
      by_cases ends : '>' ∈ passed
      · obtain ⟨front, c, more, parts', free', assigns, -⟩ :=
          (lastAssigned?_eq_some_iff s.header.isName).mp last'
        rcases exists_of_append_eq parts' with ⟨inTag, rfl, -⟩ | ⟨inTag, rfl, rfl⟩
        · cases free' (List.mem_append_left _ ends)
        · -- the other tag ends before this one, and an assignment begins in it
          obtain ⟨before, earlier⟩ := suffix
          have ends' : '>' ∈ c :: inTag := (List.mem_append.mp ends).resolve_left free'
          have begins : Assigns s.header.name u'
            (c :: inTag ++ (s.header.text ++ (v ++ s.closing))) := assigns
          cases direct.first before (d' :: front) (c :: inTag ++ s.header.text) (by
            rw [opening, ← earlier, goesOn]
            have next := congrArg (before ++ tagStart ++ · ++ s.header.text) whole
            simpa using next) (List.cons_ne_nil d' front) (by simpa using ⟨Ne.symm goesOn', free'⟩)
            (List.mem_append_left _ ends') u' (begins.of_header s.header.isName ends')
      · rw [lastAssigned?_append ends last] at last'
        apply (Option.some.inj last').symm

/-- Where the values at a place identify, a value does if and only if it is kept. -/
theorem identifier?_iff_isKept (direct : s.IsDirect) (nonempty : v ≠ []) (free : '>' ∉ v) :
  identifier? s.header.name (s.text v) = some v ↔ s.IsKept v
  := by
  constructor
  · intro found
    have unquoted := not_isQuote_of_identifier? s.header.isName found
    use unquoted
    intro tail u suffix assigns
    have last := (lastAssigned?_closing unquoted free direct.last).mpr ⟨tail, suffix, assigns⟩
    rw [identifier?_of_isDirect direct (u := u)] at found
    · apply Option.some.inj found
    · rw [lastAssigned?_header direct.bare unquoted nonempty, last]
      rfl
  · intro kept
    apply identifier?_of_isDirect direct
    rw [lastAssigned?_header direct.bare kept.free nonempty]
    rcases last : lastAssigned? s.header.name (v ++ s.closing) with _ | u
    · rfl
    · obtain ⟨tail, suffix, assigns⟩ := (lastAssigned?_closing kept.free free direct.last).mp last
      rw [kept.only tail u suffix assigns]
      rfl

theorem isPlain_replicate {count : Nat} (nonzero : count ≠ 0) :
  IsPlain (List.replicate count 'x')
  := by
  constructor
  · rw [ne_eq, List.replicate_eq_nil_iff]
    apply nonzero
  · intro c among
    rw [List.eq_of_mem_replicate among]
    use by rintro (same | same) <;> cases same
    decide

/-- A tag that begins no earlier than one that does not end has no end, either. -/
theorem not_mem_of_length_le {before inner before' inner' back : List Char}
    (same : before ++ (tagStart ++ inner) = before' ++ (tagStart ++ (inner' ++ back)))
    (later : before.length ≤ before'.length) (free : '>' ∉ inner) :
  '>' ∉ back
  := by
  intro ends
  apply free
  rcases List.append_eq_append_iff.mp same with ⟨between, -, after⟩ | ⟨between, rfl, after⟩
  · rcases exists_of_tagStart after with ⟨-, rfl⟩ | ⟨between', -, rfl⟩
    · apply List.mem_append_right _ ends
    · simp [ends]
  · have empty : between = [] := by
      apply List.length_eq_zero_iff.mp
      rw [List.length_append] at later
      omega
    rw [empty, List.nil_append] at after
    rw [← List.append_cancel_left after]
    apply List.mem_append_right _ ends

/-- If all plain values at a place identify the directive, it is because they stand there. -/
theorem isDirect_of_forall
    (same : ∀ v, IsPlain v → identifier? s.header.name (s.text v) = some v) :
  s.IsDirect
  := by
  -- a run that is longer than all the rest stands in one place only
  obtain ⟨count, long⟩ : ∃ count, s.opening.length + s.closing.length < count :=
    ⟨_, Nat.lt_succ_self _⟩
  have plain := isPlain_replicate (Nat.ne_zero_of_lt long)
  obtain ⟨before, inner, text, whole, -, free, ⟨q, q', rest, rfl, isQuote, -, -, -⟩, last, first⟩ :=
    (identifier?_iff_isLooseValue s.header.isName).mp (same _ plain)
  have outside : '>' ∉ s.header.name ++ ['=', s.header.quote] := by
    simp only [List.mem_append, List.mem_cons, List.not_mem_nil, or_false, not_or]
    use s.header.isName.not_mem (by decide), by decide, (s.header.isQuote.ne (by decide)).symm
  have short : (s.before ++ (tagStart ++ s.inner) ++ s.header.bare).length + s.closing.length
      < count := by
    apply Nat.lt_of_le_of_lt _ long
    simp only [opening, Header.text, List.length_append]
    omega
  have placed : s.before ++ (tagStart ++ s.inner) ++ s.header.bare ++ s.header.quote ::
      (List.replicate count 'x' ++ s.closing)
      = before ++ (tagStart ++ inner) ++ (s.header.name ++ ['=']) ++ q ::
        (List.replicate count 'x' ++ q' :: rest) := by
    rw [text_eq, opening, Header.text] at whole
    simpa using whole
  obtain ⟨start, rfl, closing⟩ := eq_of_long_run short (s.header.isQuote.ne (by decide))
    (isQuote.ne (by decide)) placed
  constructor
  · apply s.bare_of_ends start
  · intro before' inner' back opened nonempty free' ends v assigns
    have opening : before ++ (tagStart ++ (inner ++ (s.header.name ++ ['=', s.header.quote])))
        = before' ++ (tagStart ++ (inner' ++ back)) := by
      have start' := congrArg (· ++ [s.header.quote]) start
      rw [← opened, Site.opening, Header.text]
      simpa using start'.symm
    have text : s.text (List.replicate count 'x') = before' ++ (tagStart ++ (inner' ++
        (back ++ (List.replicate count 'x' ++ s.closing)))) := by
      rw [text_eq, opened]
      simp
    apply not_mem_of_length_le opening
      (first before' inner' _ v text nonempty free' (assigns.append _)) _ ends
    rw [List.mem_append, not_or]
    use free
  · rw [Site.closing, List.cons.injEq] at closing
    apply (lastAssigned?_eq_none_iff s.header.isName).mpr
    intro between later parts free' v
    apply last
      (s.header.name ++ '=' :: s.header.quote :: (List.replicate count 'x' ++ q' :: between))
    · rw [← closing.2, parts]
      simp
    · simp
    · rw [← closing.1]
      simp only [List.mem_append, List.mem_cons, List.not_mem_nil, or_false, not_or,
        List.mem_replicate] at outside ⊢
      use outside.1, outside.2.1, outside.2.2, by simp, outside.2.2

end

end Site

/-! ### Identity -/

/-- The name and the version that identify a directive. -/
theorem get?_identity {name : String} (among : name ∈ ["name", "version"]) (content : List Char) :
  Assoc.get? name (identity content)
    = (identifier? name.toList content).map fun value => .string (String.ofList value)
  := by
  have named : identity content = ["name", "version"].filterMap fun n =>
      ((identifier? n.toList content).map fun value => Json.Value.string (String.ofList value)).map
        fun v => (n, v) := by
    simp only [identity, Option.map_map]
    rfl
  rw [named, Assoc.get?_filterMap, if_pos among]

theorem get?_identity_eq_some_iff {name : String} (among : name ∈ ["name", "version"])
    {content value : List Char} :
  Assoc.get? name (identity content) = some (.string (String.ofList value))
    ↔ identifier? name.toList content = some value
  := by
  rw [get?_identity among, Option.map_eq_some_iff]
  constructor
  · rintro ⟨value', found, same⟩
    rw [found, String.ofList_injective (Json.Value.string.inj same)]
  · intro found
    use value

/-- What a directive declares by a name and what identifies it is the same for any plain value at a
place. -/
def Site.IsShared (s : Site) (name : String) : Prop :=
  ∀ value, IsPlain value →
    Assoc.get? name (identity (s.text value)) = Assoc.get? name (fields (s.text value))

/-- The values of a place where a directive declares a name are shared if and only if they stand
there directly. -/
theorem Site.isShared_iff {s : Site} {name : String} (among : name ∈ ["name", "version"])
    (named : s.header.name = name.toList) (read : s.IsRead name) :
  s.IsShared name ↔ s.IsDirect
  := by
  constructor
  · intro same
    apply isDirect_of_forall
    intro value plain
    rw [named, ← get?_identity_eq_some_iff among, same value plain, read value plain]
  · intro direct value plain
    rw [read value plain, get?_identity_eq_some_iff among, ← named]
    apply (identifier?_iff_isKept direct plain.1 fun ends => (plain.2 _ ends).2.2 rfl).mpr
    have unquoted : ∀ c ∈ value, ¬ IsQuote c := fun c inValue => (plain.2 c inValue).1
    use unquoted
    intro tail v suffix assigns
    have start := assigns.eq_of_quote s.header.isName s.header.isQuote
      fun c inTail => unquoted c (suffix.subset inTail)
    have equals : '=' ∈ value := by
      apply suffix.subset
      rw [start]
      simp
    cases (plain.2 _ equals).2.1 rfl

end Toolshed.Directive
