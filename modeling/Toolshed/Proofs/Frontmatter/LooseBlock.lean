import Toolshed.Proofs.Frontmatter.Fences

/-!
# Blocks between loose fences

What identifies an entry is read from a block of its own, which begins and ends by looser rules: any
blanks may follow the hyphens of a fence, blank lines after the first one are left aside, and there
must be a line end after the last one, but nothing before the first.
-/

namespace Toolshed.Frontmatter

open Text

/-! ### Blank lines -/

/-- What follows the blank lines at the front of a text stands behind blanks and a line feed. -/
theorem mem_afterBlankLines {cs text : List Char} :
  text ∈ afterBlankLines cs ↔ ∃ ws, cs = ws ++ '\n' :: text ∧ ∀ c ∈ ws, isBlank c = true
  := by
  induction cs with
  | nil => simp [afterBlankLines]
  | cons c cs ih =>
      rw [afterBlankLines]
      constructor
      · intro among
        split at among
        · next blank =>
            rcases List.mem_append.mp among with among | among
            · obtain ⟨ws, rfl, blanks⟩ := ih.mp among
              use c :: ws, rfl
              rw [List.forall_mem_cons]
              use blank
            · split at among
              · next feed =>
                  rw [List.mem_singleton.mp among, feed]
                  use []
                  simp
              · cases among
        · cases among
      · rintro ⟨ws, same, blanks⟩
        rcases ws with _ | ⟨d, ws⟩
        · obtain ⟨rfl, rfl⟩ := List.cons.inj same
          rw [if_pos (by decide), if_pos rfl]
          apply List.mem_append_right _ (List.mem_singleton_self _)
        · obtain ⟨rfl, rfl⟩ := List.cons.inj same
          rw [List.forall_mem_cons] at blanks
          rw [if_pos blanks.1]
          apply List.mem_append_left
          apply ih.mpr
          use ws, rfl, blanks.2

/-- Nothing follows a blank line at the front if and only if the blanks there hold no line feed. -/
theorem afterBlankLines_eq_nil_iff {cs : List Char} :
  afterBlankLines cs = [] ↔ '\n' ∉ cs.takeWhile isBlank
  := by
  rw [List.eq_nil_iff_forall_not_mem]
  constructor
  · intro unfollowed among
    obtain ⟨ws, others, split⟩ := List.append_of_mem among
    apply unfollowed (others ++ cs.dropWhile isBlank)
    apply mem_afterBlankLines.mpr
    use ws
    constructor
    · rw [← List.cons_append, ← List.append_assoc, ← split, List.takeWhile_append_dropWhile]
    · intro c among
      apply List.mem_takeWhile_imp (l := cs)
      rw [split]
      apply List.mem_append_left _ among
  · intro free text among
    obtain ⟨ws, rfl, blank⟩ := mem_afterBlankLines.mp among
    apply free
    rw [List.takeWhile_append_of_pos blank, List.takeWhile_cons_of_pos (by decide)]
    simp

/-- Of what follows the blank lines at the front, that is taken where a reader succeeds behind most
of them. -/
theorem findSome?_afterBlankLines {α : Type} {read? : List Char → Option α}
    {cs : List Char} {a : α} :
  (afterBlankLines cs).findSome? read? = some a ↔ ∃ ws text, cs = ws ++ '\n' :: text
    ∧ (∀ c ∈ ws, isBlank c = true) ∧ read? text = some a
    ∧ ∀ later ∈ afterBlankLines text, read? later = none
  := by
  induction cs with
  | nil => simp [afterBlankLines]
  | cons c cs ih =>
      by_cases blank : isBlank c = true
      · rw [afterBlankLines, if_pos blank, List.findSome?_append, Option.or_eq_some_iff, ih]
        constructor
        · rintro (⟨ws, text, rfl, blanks, found, unread⟩ | ⟨unread, found⟩)
          · refine ⟨c :: ws, text, rfl, ?_, found, unread⟩
            rw [List.forall_mem_cons]
            use blank
          · split at found
            · next feed =>
                refine ⟨[], cs, by rw [feed]; rfl, by simp, by simpa using found, ?_⟩
                apply List.findSome?_eq_none_iff.mp unread
            · cases found
        · rintro ⟨ws, text, same, blanks, found, unread⟩
          rcases ws with _ | ⟨d, ws⟩
          · obtain ⟨rfl, rfl⟩ := List.cons.inj same
            right
            use List.findSome?_eq_none_iff.mpr unread
            simpa using found
          · obtain ⟨rfl, rfl⟩ := List.cons.inj same
            left
            rw [List.forall_mem_cons] at blanks
            use ws, text, rfl, blanks.2, found
      · rw [afterBlankLines, if_neg blank]
        constructor
        · intro found
          cases found
        · rintro ⟨ws, text, same, blanks, -, -⟩
          rcases ws with _ | ⟨d, ws⟩
          · cases blank (by rw [(List.cons.inj same).1]; decide)
          · cases blank (by rw [(List.cons.inj same).1]; apply blanks d List.mem_cons_self)

/-! ### Loose fences -/

/-- No line of a text but the first is a loose fence, with nothing but blanks up to its end. -/
def IsOpen (cs : List Char) : Prop :=
  ∀ front ws more, cs = front ++ '\n' :: '-' :: '-' :: '-' :: (ws ++ '\n' :: more) → '\n' ∉ ws →
    ¬ ∀ c ∈ ws, isBlank c = true

/-- A loose fence stands on a line with nothing but blanks after its hyphens, and the line ends. -/
theorem exists_of_afterLooseClosing? {cs rest : List Char} (h : afterLooseClosing? cs = some rest) :
  ∃ ws more, cs = '\n' :: '-' :: '-' :: '-' :: (ws ++ '\n' :: more) ∧ '\n' ∉ ws
    ∧ ∀ c ∈ ws, isBlank c = true
  := by
  obtain ⟨text, started, first⟩ := Option.bind_eq_some_iff.mp h
  obtain ⟨ws, rfl, blank⟩ := mem_afterBlankLines.mp (List.mem_of_mem_head? first)
  obtain ⟨line, -, between, -, rfl, free, ends⟩ := exists_cutAll_cons '\n' ws
  obtain ⟨more, next⟩ := Closing.exists_feed_cons ends rest
  use line, more
  rw [afterStart?_eq_some.mp started, List.append_assoc, next]
  use rfl, free
  intro c among
  apply blank c (List.mem_append_left _ among)

theorem afterLooseClosing?_ne_none {ws : List Char} (blank : ∀ c ∈ ws, isBlank c = true)
    (more : List Char) :
  afterLooseClosing? ('\n' :: '-' :: '-' :: '-' :: (ws ++ '\n' :: more)) ≠ none
  := by
  have among : more ∈ afterBlankLines (ws ++ '\n' :: more) := by
    apply mem_afterBlankLines.mpr
    use ws
  change (afterBlankLines (ws ++ '\n' :: more)).head? ≠ none
  rw [ne_eq, List.head?_eq_none_iff]
  apply List.ne_nil_of_mem among

/-- A text is not cut where a reader succeeds nowhere in it. -/
theorem cutWhere?_eq_none {close? : List Char → Option (List Char)} {cs : List Char} :
  cutWhere? close? cs = none ↔ ∀ tail, tail <:+ cs → close? tail = none
  := by
  induction cs with
  | nil => simp [cutWhere?]
  | cons c cs ih =>
      have next : cutWhere? close? (c :: cs) = none
          ↔ close? (c :: cs) = none ∧ cutWhere? close? cs = none := by
        rw [cutWhere?]
        split
        · next closed => simp [closed]
        · next open' => simp [open']
      rw [next, ih]
      constructor
      · rintro ⟨here, later⟩ tail suffix
        rcases List.suffix_cons_iff.mp suffix with rfl | suffix
        · apply here
        · apply later tail suffix
      · intro unclosed
        constructor
        · apply unclosed _ List.suffix_rfl
        · intro tail suffix
          apply unclosed tail (suffix.trans (List.suffix_cons c cs))

theorem isOpen_iff {cs : List Char} :
  IsOpen cs ↔ cutWhere? afterLooseClosing? cs = none
  := by
  rw [cutWhere?_eq_none]
  constructor
  · rintro isOpen tail ⟨front, rfl⟩
    rw [Option.eq_none_iff_forall_ne_some]
    intro rest closed
    obtain ⟨ws, more, rfl, free, blank⟩ := exists_of_afterLooseClosing? closed
    apply isOpen front ws more rfl free blank
  · rintro unclosed front ws more rfl - blank
    apply afterLooseClosing?_ne_none blank more
    apply unclosed
    apply List.suffix_append

/-- A text is cut at the first loose fence after its first line. -/
theorem cutWhere?_afterLooseClosing? {cs block : List Char} :
  (cutWhere? afterLooseClosing? cs).map Prod.fst = some block ↔ ∃ gap rest,
    cs = block ++ '\n' :: '-' :: '-' :: '-' :: (gap ++ '\n' :: rest) ∧ '\n' ∉ gap
    ∧ (∀ c ∈ gap, isBlank c = true) ∧ IsOpen (block ++ ['\n'])
  := by
  rw [Option.map_eq_some_iff]
  constructor
  · rintro ⟨⟨block, rest⟩, cut, rfl⟩
    obtain ⟨tail, rfl, closed, unclosed⟩ := cutWhere?_eq_some.mp cut
    obtain ⟨gap, rest, rfl, free, blank⟩ := exists_of_afterLooseClosing? closed
    refine ⟨gap, rest, rfl, free, blank, ?_⟩
    intro front ws more same _ blank'
    rcases List.eq_nil_or_concat ('\n' :: '-' :: '-' :: '-' :: (ws ++ '\n' :: more))
      with empty | ⟨back, d, fence⟩
    · cases empty
    · have halves : block ++ ['\n'] = front ++ back ++ [d] := by
        rw [same, fence, List.concat_eq_append, List.append_assoc]
      obtain ⟨rfl, last⟩ := List.append_inj' halves rfl
      apply afterLooseClosing?_ne_none blank' (more ++ '-' :: '-' :: '-' :: (gap ++ '\n' :: rest))
      have whole : '\n' :: '-' :: '-' :: '-' ::
          (ws ++ '\n' :: (more ++ '-' :: '-' :: '-' :: (gap ++ '\n' :: rest)))
          = back ++ '\n' :: '-' :: '-' :: '-' :: (gap ++ '\n' :: rest) := by
        have front' := congrArg (· ++ '-' :: '-' :: '-' :: (gap ++ '\n' :: rest)) fence
        simpa [← List.singleton_inj.mp last] using front'
      rw [whole]
      apply unclosed back (List.suffix_append front back)
      rintro rfl
      cases (List.cons.inj fence).2
  · rintro ⟨gap, rest, rfl, free, blank, isOpen⟩
    obtain ⟨rest', closed⟩ := Option.ne_none_iff_exists'.mp (afterLooseClosing?_ne_none blank rest)
    refine ⟨(block, rest'), ?_, rfl⟩
    apply cutWhere?_eq_some.mpr
    refine ⟨_, rfl, closed, ?_⟩
    rintro back ⟨front, rfl⟩ nonempty
    rw [Option.eq_none_iff_forall_ne_some]
    intro rest'' closed'
    obtain ⟨ws, more, same, free', blank'⟩ := exists_of_afterLooseClosing? closed'
    rcases back with _ | ⟨b, back⟩
    · cases nonempty rfl
    · obtain ⟨rfl, line⟩ := List.cons.inj same
      have free'' : '\n' ∉ '-' :: '-' :: '-' :: ws := by
        simpa using free'
      have line' : back ++ '\n' :: '-' :: '-' :: '-' :: (gap ++ '\n' :: rest)
          = '-' :: '-' :: '-' :: ws ++ '\n' :: more := line
      obtain ⟨between, rfl, -, ends⟩ := exists_append_of_cut free'' line'
      obtain ⟨more', next⟩ := Closing.exists_feed_cons ends []
      apply isOpen front ws more' _ free' blank'
      simp [next]

/-! ### The block between loose fences -/

/-- The block that the looser rules give an entry.  Its first line is not blank, unless all of it is
and there is no loose fence after the one that closes it. -/
def IsLooseBlock (content block : List Char) : Prop :=
  ∃ ws gap rest, content = '-' :: '-' :: '-' ::
      (ws ++ '\n' :: (block ++ '\n' :: '-' :: '-' :: '-' :: (gap ++ '\n' :: rest)))
    ∧ (∀ c ∈ ws, isBlank c = true) ∧ (∀ c ∈ gap, isBlank c = true) ∧ '\n' ∉ gap
    ∧ IsOpen (block ++ ['\n']) ∧ '\n' ∉ block.takeWhile isBlank
    ∧ ((∀ c ∈ block, isBlank c = true) → IsOpen ('\n' :: rest))

/-- A line feed is passed over in front of a fence that closes a block. -/
theorem isOpen_fence {gap rest : List Char} (free : '\n' ∉ gap) :
  IsOpen ('-' :: '-' :: '-' :: (gap ++ '\n' :: rest)) ↔ IsOpen ('\n' :: rest)
  := by
  have free' : '\n' ∉ '-' :: '-' :: '-' :: gap := by
    simpa using free
  constructor
  · intro isOpen front ws more same
    apply isOpen ('-' :: '-' :: '-' :: (gap ++ front)) ws more
    rw [same]
    simp
  · intro isOpen front ws more same
    have cut : front ++ '\n' :: '-' :: '-' :: '-' :: (ws ++ '\n' :: more)
        = '-' :: '-' :: '-' :: gap ++ '\n' :: rest := same.symm
    obtain ⟨between, -, after, -⟩ := exists_append_of_cut free' cut
    apply isOpen between ws more after

/-- What comes behind the blank lines at the front is tried in vain if and only if the block begins
on its first line. -/
theorem forall_afterBlankLines_iff {block gap rest : List Char} (free : '\n' ∉ gap)
    (blank : ∀ c ∈ gap, isBlank c = true) :
  (∀ text ∈ afterBlankLines (block ++ '\n' :: '-' :: '-' :: '-' :: (gap ++ '\n' :: rest)),
      (cutWhere? afterLooseClosing? text).map Prod.fst = none)
    ↔ '\n' ∉ block.takeWhile isBlank ∧ ((∀ c ∈ block, isBlank c = true) → IsOpen ('\n' :: rest))
  := by
  simp only [Option.map_eq_none_iff, ← isOpen_iff]
  constructor
  · intro tried
    constructor
    · rw [← afterBlankLines_eq_nil_iff, List.eq_nil_iff_forall_not_mem]
      intro back among
      obtain ⟨ws, rfl, passed⟩ := mem_afterBlankLines.mp among
      apply tried (back ++ '\n' :: '-' :: '-' :: '-' :: (gap ++ '\n' :: rest)) _
        back gap rest rfl free blank
      apply mem_afterBlankLines.mpr
      refine ⟨ws, ?_, passed⟩
      simp
    · intro blanks
      apply (isOpen_fence free).mp
      apply tried
      apply mem_afterBlankLines.mpr
      use block
  · rintro ⟨onFirst, isOpen⟩ text among
    obtain ⟨ws, whole, passed⟩ := mem_afterBlankLines.mp among
    rw [← afterBlankLines_eq_nil_iff, List.eq_nil_iff_forall_not_mem] at onFirst
    rcases List.append_eq_append_iff.mp whole with ⟨between, rfl, after⟩ | ⟨between, rfl, after⟩
    · rcases between with _ | ⟨c, between⟩
      · rw [← (List.cons.inj after).2]
        apply (isOpen_fence free).mpr
        apply isOpen (by simpa using passed)
      · -- the fence that closes the block does not begin with a blank
        have next := (List.cons.inj after).2
        rcases between with _ | ⟨d, between⟩
        · cases (List.cons.inj next).1
        · have hyphen := passed d (by simp)
          rw [← (List.cons.inj next).1] at hyphen
          cases hyphen
    · rcases between with _ | ⟨c, between⟩
      · rw [(List.cons.inj after).2]
        apply (isOpen_fence free).mpr
        apply isOpen (by simpa using passed)
      · cases (List.cons.inj after).1
        cases onFirst between (mem_afterBlankLines.mpr ⟨ws, rfl, passed⟩)

theorem looseBlock?_eq_some_iff {content block : List Char} :
  looseBlock? content = some block ↔ IsLooseBlock content block
  := by
  have found : looseBlock? content = some block ↔ ∃ rest, content = '-' :: '-' :: '-' :: rest
      ∧ ((afterBlankLines rest).findSome? fun text =>
        (cutWhere? afterLooseClosing? text).map Prod.fst) = some block := by
    rw [looseBlock?, Option.bind_eq_bind, Option.bind_eq_some_iff]
    simp only [afterStart?_eq_some]
    rfl
  rw [found]
  constructor
  · rintro ⟨rest, rfl, first⟩
    obtain ⟨ws, text, rfl, blank, cut, unread⟩ := findSome?_afterBlankLines.mp first
    obtain ⟨gap, rest, rfl, free, blank', isOpen⟩ := cutWhere?_afterLooseClosing?.mp cut
    refine ⟨ws, gap, rest, rfl, blank, blank', free, isOpen, ?_⟩
    apply (forall_afterBlankLines_iff free blank').mp unread
  · rintro ⟨ws, gap, rest, rfl, blank, blank', free, isOpen, begins⟩
    refine ⟨_, rfl, ?_⟩
    apply findSome?_afterBlankLines.mpr
    refine ⟨ws, _, rfl, blank, ?_, ?_⟩
    · apply cutWhere?_afterLooseClosing?.mpr
      use gap, rest
    · apply (forall_afterBlankLines_iff free blank').mpr begins

end Toolshed.Frontmatter
