import Toolshed.Proofs.Frontmatter.LooseBlock

/-!
# What identifies an entry

The block by the looser rules is that of the entry, but for the blank lines at its front and the
carriage return at its end, if it has one by these rules at all and no line is a fence by them only.
So the members of both blocks are the same where these do not matter.
-/

namespace Toolshed.Frontmatter

open Text

/-! ### Entries with the same fences by both rules -/

/-- The lines with hyphens and nothing but blanks after them are fences. -/
def IsRegular (content : List Char) : Prop :=
  ∀ ws, '-' :: '-' :: '-' :: ws ∈ cutAll '\n' content → (∀ c ∈ ws, isBlank c = true) →
    IsFence ('-' :: '-' :: '-' :: ws)

/-- A block without the blank lines in front. -/
def core (block : List Char) : List Char :=
  (afterBlankLines block).head?.getD block

/-- Together with the line feed before it, a block is blank lines and its core, which begins on its
first line. -/
theorem exists_core (block : List Char) :
  ∃ ws, '\n' :: block = ws ++ '\n' :: core block ∧ (∀ c ∈ ws, isBlank c = true)
    ∧ '\n' ∉ (core block).takeWhile isBlank
  := by
  rcases first : (afterBlankLines block).head? with _ | text
  · use []
    rw [core, first, Option.getD_none, ← afterBlankLines_eq_nil_iff]
    use rfl, by simp
    apply List.head?_eq_none_iff.mp first
  · have found : (afterBlankLines block).findSome? some = some text := by
      rcases texts : afterBlankLines block with _ | ⟨later, others⟩
      · rw [texts] at first
        cases first
      · rw [texts] at first
        exact first
    obtain ⟨ws, text', parts, blank, same, unfollowed⟩ := findSome?_afterBlankLines.mp found
    cases same
    use '\n' :: ws
    rw [core, first, Option.getD_some, ← afterBlankLines_eq_nil_iff, List.forall_mem_cons]
    use by rw [parts]; rfl, ⟨by decide, blank⟩
    rw [List.eq_nil_iff_forall_not_mem]
    intro later among
    cases unfollowed later among

theorem IsGap.feed_not_mem {gap : List Char} (isGap : IsGap gap) :
  '\n' ∉ gap
  := by
  intro among
  rcases isGap _ among with same | same <;> cases same

theorem IsGap.isBlank {gap : List Char} (isGap : IsGap gap) :
  ∀ c ∈ gap, isBlank c = true
  := by
  intro c among
  rcases isGap c among with rfl | rfl <;> decide

theorem LineEnd.feed_not_mem_returns (e : LineEnd) :
  '\n' ∉ e.returns
  := by
  cases e <;> decide

theorem LineEnd.isBlank_returns (e : LineEnd) :
  ∀ c ∈ e.returns, isBlank c = true
  := by
  rw [← List.all_eq_true]
  cases e <;> decide

section

variable {e : Enclosure} {block body : List Char}

/-- The text after the blanks and the hyphens of an entry. -/
theorem Enclosure.compose_eq (e : Enclosure) (block body : List Char) :
  e.compose block body = e.blanks ++ '-' :: '-' :: '-' ::
    (e.gap ++ e.opening.returns ++ '\n' :: (block ++ e.closing.lineEnd.returns ++
      '\n' :: '-' :: '-' :: '-' :: (e.closing.gap ++ (finishText e.closing.finish ++ body))))
  := by
  simp [Enclosure.compose, Closing.text, LineEnd.text]

/-- Entries that begin with a fence and have a line end after the one that closes the block. -/
def Enclosure.IsTight (e : Enclosure) : Prop :=
  e.blanks = [] ∧ e.closing.finish ≠ none

/-- The block and the body of a regular entry are those that it is composed of; a fence in the body
stands behind a block that is not blank. -/
structure Enclosure.Separates (e : Enclosure) (block body : List Char) : Prop where
  fits : e.closing.Fits body
  ends : e.closing.Ends block
  regular : IsRegular (e.compose block body)
  unfenced : (∀ c ∈ block, Text.isBlank c = true) → ∀ line ∈ cutAll '\n' body, ¬ IsFence line

/-- In a regular entry, no line up to the fence that closes the block is a loose one. -/
theorem IsRegular.isOpen {back : List Char} (regular : IsRegular (e.compose block body))
    (ends : e.closing.Ends block) (suffix : back <:+ block ++ e.closing.lineEnd.returns) :
  IsOpen (back ++ ['\n'])
  := by
  intro front ws more same free blank
  have free' : '\n' ∉ '-' :: '-' :: '-' :: ws := by
    simpa using free
  obtain ⟨before, whole⟩ := suffix
  have same' : back ++ '\n' :: [] = front ++ '\n' :: '-' :: '-' :: '-' :: ws ++ '\n' :: more := by
    simpa using same
  obtain ⟨between, rfl, ends'⟩ := exists_append_of_last_cut (by simp) same'
  apply ends.unfenced ('-' :: '-' :: '-' :: ws)
  · apply mem_tail_cutAll.mpr
    refine ⟨before ++ front, between, ?_, free', ends'⟩
    rw [← whole]
    simp
  · apply regular ws _ blank
    apply mem_cutAll.mpr
    obtain ⟨more', next⟩ := Closing.exists_feed_cons ends' ('-' :: '-' :: '-' ::
      (e.closing.gap ++ (finishText e.closing.finish ++ body)))
    refine ⟨'\n' :: (e.blanks ++ '-' :: '-' :: '-' :: (e.gap ++ e.opening.returns ++ '\n' ::
      (before ++ front))), '\n' :: more', ?_, free', by simp⟩
    rw [e.compose_eq, ← whole, ← next]
    simp

/-- The blanks at the front of a block end in it, or it is blank. -/
theorem feed_not_mem_takeWhile_append {block returns : List Char}
    (onFirst : '\n' ∉ block.takeWhile isBlank) (free : '\n' ∉ returns) :
  '\n' ∉ (block ++ returns).takeWhile isBlank
  := by
  rw [List.takeWhile_append]
  split
  · next all =>
      rw [List.mem_append, not_or]
      constructor
      · rw [(List.takeWhile_prefix isBlank).eq_of_length all] at onFirst
        apply onFirst
      · intro among
        apply free (List.takeWhile_subset _ among)
  · apply onFirst

/-- A regular entry that begins with a fence, and has a line end after the one that closes its
block, has that block by both rules, apart from the blank lines in front and a carriage return at
its end. -/
theorem isLooseBlock_compose (separates : e.Separates block body) (tight : e.IsTight) :
  IsLooseBlock (e.compose block body) (core block ++ e.closing.lineEnd.returns)
  := by
  obtain ⟨bare, finished⟩ := tight
  obtain ⟨f, finish⟩ := Option.ne_none_iff_exists'.mp finished
  obtain ⟨ws, whole, blank, onFirst⟩ := exists_core block
  obtain ⟨lead, whole'⟩ : core block <:+ block := by
    have suffix : '\n' :: core block <:+ '\n' :: block := by
      rw [whole]
      apply List.suffix_append
    rcases List.suffix_cons_iff.mp suffix with same | suffix
    · use []
      apply (List.cons.inj same).2
    · apply (List.suffix_cons '\n' (core block)).trans suffix
  refine ⟨e.gap ++ e.opening.returns ++ ws, e.closing.gap ++ f.returns, body,
    ?_, ?_, ?_, ?_, ?_, ?_, ?_⟩
  · have parts (rest : List Char) : '\n' :: (block ++ rest)
        = ws ++ '\n' :: (core block ++ rest) := by
      rw [← List.cons_append, whole]
      simp
    rw [e.compose_eq, bare, finish, List.append_assoc block, parts]
    simp [finishText, LineEnd.text]
  · rw [List.forall_mem_append, List.forall_mem_append]
    use ⟨e.isGap.isBlank, e.opening.isBlank_returns⟩
  · apply List.forall_mem_append.mpr ⟨e.closing.isGap.isBlank, f.isBlank_returns⟩
  · rw [List.mem_append, not_or]
    use e.closing.isGap.feed_not_mem
    apply f.feed_not_mem_returns
  · apply separates.regular.isOpen separates.ends
    use lead
    rw [← List.append_assoc, whole']
  · apply feed_not_mem_takeWhile_append onFirst e.closing.lineEnd.feed_not_mem_returns
  · intro blanks front ws' more same free blank'
    have free' : '\n' ∉ '-' :: '-' :: '-' :: ws' := by
      simpa using free
    apply separates.unfenced _ ('-' :: '-' :: '-' :: ws')
    · apply mem_cutAll.mpr ⟨front, '\n' :: more, same, free', by simp⟩
    · apply separates.regular ws' _ blank'
      apply mem_cutAll.mpr
      refine ⟨'\n' :: (e.blanks ++ '-' :: '-' :: '-' :: (e.gap ++ e.opening.returns ++ '\n' ::
        (block ++ e.closing.lineEnd.returns ++ '\n' :: '-' :: '-' :: '-' ::
          (e.closing.gap ++ f.returns)))) ++ front, '\n' :: more, ?_, free', by simp⟩
      have line : '\n' :: body = front ++ '\n' :: ('-' :: '-' :: '-' :: ws' ++ '\n' :: more) := same
      rw [List.append_assoc, ← line, e.compose_eq, finish]
      simp [finishText, LineEnd.text]
    · intro c among
      have among' : c ∈ '\n' :: block := List.mem_cons_of_mem _ among
      rw [whole, List.mem_append, List.mem_cons] at among'
      rcases among' with among' | rfl | among'
      · apply blank c among'
      · decide
      · apply blanks c (List.mem_append_left _ among')

/-- A regular entry with something in front of its first fence, or nothing behind the last one, has
no block by the looser rules. -/
theorem isTight_of_isLooseBlock {block' : List Char} (separates : e.Separates block body)
    (loose : IsLooseBlock (e.compose block body) block') :
  e.IsTight
  := by
  obtain ⟨ws, gap, rest, same, blank, blank', free, -⟩ := loose
  have bare : e.blanks = [] := by
    rcases blanks : e.blanks with _ | ⟨b, blanks⟩
    · rfl
    · rw [e.compose_eq, blanks] at same
      have first := e.isBlank b (by rw [blanks]; apply List.mem_cons_self)
      rw [(List.cons.inj same).1] at first
      cases first
  use bare
  intro unfinished
  have opened : '\n' ∉ '-' :: '-' :: '-' :: (e.gap ++ e.opening.returns) := by
    simpa using ⟨e.isGap.feed_not_mem, e.opening.feed_not_mem_returns⟩
  have closed : '\n' ∉ '-' :: '-' :: '-' :: e.closing.gap := by
    simpa using e.closing.isGap.feed_not_mem
  have fence : '\n' ∉ '-' :: '-' :: '-' :: gap := by
    simpa using free
  have composed : '-' :: '-' :: '-' :: ws ++ '\n' :: (block' ++ '\n' :: ('-' :: '-' :: '-' :: gap ++
      '\n' :: rest)) = '-' :: '-' :: '-' :: (e.gap ++ e.opening.returns) ++ '\n' ::
        (block ++ e.closing.lineEnd.returns ++ '\n' :: '-' :: '-' :: '-' :: e.closing.gap) := by
    have same' := same.symm
    rw [e.compose_eq, bare, unfinished, separates.fits unfinished] at same'
    simpa [finishText] using same'
  obtain ⟨between, -, after, -⟩ := exists_append_of_cut opened composed
  obtain ⟨lines, whole⟩ : block' ++ '\n' :: ('-' :: '-' :: '-' :: gap ++ '\n' :: rest)
      <:+ block ++ e.closing.lineEnd.returns ++ '\n' :: '-' :: '-' :: '-' :: e.closing.gap := by
    apply suffix_of_cons_eq after
  have whole' : block ++ e.closing.lineEnd.returns ++ '\n' :: '-' :: '-' :: '-' :: e.closing.gap
      = lines ++ block' ++ '\n' :: '-' :: '-' :: '-' :: gap ++ '\n' :: rest := by
    rw [← whole]
    simp
  obtain ⟨between', last, ends'⟩ := exists_append_of_last_cut closed whole'
  apply separates.ends.unfenced ('-' :: '-' :: '-' :: gap)
  · apply mem_tail_cutAll.mpr
    refine ⟨lines ++ block', between', ?_, fence, ends'⟩
    rw [last]
    simp
  · apply separates.regular gap _ blank'
    apply mem_cutAll.mpr
    refine ⟨'\n' :: '-' :: '-' :: '-' :: (ws ++ '\n' :: block'), '\n' :: rest, ?_, fence, by simp⟩
    rw [same]
    simp

end

/-- A regular entry without a block has none by the looser rules. -/
theorem not_isLooseBlock_of_split {content block : List Char} (regular : IsRegular content)
    (unfenced : (split content).1 = none) :
  ¬ IsLooseBlock content block
  := by
  rintro ⟨ws, gap, rest, rfl, blank, blank', free, -⟩
  have fence : '\n' ∉ '-' :: '-' :: '-' :: gap := by
    simpa using free
  obtain ⟨line, -, between, -, rfl, free', ends⟩ := exists_cutAll_cons '\n' ws
  obtain ⟨more, next⟩ := Closing.exists_feed_cons ends
    (block ++ '\n' :: '-' :: '-' :: '-' :: (gap ++ '\n' :: rest))
  have first : '\n' ∉ '-' :: '-' :: '-' :: line := by
    simpa using free'
  have opened : IsFence ('-' :: '-' :: '-' :: line) := by
    apply regular line _ fun c among => blank c (List.mem_append_left _ among)
    apply mem_cutAll.mpr
    refine ⟨[], '\n' :: more, ?_, first, by simp⟩
    rw [List.append_assoc, next]
    rfl
  have closed : IsFence ('-' :: '-' :: '-' :: gap) := by
    apply regular gap _ blank'
    apply mem_cutAll.mpr
    refine ⟨'\n' :: '-' :: '-' :: '-' :: (line ++ between ++ '\n' :: block), '\n' :: rest, ?_,
      fence, by simp⟩
    simp
  obtain ⟨gap₁, isGap₁, e₁, same₁⟩ := opened
  obtain ⟨gap₂, isGap₂, e₂, same₂⟩ := closed
  rcases cut : cutWhere? afterClosing? more with _ | ⟨block', body⟩
  · have open' := cutWhere?_eq_none.mp cut ('\n' :: '-' :: '-' :: '-' :: (gap ++ '\n' :: rest))
      ((List.suffix_append block _).trans (suffix_of_cons_eq next.symm))
    have closed : afterClosing? ('\n' :: '-' :: '-' :: '-' :: (gap ++ '\n' :: rest))
        = some rest := by
      apply afterClosing?_eq_some.mpr
      use .feed, gap₂, some e₂
      constructor
      · have feed : LineEnd.feed.text = ['\n'] := rfl
        have line := congrArg (fun line => '\n' :: (line ++ '\n' :: rest)) same₂
        rw [feed]
        simpa [LineEnd.text, finishText] using line
      · use isGap₂
        intro missing
        cases missing
    rw [open'] at closed
    cases closed
  · obtain ⟨c, whole, fits, ends'⟩ := cutWhere?_afterClosing?.mp cut
    have parted : split ('-' :: '-' :: '-' :: (line ++ between ++ '\n' ::
        (block ++ '\n' :: '-' :: '-' :: '-' :: (gap ++ '\n' :: rest)))) = (some block', body) := by
      apply split_eq_some_iff.mpr
      refine ⟨⟨[], gap₁, e₁, c, by simp, isGap₁⟩, ?_, fits, ends'⟩
      have opening := congrArg (· ++ '\n' :: more) same₁
      rw [List.append_assoc, next]
      simpa [Enclosure.compose, LineEnd.text, ← whole] using opening
    rw [parted] at unfenced
    cases unfenced

/-! ### The members of both blocks -/

/-- The members of the mapping that a block holds. -/
def members (block : List Char) : Json.Fields :=
  match Yaml.parse? block with
  | some (.object members) => members
  | _ => []

/-- The fields of an entry, where it has any, are the members of its block. -/
theorem members_of_fields {content : List Char} {fields' : Json.Fields}
    (ok : fields content = .ok fields') :
  fields' = ((split content).1.map members).getD []
  := by
  unfold fields at ok
  split at ok
  · next unfenced =>
      cases ok
      rw [unfenced]
      rfl
  · next block fenced =>
      rw [fenced, Option.map_some, Option.getD_some, members]
      split at ok
      · cases ok
      · next v parsed =>
          split at ok
          · next mapped =>
              cases ok
              rw [parsed]
              cases v <;> cases mapped <;> rfl
          · cases ok

theorem identity_eq (content : List Char) :
  identity content = ((looseBlock? content).map members).getD []
  := by
  rw [identity]
  rcases looseBlock? content with _ | block
  · rfl
  · rfl

/-- The fields that identify an entry are those of the block by the looser rules. -/
theorem identity_eq_iff {content : List Char} {fields' : Json.Fields} :
  identity content = fields' ↔ (∃ block, IsLooseBlock content block ∧ members block = fields')
    ∨ (∀ block, ¬ IsLooseBlock content block) ∧ fields' = []
  := by
  simp only [← looseBlock?_eq_some_iff, identity_eq]
  rcases looseBlock? content with _ | block
  · simp [eq_comm]
  · simp

/-- A regular entry is identified by its block if it is tight, and by nothing otherwise. -/
theorem identity_compose_iff {e : Enclosure} {block body : List Char}
    (separates : e.Separates block body) {fields' : Json.Fields} :
  identity (e.compose block body) = fields'
    ↔ (e.IsTight → members (core block ++ e.closing.lineEnd.returns) = fields')
      ∧ (¬ e.IsTight → fields' = [])
  := by
  rw [identity_eq]
  by_cases tight : e.IsTight
  · rw [looseBlock?_eq_some_iff.mpr (isLooseBlock_compose separates tight)]
    simp [tight]
  · have missing : looseBlock? (e.compose block body) = none := by
      rw [Option.eq_none_iff_forall_ne_some]
      intro block' found
      apply tight (isTight_of_isLooseBlock separates (looseBlock?_eq_some_iff.mp found))
    rw [missing]
    simp [tight, eq_comm]

/-- A regular entry without a block is identified by nothing. -/
theorem identity_of_split {content : List Char} (regular : IsRegular content)
    (unfenced : (split content).1 = none) :
  identity content = []
  := by
  apply identity_eq_iff.mpr
  right
  use fun block => not_isLooseBlock_of_split regular unfenced

end Toolshed.Frontmatter
