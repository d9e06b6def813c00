import Toolshed.Frontmatter
import Toolshed.Proofs.Text.Blanks

/-!
# Blocks between fences

The block of an entry is what stands between its first fence and the next line that is one.  So an
entry that is put together from a block and a body is taken apart into them, whatever its line ends
are, unless a later line of the block is a fence itself.  Whatever is taken apart has been put
together in this way, and nothing of it is lost.
-/

namespace Toolshed.Frontmatter

open Text

/-! ### Fences -/

/-- The end of a line. -/
inductive LineEnd where
  | feed
  | returnFeed
deriving DecidableEq

namespace LineEnd

/-- What stands before the line feed. -/
def returns : LineEnd → List Char
  | feed => []
  | returnFeed => ['\r']

/-- The characters of a line end. -/
def text (e : LineEnd) : List Char :=
  e.returns ++ ['\n']

end LineEnd

/-- What may stand on a line after the hyphens of a fence. -/
def IsGap (cs : List Char) : Prop :=
  ∀ c ∈ cs, c = ' ' ∨ c = '\t'

/-- A line that is a fence, with the carriage return that may end it. -/
def IsFence (line : List Char) : Prop :=
  ∃ gap, IsGap gap ∧ ∃ e : LineEnd, line = '-' :: '-' :: '-' :: (gap ++ e.returns)

section

variable {cs rest : List Char}

theorem afterLineEnd?_eq_some :
  afterLineEnd? cs = some rest ↔ ∃ e : LineEnd, cs = e.text ++ rest
  := by
  constructor
  · intro found
    unfold afterLineEnd? at found
    split at found
    · cases found
      use .feed
      rfl
    · cases found
      use .returnFeed
      rfl
    · cases found
  · rintro ⟨e, rfl⟩
    cases e <;> rfl

theorem IsGap.stops {gap : List Char} (isGap : IsGap gap) :
  ∀ c ∈ gap, (c = ' ' || c = '\t') = true
  := by
  intro c among
  simpa using isGap c among

theorem LineEnd.stops (e : LineEnd) :
  Stops (fun c => c = ' ' || c = '\t') (e.text ++ rest)
  := by
  cases e <;> apply stops_cons (by decide)

theorem afterFence?_eq_some :
  afterFence? cs = some rest ↔ ∃ gap, IsGap gap ∧ cs = '-' :: '-' :: '-' :: (gap ++ rest)
    ∧ Stops (fun c => c = ' ' || c = '\t') rest
  := by
  rw [afterFence?, Option.map_eq_some_iff]
  constructor
  · rintro ⟨text, started, rfl⟩
    use text.takeWhile fun c => c = ' ' || c = '\t'
    constructor
    · intro c among
      simpa using List.mem_takeWhile_imp among
    · rw [List.takeWhile_append_dropWhile]
      use afterStart?_eq_some.mp started
      apply stops_dropWhile
  · rintro ⟨gap, isGap, rfl, ends⟩
    use gap ++ rest, rfl
    apply dropWhile_append_stops isGap.stops ends

/-- The characters after a fence that ends its line, or the text. -/
def finishText (finish : Option LineEnd) : List Char :=
  (finish.map LineEnd.text).getD []

theorem afterClosing?_eq_some {body : List Char} :
  afterClosing? cs = some body ↔ ∃ (e : LineEnd) (gap : List Char) (finish : Option LineEnd),
    cs = e.text ++ '-' :: '-' :: '-' :: (gap ++ (finishText finish ++ body)) ∧ IsGap gap
    ∧ (finish = none → body = [])
  := by
  constructor
  · intro found
    obtain ⟨line, ended, inLine⟩ := Option.bind_eq_some_iff.mp found
    obtain ⟨rest, fenced, finished⟩ := Option.bind_eq_some_iff.mp inLine
    obtain ⟨e, rfl⟩ := afterLineEnd?_eq_some.mp ended
    obtain ⟨gap, isGap, rfl, -⟩ := afterFence?_eq_some.mp fenced
    use e, gap
    rcases rest with _ | ⟨c, rest⟩
    · cases finished
      use none
      simp [finishText, isGap]
    · obtain ⟨e', same⟩ := afterLineEnd?_eq_some.mp finished
      use some e'
      rw [same]
      simp [finishText, isGap]
  · rintro ⟨e, gap, finish, rfl, isGap, fits⟩
    have ends : Stops (fun c => c = ' ' || c = '\t') (finishText finish ++ body) := by
      cases finish with
      | none =>
          rw [fits rfl]
          apply stops_nil
      | some e' => apply e'.stops
    rw [afterClosing?, afterLineEnd?_eq_some.mpr ⟨e, rfl⟩, Option.bind_eq_bind, Option.bind_some,
      afterFence?_eq_some.mpr ⟨gap, isGap, rfl, ends⟩, Option.bind_some]
    cases finish with
    | none =>
        rw [fits rfl]
        rfl
    | some e' => cases e' <;> rfl

end

/-! ### The first fence after a block -/

/-- A text is cut where a reader succeeds first. -/
theorem cutWhere?_eq_some {close? : List Char → Option (List Char)} {cs before rest : List Char} :
  cutWhere? close? cs = some (before, rest) ↔ ∃ tail, cs = before ++ tail ∧ close? tail = some rest
    ∧ ∀ back, back <:+ before → back ≠ [] → close? (back ++ tail) = none
  := by
  induction cs generalizing before with
  | nil =>
      rw [cutWhere?, Option.map_eq_some_iff]
      constructor
      · rintro ⟨rest', closed, same⟩
        cases same
        use [], rfl, closed
        intro back suffix nonempty
        cases nonempty (List.suffix_nil.mp suffix)
      · rintro ⟨tail, same, closed, -⟩
        obtain ⟨rfl, rfl⟩ := List.append_eq_nil_iff.mp same.symm
        use rest, closed
  | cons c cs ih =>
      rw [cutWhere?]
      split
      · next rest' closed =>
          constructor
          · intro same
            cases same
            use c :: cs, rfl, closed
            intro back suffix nonempty
            cases nonempty (List.suffix_nil.mp suffix)
          · rintro ⟨tail, same, closed', unclosed⟩
            rcases before with _ | ⟨b, before⟩
            · rw [List.nil_append] at same
              rw [← same, closed] at closed'
              rw [Option.some.inj closed']
            · have open' := unclosed (b :: before) List.suffix_rfl (List.cons_ne_nil b before)
              rw [← same, closed] at open'
              cases open'
      · next open' =>
          rw [Option.map_eq_some_iff]
          constructor
          · rintro ⟨⟨before', rest'⟩, cut, same⟩
            cases same
            obtain ⟨tail, rfl, closed, unclosed⟩ := ih.mp cut
            use tail, rfl, closed
            intro back suffix nonempty
            rcases List.suffix_cons_iff.mp suffix with rfl | suffix
            · apply open'
            · apply unclosed back suffix nonempty
          · rintro ⟨tail, same, closed, unclosed⟩
            rcases before with _ | ⟨b, before⟩
            · rw [List.nil_append] at same
              rw [← same, open'] at closed
              cases closed
            · obtain ⟨rfl, rfl⟩ := List.cons.inj same
              refine ⟨(before, rest), ih.mpr ⟨tail, rfl, closed, ?_⟩, rfl⟩
              intro back suffix nonempty
              apply unclosed back (suffix.trans (List.suffix_cons c before)) nonempty

/-- What closes a block: a line end and the fence on the next line. -/
structure Closing where
  lineEnd : LineEnd
  gap : List Char
  /-- There is none at the end of the text. -/
  finish : Option LineEnd
  isGap : IsGap gap

namespace Closing

/-- The text from the end of a block on. -/
def text (c : Closing) (body : List Char) : List Char :=
  c.lineEnd.text ++ '-' :: '-' :: '-' :: (c.gap ++ (finishText c.finish ++ body))

/-- A body may follow. -/
def Fits (c : Closing) (body : List Char) : Prop :=
  c.finish = none → body = []

/-- A block goes on up to what closes it: no line of it but the first is a fence, and no carriage
return at its end goes with the line feed after it. -/
structure Ends (c : Closing) (block : List Char) : Prop where
  unfenced : ∀ line ∈ (cutAll '\n' (block ++ c.lineEnd.returns)).tail, ¬ IsFence line
  unreturned : c.lineEnd = .feed → block.getLast? ≠ some '\r'

variable {c : Closing} {block body : List Char}

theorem afterClosing?_text (fits : c.Fits body) :
  afterClosing? (c.text body) = some body
  := by
  apply afterClosing?_eq_some.mpr
  use c.lineEnd, c.gap, c.finish, rfl, c.isGap, fits

theorem exists_feed_cons {rest : List Char} (ends : ∀ c ∈ rest.head?, c = '\n')
    (more : List Char) :
  ∃ more', rest ++ '\n' :: more = '\n' :: more'
  := by
  rcases rest with _ | ⟨c, rest⟩
  · use more
    rfl
  · use rest ++ '\n' :: more
    rw [List.cons_append, ends c rfl]

/-- What follows a line feed in a block and makes a fence of its line is a line of the block. -/
theorem isFence_of_closed {line rest more body' gap : List Char} {finish : Option LineEnd}
    (isGap : IsGap gap) (free : '\n' ∉ line) (ends : ∀ c ∈ rest.head?, c = '\n')
    (closed : line ++ (rest ++ '\n' :: more)
      = '-' :: '-' :: '-' :: (gap ++ (finishText finish ++ body')))
    (fits : finish = none → body' = []) :
  IsFence line
  := by
  have feedFree (e : LineEnd) : '\n' ∉ '-' :: '-' :: '-' :: (gap ++ e.returns) := by
    intro among
    simp only [List.mem_cons, List.mem_append] at among
    rcases among with same | same | same | among | among
    · cases same
    · cases same
    · cases same
    · rcases isGap _ among with same | same <;> cases same
    · cases e
      · cases among
      · cases List.mem_singleton.mp among
  obtain ⟨more', next⟩ := exists_feed_cons ends more
  rw [next] at closed
  cases finish with
  | none =>
      have among : '\n' ∈ line ++ '\n' :: more' := by simp
      rw [closed, fits rfl] at among
      cases feedFree .feed among
  | some e =>
      use gap, isGap, e
      have whole : '-' :: '-' :: '-' :: (gap ++ (finishText (some e) ++ body'))
          = '-' :: '-' :: '-' :: (gap ++ e.returns) ++ '\n' :: body' := by
        simp [finishText, LineEnd.text]
      rw [whole] at closed
      have cut := cutAt?_eq_some.mpr ⟨closed, feedFree e⟩
      rw [cutAt?_eq_some.mpr ⟨rfl, free⟩] at cut
      cases cut
      rfl

/-- A block that ends where it is closed is not closed before that. -/
theorem Ends.afterClosing?_eq_none (h : c.Ends block) {back : List Char} (suffix : back <:+ block)
    (nonempty : back ≠ []) :
  afterClosing? (back ++ c.text body) = none
  := by
  rw [Option.eq_none_iff_forall_ne_some]
  intro body' closed
  obtain ⟨e, gap, finish, same, isGap, fits⟩ := afterClosing?_eq_some.mp closed
  obtain ⟨front, rfl⟩ := suffix
  obtain ⟨back', rfl, rest⟩ : ∃ back', back = e.text ++ back' ∧ back' ++ c.text body
      = '-' :: '-' :: '-' :: (gap ++ (finishText finish ++ body')) := by
    rcases back with _ | ⟨b, back⟩
    · cases nonempty rfl
    · cases e with
      | feed =>
          simp only [LineEnd.text, LineEnd.returns, List.nil_append, List.cons_append,
            List.cons.injEq] at same
          use back, by rw [same.1]; rfl
          apply same.2
      | returnFeed =>
          simp only [LineEnd.text, LineEnd.returns, List.nil_append, List.cons_append,
            List.cons.injEq] at same
          rcases back with _ | ⟨b', back⟩
          · -- the carriage return would be read with the line feed that closes the block
            have isFeed : c.lineEnd = .feed := by
              have next := same.2
              rw [List.nil_append, text] at next
              rcases lineEnd : c.lineEnd with _ | _
              · rfl
              · rw [lineEnd] at next
                cases (List.cons.inj next).1
            cases h.unreturned isFeed (by simp [same.1])
          · rw [List.cons_append, List.cons.injEq] at same
            use back, by rw [same.1, same.2.1]; rfl
            apply same.2.2
  obtain ⟨line, others, after, parts, whole, free, ends⟩ := exists_cutAll_cons '\n'
    (back' ++ c.lineEnd.returns)
  apply h.unfenced line
  · apply mem_tail_cutAll.mpr
    use front ++ e.returns, after
    rw [← whole]
    constructor
    · simp [LineEnd.text]
    · use free
  · apply isFence_of_closed isGap free ends _ fits
    · exact '-' :: '-' :: '-' :: (c.gap ++ (finishText c.finish ++ body))
    · rw [← rest, text, LineEnd.text, ← List.append_assoc, ← whole]
      simp

/-- A block that is not closed before it is closed ends there. -/
theorem ends_of_afterClosing?_eq_none (fits : c.Fits body)
    (open' : ∀ back, back <:+ block → back ≠ [] → afterClosing? (back ++ c.text body) = none) :
  c.Ends block
  := by
  constructor
  · rintro line among ⟨gap, isGap, e, rfl⟩
    obtain ⟨front, after, whole, -, ends⟩ := mem_tail_cutAll.mp among
    obtain ⟨back, rfl, rest⟩ : ∃ back, block = front ++ '\n' :: back
        ∧ back ++ c.lineEnd.returns = '-' :: '-' :: '-' :: (gap ++ e.returns) ++ after := by
      have short : c.lineEnd.returns.length ≤ 1 := by
        cases c.lineEnd <;> decide
      rcases List.append_eq_append_iff.mp whole with ⟨more, -, returns⟩ | ⟨more, rfl, rest⟩
      · rw [returns, List.length_append, List.length_cons, List.cons_append, List.length_cons]
          at short
        omega
      · rcases more with _ | ⟨d, more⟩
        · rw [List.nil_append] at rest
          rw [← rest] at short
          simp at short
        · obtain ⟨rfl, line⟩ := List.cons.inj rest
          use more, rfl, line.symm
    obtain ⟨more, next⟩ := exists_feed_cons ends ('-' :: '-' :: '-' ::
      (c.gap ++ (finishText c.finish ++ body)))
    have closed : afterClosing? ('\n' :: back ++ c.text body) = some more := by
      apply afterClosing?_eq_some.mpr
      use .feed, gap, some e
      rw [text, LineEnd.text, ← List.append_assoc, ← List.append_assoc, List.cons_append, rest]
      simp only [List.append_assoc, List.cons_append, List.nil_append, next]
      simp [LineEnd.text, LineEnd.returns, finishText, isGap]
    rw [open' ('\n' :: back) (List.suffix_append front _) (List.cons_ne_nil _ _)] at closed
    cases closed
  · intro isFeed last
    obtain ⟨front, rfl⟩ := List.getLast?_eq_some_iff.mp last
    have closed : afterClosing? (['\r'] ++ c.text body) = some body := by
      apply afterClosing?_eq_some.mpr
      use .returnFeed, c.gap, c.finish
      rw [text, isFeed]
      use rfl, c.isGap, fits
    rw [open' ['\r'] (List.suffix_append front _) (List.cons_ne_nil _ _)] at closed
    cases closed

end Closing

/-! ### Composed entries -/

/-- What stands around the block and the body of an entry. -/
structure Enclosure where
  blanks : List Char
  gap : List Char
  opening : LineEnd
  closing : Closing
  isBlank : ∀ c ∈ blanks, isBlank c = true
  isGap : IsGap gap

/-- An entry with a given block and body. -/
def Enclosure.compose (e : Enclosure) (block body : List Char) : List Char :=
  e.blanks ++ '-' :: '-' :: '-' :: (e.gap ++ (e.opening.text ++ (block ++ e.closing.text body)))

/-- A text is cut at the first fence after its first line. -/
theorem cutWhere?_afterClosing? {cs block body : List Char} :
  cutWhere? afterClosing? cs = some (block, body)
    ↔ ∃ c : Closing, cs = block ++ c.text body ∧ c.Fits body ∧ c.Ends block
  := by
  rw [cutWhere?_eq_some]
  constructor
  · rintro ⟨tail, rfl, closed, open'⟩
    obtain ⟨e, gap, finish, rfl, isGap, fits⟩ := afterClosing?_eq_some.mp closed
    refine ⟨⟨e, gap, finish, isGap⟩, rfl, fits, ?_⟩
    apply Closing.ends_of_afterClosing?_eq_none _ open'
    apply fits
  · rintro ⟨c, rfl, fits, ends⟩
    use c.text body, rfl, c.afterClosing?_text fits
    intro back suffix nonempty
    apply ends.afterClosing?_eq_none suffix nonempty

/-- An entry is taken apart into a block and a body if and only if it is composed of them. -/
theorem split_eq_some_iff {content block body : List Char} :
  split content = (some block, body)
    ↔ ∃ e : Enclosure, content = e.compose block body ∧ e.closing.Fits body ∧ e.closing.Ends block
  := by
  have parted : split content = (some block, body) ↔ parts? content = some (block, body) := by
    rw [split]
    rcases parts? content with _ | ⟨block', body'⟩ <;> simp
  rw [parted]
  constructor
  · intro found
    obtain ⟨line, fenced, inLine⟩ := Option.bind_eq_some_iff.mp found
    obtain ⟨text, ended, cut⟩ := Option.bind_eq_some_iff.mp inLine
    obtain ⟨gap, isGap, started, -⟩ := afterFence?_eq_some.mp fenced
    obtain ⟨e, rfl⟩ := afterLineEnd?_eq_some.mp ended
    obtain ⟨c, rfl, fits, ends⟩ := cutWhere?_afterClosing?.mp cut
    use ⟨content.takeWhile isBlank, gap, e, c, fun _ among => List.mem_takeWhile_imp among, isGap⟩
    constructor
    · rw [Enclosure.compose, ← started, trimLeft, List.takeWhile_append_dropWhile]
    · use fits
  · rintro ⟨e, rfl, fits, ends⟩
    have trimmed : trimLeft (e.compose block body) = '-' :: '-' :: '-' ::
        (e.gap ++ (e.opening.text ++ (block ++ e.closing.text body))) := by
      apply dropWhile_append_stops e.isBlank (stops_cons (by decide))
    rw [parts?, trimmed, afterFence?_eq_some.mpr ⟨e.gap, e.isGap, rfl, e.opening.stops⟩,
      Option.bind_eq_bind, Option.bind_some, afterLineEnd?_eq_some.mpr ⟨e.opening, rfl⟩,
      Option.bind_some]
    apply cutWhere?_afterClosing?.mpr
    use e.closing

/-- A block none of whose lines but the first is a fence, and which does not end with a carriage
return, ends where it is closed. -/
theorem Closing.ends_of_unfenced (c : Closing) {block : List Char}
    (unfenced : ∀ line ∈ (cutAll '\n' block).tail, ¬ IsFence line)
    (unreturned : block.getLast? ≠ some '\r') :
  c.Ends block
  := by
  refine ⟨?_, fun _ => unreturned⟩
  rcases lineEnd : c.lineEnd with _ | _
  · rw [LineEnd.returns, List.append_nil]
    apply unfenced
  · change ∀ line ∈ (cutAll '\n' (block ++ ['\r'])).tail, ¬ IsFence line
    rintro line among ⟨gap, isGap, e, rfl⟩
    obtain ⟨front, back, whole, free, ends⟩ := mem_tail_cutAll.mp among
    rcases List.eq_nil_or_concat back with rfl | ⟨back, d, rfl⟩
    · -- the carriage return belongs to the line end, not to the last line of the block
      cases e with
      | feed =>
          have last := congrArg List.getLast? whole
          rw [List.getLast?_concat] at last
          have among' : '\r' ∈ '-' :: '-' :: '-' :: gap := by
            apply List.mem_of_getLast?
            simpa [LineEnd.returns] using last.symm
          simp only [List.mem_cons] at among'
          rcases among' with same | same | same | inGap
          · cases same
          · cases same
          · cases same
          · rcases isGap _ inGap with same | same <;> cases same
      | returnFeed =>
          apply unfenced ('-' :: '-' :: '-' :: gap) _ ⟨gap, isGap, .feed, by simp [LineEnd.returns]⟩
          apply mem_tail_cutAll.mpr
          refine ⟨front, [], ?_, ?_, ends⟩
          · have halves : block ++ ['\r'] = front ++ '\n' :: ('-' :: '-' :: '-' :: gap ++ [])
                ++ ['\r'] := by
              rw [whole]
              simp [LineEnd.returns]
            apply List.append_cancel_right halves
          · intro feed
            apply free
            rw [← List.cons_append, ← List.cons_append, ← List.cons_append]
            apply List.mem_append_left _ feed
    · have halves : block ++ ['\r']
          = front ++ '\n' :: ('-' :: '-' :: '-' :: (gap ++ e.returns) ++ back) ++ [d] := by
        rw [whole]
        simp
      obtain ⟨rfl, same⟩ := List.append_inj' halves rfl
      apply unfenced _ _ ⟨gap, isGap, e, rfl⟩
      apply mem_tail_cutAll.mpr
      refine ⟨front, back, rfl, free, ?_⟩
      rcases back with _ | ⟨b, back⟩
      · simp
      · apply ends

/-- An entry that is composed of a block and a body is taken apart into them, if no line of the
block but the first is a fence and it does not end with a carriage return.  What any entry is taken
apart into are pieces of it in their order, with more between them than nothing, and an entry
without a block is its body. -/
theorem split_compose :
  (∀ (e : Enclosure) (block body : List Char), e.closing.Fits body →
      (∀ line ∈ (cutAll '\n' block).tail, ¬ IsFence line) → block.getLast? ≠ some '\r' →
      split (e.compose block body) = (some block, body))
    ∧ ∀ content, split content = (none, content) ∨ ∃ before block between body,
      split content = (some block, body) ∧ content = before ++ block ++ between ++ body
        ∧ between ≠ []
  := by
  constructor
  · intro e block body fits unfenced unreturned
    apply split_eq_some_iff.mpr
    use e, rfl, fits
    apply e.closing.ends_of_unfenced unfenced unreturned
  · intro content
    rcases parted : split content with ⟨none | block, body⟩
    · left
      rw [split] at parted
      split at parted
      · cases parted
      · cases parted
        rfl
    · right
      obtain ⟨e, rfl, -, -⟩ := split_eq_some_iff.mp parted
      refine ⟨e.blanks ++ '-' :: '-' :: '-' :: (e.gap ++ e.opening.text), block,
        e.closing.text [], body, rfl, ?_, ?_⟩
      · simp [Enclosure.compose, Closing.text]
      · rw [Closing.text, LineEnd.text]
        simp

/-- Blanks before the first fence, a fence as the first line of the block, a line that goes on after
hyphens, and a fence in the body: none of them is taken for the fence that closes the block. -/
theorem split_compose_lookalikes :
  split " \n---\r\n---\nid: a\n--- b\r\n--- \r\n---\n".toList
    = (some "---\nid: a\n--- b".toList, "---\n".toList)
  := by
  have isGap (gap : List Char) (h : gap = [] ∨ gap = [' ']) : IsGap gap := by
    rcases h with rfl | rfl <;> simp [IsGap]
  let e : Enclosure := ⟨[' ', '\n'], [], .returnFeed,
    ⟨.returnFeed, [' '], some .returnFeed, isGap _ (.inr rfl)⟩,
    List.all_eq_true.mp (by decide), isGap _ (.inl rfl)⟩
  apply split_compose.1 e "---\nid: a\n--- b".toList "---\n".toList
  · intro unfenced
    cases unfenced
  · have lines : (cutAll '\n' "---\nid: a\n--- b".toList).tail
        = ["id: a".toList, "--- b".toList] := by
      decide
    rw [lines]
    rintro line among ⟨gap, isGap, e, rfl⟩
    rcases List.mem_cons.mp among with same | among
    · cases (List.cons.inj same).1
    · have same : gap ++ e.returns = [' ', 'b'] := by
        simpa using List.mem_singleton.mp among
      have letter : 'b' ∈ gap ++ e.returns := by
        rw [same]
        decide
      rcases List.mem_append.mp letter with inGap | inReturns
      · rcases isGap _ inGap with same | same <;> cases same
      · cases e
        · cases inReturns
        · cases List.mem_singleton.mp inReturns
  · decide

end Toolshed.Frontmatter
