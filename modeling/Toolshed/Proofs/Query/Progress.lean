import Toolshed.Proofs.Query.Lookahead

/-!
# Reading queries ends

Whatever the text is, reading a query along a cursor ends and stays in the text.  A round of a loop
goes on only where an operand comes next, and reading that operand consumes a character if the
keyword before it has not; an expression in parentheses is read from behind the first of them.

Main statement: the query that is read along a cursor is the query that the text writes, and
everything that was done on the way is sound (`query_ends`).
-/

namespace Toolshed.Query

/-! ### Blanks in front -/

/-- A reader passes over blanks in front. -/
def PassesBlanks (read : Reads) : Prop :=
  ∀ cs, read (Text.trimLeft cs) = read cs

/-- A row of operands goes on behind blanks in the same way. -/
def FindsBehindBlanks (next? : List Char → Option (List Char)) : Prop :=
  ∀ cs, (next? (Text.trimLeft cs)).map Text.trimLeft = (next? cs).map Text.trimLeft

theorem passesBlanks_readPrimary (inner : Reads) :
  PassesBlanks (readPrimary inner)
  := by
  intro cs
  rw [readPrimary_eq, Text.trimLeft_trimLeft, readPrimary_eq]

theorem passesBlanks_readNegation (inner : Reads) :
  PassesBlanks (readNegation inner)
  := by
  intro cs
  rw [readNegation, afterKeyword?_trimLeft, passesBlanks_readPrimary, readNegation]

theorem PassesBlanks.joined {operand : Reads} (passes : PassesBlanks operand)
    (next? : List Char → Option (List Char)) (join : Query → Query → Query) :
  PassesBlanks (readJoined next? operand join)
  := by
  intro cs
  rw [readJoined, passes, readJoined]

theorem findsBehindBlanks_nextOperand? :
  FindsBehindBlanks nextOperand?
  := by
  intro cs
  rw [nextOperand?, afterKeyword?_trimLeft, negationFollows_trimLeft, operandFollows_trimLeft,
    nextOperand?]
  rcases afterKeyword? ['A', 'N', 'D'] cs with _ | rest
  · dsimp only
    split
    · rw [Option.map_some, Text.trimLeft_trimLeft, Option.map_some]
    · rfl
  · rfl

theorem findsBehindBlanks_nextAlternative? :
  FindsBehindBlanks nextAlternative?
  := by
  intro cs
  rw [nextAlternative?, afterKeyword?_trimLeft, nextAlternative?]

variable {chars : List Char} {start middle : Nat}

/-! ### Primaries -/

theorem ends_phrase {c : Char} {cs : List Char} (rest : chars.drop start = c :: cs) :
  Ends chars (Characters.phrase chars) start fun q stop =>
    q = .phrase (Text.lowerChars (cs.takeWhile (· != '"')))
      ∧ chars.drop stop = (cs.dropWhile (· != '"')).drop 1
  := by
  obtain ⟨more, rest'⟩ := drop_eq_cons rest
  apply Ends.called
  · apply (ends_advance more).bind
    rintro _ _ - inside rfl
    apply (ends_stretch inside (· != '"')).bind
    rw [rest']
    rintro _ stop - inside' ⟨rfl, left⟩
    apply Ends.position
    rw [← left, List.drop_drop]
    split
    · next more' =>
        apply (ends_advance more').bind
        rintro _ _ - inside' rfl
        apply Ends.pure inside' ⟨rfl, rfl⟩
    · next ended =>
        apply Ends.pure inside'
        rw [List.drop_of_length_le (not_lt.mp ended), List.drop_of_length_le (by omega)]
        use rfl
  · rintro ⟨⟩

theorem ends_term (inside : start ≤ chars.length) :
  Ends chars (Characters.term chars) start fun q stop =>
    q = ofTerm ((chars.drop start).takeWhile isTermChar)
      ∧ chars.drop stop = (chars.drop start).dropWhile isTermChar
  := by
  apply Ends.called
  · apply (ends_stretch inside isTermChar).bind
    rintro _ stop - inside' ⟨rfl, left⟩
    apply Ends.pure inside' ⟨rfl, left⟩
  · rintro ⟨⟩

/-! ### Operands -/

/-- Along a text a query is read as from its front, up to the blanks before what is left; where the
text awaits it, more than blanks is consumed. -/
def ReadsAt (chars : List Char) (walk : Walk Query) (read : Reads) (awaits : List Char → Prop)
    (start : Nat) : Prop :=
  Ends chars walk start fun q stop =>
    q = (read (chars.drop start)).1
      ∧ Text.trimLeft (chars.drop stop) = Text.trimLeft (read (chars.drop start)).2
      ∧ (awaits (chars.drop start) → Consumes chars start stop)

/-- Nothing is awaited. -/
def AwaitsNothing (_ : List Char) : Prop :=
  False

/-- Expressions further back than a position are read along a text. -/
def ReadsBehind (chars : List Char) (read : Reads) (start : Nat) : Prop :=
  ∀ place, start < place → place ≤ chars.length →
    ReadsAt chars (Characters.expression chars) read AwaitsNothing place

theorem ReadsBehind.of_le {read : Reads} (behind : ReadsBehind chars read start)
    (forward : start ≤ middle) :
  ReadsBehind chars read middle
  := by
  intro place further
  apply behind place (forward.trans_lt further)

/-- An operand is awaited, or its negation. -/
def AwaitsOperand (cs : List Char) : Prop :=
  negationFollows cs = true ∨ operandFollows cs = true

/-- A negation that comes next begins with the keyword. -/
theorem afterKeyword?_of_negationFollows {cs : List Char} (follows : negationFollows cs = true) :
  afterKeyword? ['N', 'O', 'T'] cs ≠ none
  := by
  have length : (nextWord cs).length = ['N', 'O', 'T'].length := length_of_sameLetters follows
  have whole : Text.trimLeft cs
      = nextWord cs ++ (Text.trimLeft cs).dropWhile (fun c => !Text.isBlank c) := by
    rw [nextWord, List.takeWhile_append_dropWhile]
  have bounded : ((Text.trimLeft cs).dropWhile (fun c => !Text.isBlank c)).head?.all Text.isBlank
      = true := by
    rw [Option.all_eq_true]
    intro c first
    have := Text.stops_dropWhile (fun c => !Text.isBlank c) (Text.trimLeft cs) c first
    simpa using this
  rw [negationFollows] at follows
  rw [afterKeyword?_eq, whole, List.take_left' length, List.drop_left' length, follows, bounded]
  rintro ⟨⟩

section

variable {read : Reads} (behind : ReadsBehind chars read start)

include behind

/-- An expression in parentheses is read from behind the first one. -/
theorem ends_group {c : Char} {cs : List Char} (rest : chars.drop start = c :: cs) :
  Ends chars (Characters.group chars) start fun q stop =>
    q = (read cs).1 ∧ chars.drop stop = afterClosing (read cs).2
  := by
  obtain ⟨more, rest'⟩ := drop_eq_cons rest
  rw [Characters.group]
  have descends : Ends chars (Walk.called .opening Walk.advance) start fun _ stop =>
      stop = start + 1 := by
    apply (ends_advance more).called
    rintro - _ _ rfl
    apply Nat.lt_succ_self
  apply descends.bind
  rintro _ _ - inside rfl
  apply (behind _ (Nat.lt_succ_self _) inside).bind
  rw [rest']
  rintro q stop - inside' ⟨rfl, left, -⟩
  apply (ends_closing inside').bind
  rintro _ stop' - inside'' left'
  apply Ends.pure inside''
  use rfl
  rw [left', ← afterClosing_trimLeft, left, afterClosing_trimLeft]

/-- A primary is read along a text if the expressions further back are. -/
theorem readsAt_primary (inside : start ≤ chars.length) :
  ReadsAt chars (Characters.primary chars) (readPrimary read) (operandFollows · = true) start
  := by
  rw [Characters.primary]
  apply Ends.called
  · apply (ends_skipBlanks inside).bind
    intro _ first forward inside' skipped
    apply Ends.next?
    dsimp only
    rw [readPrimary_eq, operandFollows_eq, ← skipped]
    have visible := Text.stops_dropWhile Text.isBlank (chars.drop start)
    rw [← Text.trimLeft, ← skipped] at visible
    rcases rest : chars.drop first with _ | ⟨c, cs⟩
    · apply Ends.pure inside'
      rw [rest]
      use rfl, rfl
      rintro ⟨⟩
    · rw [List.head?_cons]
      dsimp only
      by_cases opened : c = '('
      · rw [if_pos opened, if_pos opened, if_pos (.inl opened)]
        apply (ends_group (behind.of_le forward) rest).mono
        rintro _ stop - - ⟨rfl, left⟩
        rw [left]
        use rfl, rfl
        rintro ⟨⟩
      by_cases quoted : c = '"'
      · rw [if_neg opened, if_neg opened, if_pos quoted, if_pos quoted]
        apply (ends_phrase rest).mono
        rintro _ stop - - ⟨rfl, left⟩
        rw [left]
        use rfl, rfl
        intro
        have shorter := (List.dropWhile_sublist (p := (· != '"')) (l := cs)).length_le
        rw [Consumes, ← skipped, rest, left, List.length_drop, List.length_cons]
        omega
      · rw [if_neg opened, if_neg opened, if_neg quoted, if_neg quoted]
        apply (ends_term inside').mono
        rintro _ stop - - ⟨rfl, left⟩
        rw [left, rest]
        use rfl, rfl
        intro follows
        have unmarked : isTermChar c = true := by
          have closed : c ≠ ')' := by
            rintro rfl
            cases follows
          rw [rest] at visible
          simp [isTermChar, visible c rfl, opened, closed, quoted]
        rw [Consumes, ← skipped, rest, left, rest, List.dropWhile_cons_of_pos unmarked]
        apply Nat.lt_succ_of_le
        apply (List.dropWhile_sublist isTermChar).length_le
  · rintro ⟨⟩

theorem readsAt_negation (inside : start ≤ chars.length) :
  ReadsAt chars (Characters.negation chars) (readNegation read) AwaitsOperand start
  := by
  rw [Characters.negation]
  apply Ends.called
  · apply (ends_keyword inside (List.cons_ne_nil _ _)).bind
    rintro found middle forward inside' announced
    have primary := readsAt_primary (behind.of_le forward) inside'
    rw [readNegation]
    cases found with
    | true =>
        obtain ⟨after, consumes⟩ := announced
        rw [if_pos rfl, after]
        apply primary.bind
        rintro _ stop forward' inside'' ⟨rfl, left, -⟩
        apply Ends.pure inside''
        use rfl, left
        intro
        apply consumes.trans_le forward'
    | false =>
        obtain ⟨unstarted, skipped⟩ := announced
        rw [if_neg Bool.false_ne_true, unstarted]
        apply primary.mono
        rintro _ stop - - ⟨rfl, left, consumes⟩
        rw [skipped, passesBlanks_readPrimary] at left ⊢
        use rfl, left
        rintro (negation | operand)
        · cases afterKeyword?_of_negationFollows negation unstarted
        · apply Consumes.of_skipped skipped
          apply consumes
          rwa [skipped, operandFollows_trimLeft]
  · rintro ⟨⟩

end

/-! ### Rounds -/

/-- A row of operands goes on along a text where it does from the front: an operand is awaited, or
something has announced it. -/
def GoesOnAt (chars : List Char) (next : Walk Bool) (next? : List Char → Option (List Char))
    (awaits : List Char → Prop) (start : Nat) : Prop :=
  Ends chars next start fun found stop =>
    if found then
      (next? (chars.drop start)).map Text.trimLeft = some (Text.trimLeft (chars.drop stop))
        ∧ (Consumes chars start stop
          ∨ chars.drop stop = Text.trimLeft (chars.drop start) ∧ awaits (chars.drop stop))
    else
      next? (chars.drop start) = none ∧ chars.drop stop = Text.trimLeft (chars.drop start)

theorem goesOnAt_alternative (inside : start ≤ chars.length) :
  GoesOnAt chars (Characters.keyword chars ['O', 'R']) nextAlternative? AwaitsNothing start
  := by
  apply (ends_keyword inside (List.cons_ne_nil _ _)).mono
  rintro found stop - - announced
  cases found with
  | true =>
      obtain ⟨after, consumes⟩ := announced
      rw [if_pos rfl, nextAlternative?, after]
      use rfl
      left
      apply consumes
  | false => apply announced

theorem goesOnAt_operand (inside : start ≤ chars.length) :
  GoesOnAt chars (Characters.operandNext chars) nextOperand? AwaitsOperand start
  := by
  apply (ends_keyword inside (List.cons_ne_nil _ _)).bind
  rintro found middle - inside' announced
  cases found with
  | true =>
      obtain ⟨after, consumes⟩ := announced
      apply Ends.pure inside'
      rw [if_pos rfl, nextOperand?, after]
      use rfl
      left
      apply consumes
  | false =>
      obtain ⟨unstarted, skipped⟩ := announced
      rw [if_neg Bool.false_ne_true]
      apply (ends_negationAhead inside').bind
      rintro found middle' - inside'' ⟨same, skipped'⟩
      rw [skipped, negationFollows_trimLeft] at same
      rw [skipped, Text.trimLeft_trimLeft] at skipped'
      simp only [nextOperand?, unstarted, ← same]
      cases found with
      | true =>
          apply Ends.pure inside''
          rw [if_pos rfl, Bool.true_or, if_pos rfl, skipped', Option.map_some,
            Text.trimLeft_trimLeft]
          use rfl
          right
          use rfl
          left
          rw [negationFollows_trimLeft, ← same]
      | false =>
          rw [if_neg Bool.false_ne_true, Bool.false_or]
          apply (ends_operandAhead inside'').mono
          rintro found stop - - ⟨same', skipped''⟩
          rw [skipped', operandFollows_trimLeft] at same'
          rw [skipped', Text.trimLeft_trimLeft] at skipped''
          rw [← same', skipped'']
          cases found with
          | true =>
              rw [if_pos rfl, if_pos rfl, Option.map_some, Text.trimLeft_trimLeft]
              use rfl
              right
              use rfl
              right
              rw [operandFollows_trimLeft, ← same']
          | false => exact ⟨rfl, rfl⟩

section

variable {next : Walk Bool} {operand : Walk Query} {act : Act} {loop : Query → Walk Query}
  {next? : List Char → Option (List Char)} {read : Reads} {join : Query → Query → Query}
  {awaits : List Char → Prop}

/-- A loop along a text joins operands as a reader does from the front. -/
structure IsLoop (chars : List Char) (start : Nat) (next : Walk Bool) (operand : Walk Query)
    (act : Act) (loop : Query → Walk Query) (next? : List Char → Option (List Char)) (read : Reads)
    (join : Query → Query → Query) (awaits : List Char → Prop) : Prop where
  round : ∀ left, loop left = do
    let place ← Walk.position
    if ← next then
      let right ← operand
      Walk.visited act place
      loop (join left right)
    else
      return left
  goesOn : ∀ place, start ≤ place → place ≤ chars.length → GoesOnAt chars next next? awaits place
  reads : ∀ place, start ≤ place → place ≤ chars.length → ReadsAt chars operand read awaits place
  behind : FindsBehindBlanks next?
  passes : PassesBlanks read

variable (loops : IsLoop chars start next operand act loop next? read join awaits)

include loops

/-- Each round consumes more than blanks, so there are as many rounds left as there may be. -/
theorem IsLoop.ends {place fuel : Nat} {left : Query} {cs : List Char} (forward : start ≤ place)
    (inside : place ≤ chars.length) (same : Text.trimLeft cs = Text.trimLeft (chars.drop place))
    (room : (Text.trimLeft cs).length < fuel) :
  Ends chars (loop left) place fun q stop =>
    q = (readMore next? read join fuel left cs).1
      ∧ Text.trimLeft (chars.drop stop) = Text.trimLeft (readMore next? read join fuel left cs).2
  := by
  induction fuel generalizing place left cs with
  | zero => cases Nat.not_lt_zero _ room
  | succ fuel ih =>
      have next_eq : (next? cs).map Text.trimLeft
          = (next? (chars.drop place)).map Text.trimLeft := by
        rw [← loops.behind cs, same, loops.behind]
      rw [loops.round, readMore]
      apply Ends.position
      apply (loops.goesOn place forward inside).bind
      rintro found middle forward' inside' found'
      cases found with
      | true =>
          obtain ⟨goesOn, way⟩ := found'
          obtain ⟨rest, found, same'⟩ := Option.map_eq_some_iff.mp (next_eq.trans goesOn)
          have read_eq : read rest = read (chars.drop middle) := by
            rw [← loops.passes rest, same', loops.passes]
          rw [if_pos rfl, found]
          apply (loops.reads middle (forward.trans forward') inside').bind
          rintro right stop forward'' inside'' ⟨rfl, left', consumes⟩
          have consumes : Consumes chars place stop := by
            rcases way with consumes' | ⟨skipped, awaited⟩
            · apply consumes'.trans_le forward''
            · apply Consumes.of_skipped skipped (consumes awaited)
          have sound : (Visit.mk act place stop).IsSound chars :=
            ⟨forward'.trans forward'', inside'', fun _ => consumes.lt⟩
          apply (ends_visited sound).bind
          rintro _ stop - - rfl
          dsimp only
          rw [read_eq]
          apply ih (forward.trans (forward'.trans forward'')) inside'' left'.symm
          rw [← left']
          have := Text.length_trimLeft_le (chars.drop stop)
          rw [Consumes, ← same] at consumes
          omega
      | false =>
          obtain ⟨ended, skipped⟩ := found'
          rw [ended, Option.map_none, Option.map_eq_none_iff] at next_eq
          rw [if_neg Bool.false_ne_true, next_eq]
          apply Ends.pure inside'
          rw [skipped, Text.trimLeft_trimLeft, same]
          exact ⟨rfl, rfl⟩

/-- A level is read along a text as from the front. -/
theorem IsLoop.readsAt {level : Act} (free : level.consumes = false)
    (inside : start ≤ chars.length) :
  ReadsAt chars (Walk.called level (operand >>= loop)) (readJoined next? read join) AwaitsNothing
    start
  := by
  apply Ends.called
  · apply (loops.reads start le_rfl inside).bind
    rintro _ stop forward inside' ⟨rfl, left, -⟩
    have room := Text.length_trimLeft_le (read (chars.drop start)).2
    apply (loops.ends forward inside' left.symm (Nat.lt_succ_of_le room)).mono
    rintro _ stop' - - ⟨rfl, left'⟩
    use rfl, left'
    rintro ⟨⟩
  · intro needed
    rw [free] at needed
    cases needed

end

/-! ### Levels -/

theorem readsAt_conjunction {read : Reads} (behind : ReadsBehind chars read start)
    (inside : start ≤ chars.length) :
  ReadsAt chars (Characters.conjunction chars) (readConjunction read) AwaitsNothing start
  := by
  have loops : IsLoop chars start (Characters.operandNext chars) (Characters.negation chars)
      .operandRound (Characters.operands chars) nextOperand? (readNegation read) .and
      AwaitsOperand := by
    constructor
    · intro left
      rw [Characters.operands]
    · intro place _ inside'
      apply goesOnAt_operand inside'
    · intro place forward inside'
      apply readsAt_negation (behind.of_le forward) inside'
    · apply findsBehindBlanks_nextOperand?
    · apply passesBlanks_readNegation
  rw [Characters.conjunction]
  apply loops.readsAt rfl inside

/-- An expression is read along a text as from the front, if parentheses may be nested as deeply as
there are characters left. -/
theorem readsAt_expression {depth : Nat} (inside : start ≤ chars.length)
    (room : chars.length < start + depth) :
  ReadsAt chars (Characters.expression chars) (readExpression depth) AwaitsNothing start
  := by
  induction depth generalizing start with
  | zero => omega
  | succ depth ih =>
      have loops : IsLoop chars start (Characters.keyword chars ['O', 'R'])
          (Characters.conjunction chars) .alternativeRound (Characters.alternatives chars)
          nextAlternative? (readConjunction (readExpression depth)) .or AwaitsNothing := by
        constructor
        · intro left
          rw [Characters.alternatives]
        · intro place _ inside'
          apply goesOnAt_alternative inside'
        · intro place forward inside'
          apply readsAt_conjunction _ inside'
          intro place' further inside''
          apply ih inside''
          omega
        · apply findsBehindBlanks_nextAlternative?
        · apply (passesBlanks_readNegation _).joined
      rw [Characters.expression]
      apply loops.readsAt rfl inside

/-! ### Whole texts -/

/-- Reading a text along a cursor ends with the query that the text writes, whatever is unbalanced,
unclosed or missing in the text.  On the way the position never decreases and stays in the text, and
each round of a loop that goes on and each way into parentheses consumes a character. -/
theorem query_ends (text : String) :
  ∃ cursor, Characters.query (Text.trimBoth text.toList) ⟨0, []⟩ = some (parse text, cursor)
    ∧ cursor.position ≤ (Text.trimBoth text.toList).length
    ∧ ∀ visit ∈ cursor.visits, visit.IsSound (Text.trimBoth text.toList)
  := by
  rw [parse]
  generalize Text.trimBoth text.toList = chars
  have ends : Ends chars (Characters.query chars) 0 fun q _ =>
      q = (readExpression (chars.length + 1) chars).1 := by
    rw [Characters.query]
    split
    · next empty =>
        apply Ends.pure (Nat.zero_le _)
        rw [List.isEmpty_iff.mp empty]
        rfl
    · have room : chars.length < 0 + (chars.length + 1) := by omega
      apply (readsAt_expression (Nat.zero_le _) room).mono
      rintro _ _ - - ⟨rfl, -⟩
      rfl
  obtain ⟨_, stop, new, ran, -, inside, sound, rfl⟩ := ends []
  rw [List.append_nil] at ran
  use ⟨stop, new⟩, ran, inside

-- The parenthesis stays open.
example : ((Characters.query "(a OR b".toList ⟨0, []⟩).map fun (_, cursor) =>
    cursor.visits.filter (·.act.consumes))
  = some [⟨.alternativeRound, 3, 7⟩, ⟨.opening, 0, 1⟩] := by
  cbv

end Toolshed.Query
