import Toolshed.Proofs.Source.ShellFunction

/-!
# Comments in shell sources

A line whose first visible character is `#` assigns nothing and opens no quote, brace or
parenthesis.  But a mark in it such as `<<EOF` counts as in any other line, and the lines up to the
one that ends the here-document are passed over.  A comment without a mark leaves what a source
declares as it is.
-/

namespace Toolshed.Source.Shell

open Text

/-! ### Marks of here-documents -/

/-- A text begins with the mark of a here-document: two signs, an optional hyphen, spaces and tabs,
an optional quote, and the name on the line that ends it. -/
structure BeginsMark (name cs : List Char) : Prop where
  isName : IsName name
  isMark : ∃ hyphen blanks quote rest,
    cs = '<' :: '<' :: (hyphen ++ (blanks ++ (quote ++ (name ++ rest))))
    ∧ (hyphen = [] ∨ hyphen = ['-']) ∧ (∀ b ∈ blanks, b = ' ' ∨ b = '\t')
    ∧ (quote = [] ∨ quote = ['\''] ∨ quote = ['"']) ∧ Stops isNameChar rest

/-- The first mark in a text has a given name. -/
inductive Marks (name : List Char) : List Char → Prop where
  | here {cs : List Char} (mark : BeginsMark name cs) : Marks name cs
  | later {c : Char} {cs : List Char} (unmarked : ∀ other, ¬ BeginsMark other (c :: cs))
      (mark : Marks name cs) : Marks name (c :: cs)

/-- A name begins with none of the characters that may stand before it in a mark. -/
theorem IsName.stops {p : Char → Bool} {name : List Char} (isName : IsName name)
    (fails : ∀ c, p c = true → c ∈ ['-', ' ', '\t', '\'', '"']) (rest : List Char) :
  Stops p (name ++ rest)
  := by
  obtain ⟨first, others⟩ := isName
  apply stops_cons
  rw [Bool.eq_false_iff]
  intro passes
  have among := fails _ passes
  simp only [List.mem_cons, List.not_mem_nil, or_false] at among
  rcases among with rfl | rfl | rfl | rfl | rfl
  all_goals
    revert first
    decide

theorem passQuote_quote {quote name : List Char}
    (isQuote : quote = [] ∨ quote = ['\''] ∨ quote = ['"']) (isName : IsName name)
    (rest : List Char) :
  passQuote (quote ++ (name ++ rest)) = name ++ rest
  := by
  rcases isQuote with rfl | rfl | rfl
  · have stops := isName.stops (p := fun c => c = '\'' || c = '"') (by simp) rest
    rw [List.nil_append]
    rcases same : name ++ rest with _ | ⟨c, cs⟩
    · rfl
    · have fails := stops c (by rw [same]; rfl)
      simp only [Bool.or_eq_false_iff, decide_eq_false_iff_not] at fails
      rw [passQuote]
      · intro _ same
        apply fails.1 (List.cons.inj same).1
      · intro _ same
        apply fails.2 (List.cons.inj same).1
  · rfl
  · rfl

theorem stops_quote {p : Char → Bool} {quote name : List Char}
    (isQuote : quote = [] ∨ quote = ['\''] ∨ quote = ['"']) (isName : IsName name)
    (fails : ∀ c, p c = true → c ∈ ['-', ' ', '\t']) (rest : List Char) :
  Stops p (quote ++ (name ++ rest))
  := by
  have other (c : Char) (free : c ∉ ['-', ' ', '\t']) : p c = false := by
    rw [Bool.eq_false_iff]
    intro passes
    apply free (fails c passes)
  rcases isQuote with rfl | rfl | rfl
  · apply isName.stops
    intro c passes
    have among := fails c passes
    simp only [List.mem_cons] at among ⊢
    tauto
  · apply stops_cons (other _ (by decide))
  · apply stops_cons (other _ (by decide))

/-- The text after the two signs of a mark and what may stand before its name. -/
def afterSigns? (cs : List Char) : Option (List Char) := do
  let rest ← afterStart? ['<', '<'] cs
  let rest := (afterStart? ['-'] rest).getD rest
  pure (passQuote (rest.dropWhile fun c => c = ' ' || c = '\t'))

theorem exists_passQuote (cs : List Char) :
  ∃ quote, cs = quote ++ passQuote cs ∧ (quote = [] ∨ quote = ['\''] ∨ quote = ['"'])
  := by
  fun_cases passQuote cs with
  | case1 rest => use ['\'']; simp
  | case2 rest => use ['"']; simp
  | case3 rest => use []; simp

theorem bind_afterSigns?_iff {name cs : List Char} :
  (∃ rest, (afterSigns? cs).bind name? = some (name, rest)) ↔ BeginsMark name cs
  := by
  constructor
  · rintro ⟨rest, found⟩
    obtain ⟨text, after, named⟩ := Option.bind_eq_some_iff.mp found
    obtain ⟨text', signs, passed⟩ := Option.bind_eq_some_iff.mp after
    obtain rfl := Option.some.inj passed
    obtain ⟨same, isName, ends⟩ := name?_eq_some_iff.mp named
    have hyphen : ∃ hyphen, text' = hyphen ++ (afterStart? ['-'] text').getD text'
        ∧ (hyphen = [] ∨ hyphen = ['-']) := by
      rcases started : afterStart? ['-'] text' with _ | text''
      · use []
        simp
      · use ['-'], afterStart?_eq_some.mp started
        simp
    obtain ⟨hyphen, whole, isHyphen⟩ := hyphen
    obtain ⟨quote, whole', isQuote⟩ := exists_passQuote
      (((afterStart? ['-'] text').getD text').dropWhile fun c => c = ' ' || c = '\t')
    use isName, hyphen,
      ((afterStart? ['-'] text').getD text').takeWhile fun c => c = ' ' || c = '\t',
      quote, rest
    rw [← same, ← whole', List.takeWhile_append_dropWhile, ← whole]
    use afterStart?_eq_some.mp signs, isHyphen
    constructor
    · intro b among
      simpa using List.mem_takeWhile_imp among
    · use isQuote
  · rintro ⟨isName, hyphen, blanks, quote, rest, rfl, isHyphen, blank, isQuote, ends⟩
    use rest
    have unhyphened : afterStart? ['-'] (blanks ++ (quote ++ (name ++ rest))) = none := by
      rw [Option.eq_none_iff_forall_ne_some]
      intro text started
      have same := afterStart?_eq_some.mp started
      rcases blanks with _ | ⟨b, blanks⟩
      · have stops := stops_quote (p := (· = '-')) isQuote isName (by simp) rest
        rw [List.nil_append] at same
        cases stops '-' (by rw [same]; rfl)
      · have isHyphen : b = '-' := (List.cons.inj same).1
        rcases blank b List.mem_cons_self with rfl | rfl <;> cases isHyphen
    have passed : (afterStart? ['-'] (hyphen ++ (blanks ++ (quote ++ (name ++ rest))))).getD
        (hyphen ++ (blanks ++ (quote ++ (name ++ rest))))
          = blanks ++ (quote ++ (name ++ rest)) := by
      rcases isHyphen with rfl | rfl
      · rw [List.nil_append, unhyphened]
        rfl
      · rfl
    have after : afterSigns? ('<' :: '<' :: (hyphen ++ (blanks ++ (quote ++ (name ++ rest)))))
        = some (name ++ rest) := by
      change some (passQuote (((afterStart? ['-'] _).getD _).dropWhile _)) = _
      rw [passed, dropWhile_append_stops, passQuote_quote isQuote isName]
      · intro b among
        simpa using blank b among
      · apply stops_quote isQuote isName
        simp
    rw [after]
    apply name?_eq_some_iff.mpr
    use rfl, isName

theorem delimiter?_cons (c : Char) (cs : List Char) :
  delimiter? (c :: cs)
    = (((afterSigns? (c :: cs)).bind name?).map Prod.fst).or (delimiter? cs)
  := by
  rw [delimiter?, afterSigns?]
  simp only [Option.bind_eq_bind, Option.bind_assoc, Option.pure_def, Option.bind_some]
  split
  · next read =>
      rw [read]
      rfl
  · next read =>
      rw [read]
      rfl

/-- The mark that is read in a line is its first one. -/
theorem delimiter?_eq_some_iff {name line : List Char} :
  delimiter? line = some name ↔ Marks name line
  := by
  induction line with
  | nil =>
      constructor
      · intro found
        cases found
      · rintro (⟨-, _, _, _, _, same, -⟩ | _)
        cases same
  | cons c cs ih =>
      rw [delimiter?_cons]
      rcases here : (afterSigns? (c :: cs)).bind name? with _ | ⟨other, rest⟩
      · have unmarked : ∀ other, ¬ BeginsMark other (c :: cs) := by
          intro other mark
          obtain ⟨rest, found⟩ := bind_afterSigns?_iff.mpr mark
          rw [here] at found
          cases found
        rw [Option.map_none, Option.none_or, ih]
        constructor
        · apply Marks.later unmarked
        · rintro (mark | ⟨-, mark⟩)
          · cases unmarked name mark
          · apply mark
      · have mark := bind_afterSigns?_iff.mp ⟨rest, here⟩
        constructor
        · intro found
          cases found
          apply Marks.here mark
        · rintro (mark' | ⟨unmarked, -⟩)
          · obtain ⟨rest', found⟩ := bind_afterSigns?_iff.mpr mark'
            rw [here] at found
            cases found
            rfl
          · cases unmarked other mark

/-! ### Reading a comment -/

/-- A comment: the first visible character of the line is `#`. -/
def IsComment (line : List Char) : Prop :=
  ∃ blanks text, line = blanks ++ '#' :: text ∧ ∀ b ∈ blanks, isBlank b = true

theorem isOrdinary_of_isBlank {c : Char} (blank : isBlank c = true) :
  isOrdinary c = true
  := by
  rw [isOrdinary, decide_eq_true_eq]
  intro among
  simp only [List.mem_cons, List.not_mem_nil, or_false] at among
  rcases among with rfl | rfl | rfl | rfl | rfl | rfl | rfl | rfl | rfl
  all_goals
    revert blank
    decide

section

variable {comment : List Char} (isComment : IsComment comment)

include isComment

/-- A comment opens and closes nothing. -/
theorem scan_comment (depth : Nat) :
  scan .plain depth ' ' comment = (.plain, depth)
  := by
  obtain ⟨blanks, text, rfl, blank⟩ := isComment
  have passed (p : Char) (before : isBlank p = true) :
      scan .plain depth p (blanks ++ '#' :: text) = (.plain, depth) := by
    induction blanks generalizing p with
    | nil =>
        rw [List.nil_append, scan]
        simp [before]
    | cons b blanks ih =>
        rw [List.forall_mem_cons] at blank
        rw [List.cons_append, scan_ordinary (isOrdinary_of_isBlank blank.1)]
        apply ih blank.2 b blank.1
  apply passed ' ' (by decide)

/-- A comment is no assignment. -/
theorem assignment?_comment :
  assignment? comment = none
  := by
  obtain ⟨blanks, text, rfl, blank⟩ := isComment
  have trimmed : trimBoth (blanks ++ '#' :: text) = '#' :: trimRight text := by
    rw [trimBoth, trimLeft, dropWhile_append_stops blank (stops_cons (by decide)),
      trimRight_cons (by decide)]
  rw [assignment?, trimmed]
  rfl

/-- After a comment at the top level, all that may be open is the here-document of its mark. -/
theorem afterLine_comment :
  Nesting.top.afterLine comment = ⟨.plain, 0, delimiter? comment⟩
  := by
  simp only [Nesting.afterLine, Nesting.top, scan_comment isComment, if_true]

end

/-! ### Lines of a here-document -/

/-- The lines after the one that ends a here-document. -/
def afterDocument (name : List Char) (lines : List (List Char)) : List (List Char) :=
  (lines.dropWhile fun line => line.dropWhile (· = '\t') ≠ name).tail

/-- What stands in a here-document declares nothing. -/
theorem assignments_document (name : List Char) (lines : List (List Char)) :
  assignments ⟨.plain, 0, some name⟩ lines = assignments .top (afterDocument name lines)
  := by
  induction lines with
  | nil => rfl
  | cons line lines ih =>
      have inside : (⟨.plain, 0, some name⟩ : Nesting).isTop = false := rfl
      rw [assignments, inside, afterDocument, List.dropWhile_cons]
      by_cases ends : line.dropWhile (· = '\t') = name
      · simp [Nesting.afterLine, Nesting.top, ends]
      · simp [Nesting.afterLine, ends, ih, afterDocument]

/-! ### Sources with a comment -/

/-- A comment that is put between two lines at the top level of a source leaves what the source
declares as it is if and only if it holds no mark of a here-document, or the lines after that
document declare what all lines after the comment do. -/
theorem passes_comment_iff {content content' : List Char} {before after : List (List Char)}
    {comment : List Char} (script : lines content = before ++ after)
    (script' : lines content' = before ++ comment :: after)
    (atTop : (before.foldl Nesting.afterLine .top).isTop = true) (isComment : IsComment comment) :
  (readModule content').assignments = (readModule content).assignments
    ↔ ∀ name, Marks name comment →
      assignments .top (afterDocument name after) = assignments .top after
  := by
  have state : before.foldl Nesting.afterLine .top = .top := Nesting.isTop_iff.mp atTop
  have plain : (readModule content).assignments
      = assignments .top before ++ assignments .top after := by
    change assignments .top (lines content) = _
    rw [script, assignments_append, state]
  have commented : (readModule content').assignments
      = assignments .top before ++ assignments ⟨.plain, 0, delimiter? comment⟩ after := by
    change assignments .top (lines content') = _
    rw [script', assignments_append, state, assignments, assignment?_comment isComment,
      afterLine_comment isComment]
    simp
  rw [plain, commented, List.append_cancel_left_eq]
  rcases found : delimiter? comment with _ | name
  · constructor
    · intro _ name mark
      rw [delimiter?_eq_some_iff.mpr mark] at found
      cases found
    · intro _
      rfl
  · rw [assignments_document]
    constructor
    · intro same other mark
      rw [delimiter?_eq_some_iff.mpr mark] at found
      cases found
      apply same
    · intro same
      apply same name (delimiter?_eq_some_iff.mp found)

/-- A source with a comment before its second assignment. -/
def withComment (comment : String) : String :=
  "A=1\n" ++ comment ++ "B=2\n"

/-- A comment with the sign of a shift is passed, and one that tells of a here-document takes the
assignment after it for a line of that. -/
theorem passes_comment_iff_withComment :
  (∀ name, ¬ Marks name "  # \"\x7b 1 << 2".toList)
    ∧ Marks "EOF".toList "# cat <<EOF".toList
    ∧ (readModule (withComment "  # \"\x7b 1 << 2\n").toList).assignments
      = (readModule (withComment "").toList).assignments
    ∧ (readModule (withComment "# cat <<EOF\n").toList).assignments
      ≠ (readModule (withComment "").toList).assignments
  := by
  have unmarked (name : List Char) : ¬ Marks name "  # \"\x7b 1 << 2".toList := by
    rw [← delimiter?_eq_some_iff]
    have missing : delimiter? "  # \"\x7b 1 << 2".toList = none := by
      decide +kernel
    rw [missing]
    intro found
    cases found
  have marked : Marks "EOF".toList "# cat <<EOF".toList := by
    rw [← delimiter?_eq_some_iff]
    decide +kernel
  have script : lines (withComment "").toList = ["A=1".toList] ++ ["B=2".toList] := by
    decide +kernel
  have isComment : IsComment "  # \"\x7b 1 << 2".toList :=
    ⟨"  ".toList, " \"\x7b 1 << 2".toList, rfl, List.all_eq_true.mp (by decide)⟩
  have isComment' : IsComment "# cat <<EOF".toList :=
    ⟨[], " cat <<EOF".toList, rfl, List.all_eq_true.mp (by decide)⟩
  refine ⟨unmarked, marked, ?_, ?_⟩
  · apply (passes_comment_iff script (by decide +kernel) (by decide +kernel) isComment).mpr
    intro name mark
    cases unmarked name mark
  · intro same
    have late := (passes_comment_iff script (by decide +kernel) (by decide +kernel) isComment').mp
      same _ marked
    have taken : (assignments .top ["B=2".toList]).isEmpty = false := by
      decide +kernel
    rw [← late] at taken
    cases taken

end Toolshed.Source.Shell
