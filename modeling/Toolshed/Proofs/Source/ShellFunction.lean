import Toolshed.Proofs.Source.ShellLine
import Toolshed.Proofs.Text.Blanks

/-!
# Functions in shell sources

The lines of a function stand inside of a brace, so what they assign is not declared.  This holds as
long as the lines of its body give back the depth as they found it.  A line with a closing mark that
is not set off, such as that of `$(date)`, ends the function early, and the assignments on the lines
after it are taken for those of the source.
-/

namespace Toolshed.Source.Shell

open Text

/-- The lines of a function. -/
def functionLines (name : List Char) (body : List (List Char)) : List (List Char) :=
  (name ++ ['(', ')', ' ', '\x7b']) :: (body ++ [['\x7d']])

/-- What is open inside a number of braces. -/
def Nesting.inside (depth : Nat) : Nesting :=
  ⟨.plain, depth, none⟩

/-! ### Lines one after another -/

theorem Nesting.isTop_iff {n : Nesting} :
  n.isTop = true ↔ n = .top
  := by
  obtain ⟨quote, depth, delimiter⟩ := n
  simp [isTop, top, and_assoc]

theorem isTop_inside_succ (depth : Nat) :
  (Nesting.inside (depth + 1)).isTop = false
  := by
  simp [Nesting.isTop, Nesting.inside]

theorem assignments_append (n : Nesting) (before after : List (List Char)) :
  assignments n (before ++ after)
    = assignments n before ++ assignments (before.foldl Nesting.afterLine n) after
  := by
  induction before generalizing n with
  | nil => rfl
  | cons line before ih =>
      rw [List.cons_append, assignments, assignments, ih, List.append_assoc]
      rfl

/-- A line without `<` opens no here-document. -/
theorem delimiter?_eq_none {line : List Char} (h : '<' ∉ line) :
  delimiter? line = none
  := by
  induction line with
  | nil => rfl
  | cons c cs ih =>
      rw [List.mem_cons, not_or] at h
      rw [delimiter?, afterStart?, if_neg h.1]
      apply ih h.2

/-- After a balanced line, the depth is less by what is not set off. -/
theorem Nesting.afterLine_inside {line : List Char} {k : Nat} (balanced : IsBalancedLine line k)
    (undelimited : delimiter? line = none) (depth : Nat) :
  (inside depth).afterLine line = inside (depth - k)
  := by
  simp only [afterLine, inside, balanced.scan_eq, undelimited, ite_self]

/-! ### The lines around a body -/

/-- The line that closes a body gives back one brace. -/
theorem isBalancedLine_brace :
  IsBalancedLine ['\x7d'] 1
  := by
  apply IsBalancedLine.bare (Balanced.stray .curly .nil)

theorem toNat_lt_of_isNameChar {c : Char} (h : isNameChar c = true) :
  c.toNat < 128
  := by
  change ((decide (65 ≤ c.val ∧ c.val ≤ 90) || decide (97 ≤ c.val) && decide (c.val ≤ 122)
    || decide (48 ≤ c.val) && decide (c.val ≤ 57)) || decide (c = '_')) = true at h
  simp only [Bool.or_eq_true, Bool.and_eq_true, decide_eq_true_eq] at h
  change c.val.toNat < 128
  rcases h with ((upper | lower) | digit) | rfl
  · have most : c.val.toNat ≤ 90 := upper.2
    omega
  · have most : c.val.toNat ≤ 122 := lower.2
    omega
  · have most : c.val.toNat ≤ 57 := digit.2
    omega
  · decide

theorem isBlank_of_isNameChar {c : Char} (h : isNameChar c = true) :
  isBlank c = false
  := by
  have ascii : ∀ n < 128, isNameChar (Char.ofNat n) = true → isBlank (Char.ofNat n) = false := by
    decide +kernel
  have same := ascii c.toNat (toNat_lt_of_isNameChar h)
  rw [Char.ofNat_toNat] at same
  apply same h

theorem isOrdinary_of_isNameChar {c : Char} (h : isNameChar c = true) :
  isOrdinary c = true
  := by
  rw [isOrdinary, decide_eq_true_eq]
  intro among
  simp only [List.mem_cons, List.not_mem_nil, or_false] at among
  rcases among with rfl | rfl | rfl | rfl | rfl | rfl | rfl | rfl | rfl
  all_goals
    revert h
    decide

/-- Two names are the same if neither goes on in the same text. -/
theorem eq_of_append_cons {name name' rest rest' : List Char} {c c' : Char}
    (isName : ∀ d ∈ name, isNameChar d = true) (isName' : ∀ d ∈ name', isNameChar d = true)
    (ends : isNameChar c = false) (ends' : isNameChar c' = false)
    (same : name ++ c :: rest = name' ++ c' :: rest') :
  c = c'
  := by
  have names := congrArg (List.takeWhile isNameChar) same
  rw [takeWhile_append_stops isName (stops_cons ends),
    takeWhile_append_stops isName' (stops_cons ends')] at names
  rw [names] at same
  apply (List.cons.inj (List.append_cancel_left same)).1

/-- A name: a letter or an underscore, and then the characters of names. -/
inductive IsName : List Char → Prop where
  | intro {c : Char} {others : List Char} (first : (c.isAlpha || c = '_') = true)
      (rest : ∀ d ∈ others, isNameChar d = true) : IsName (c :: others)

theorem IsName.isNameChar {name : List Char} (isName : IsName name) :
  ∀ c ∈ name, isNameChar c = true
  := by
  obtain ⟨first, rest⟩ := isName
  apply List.forall_mem_cons.mpr ⟨_, rest⟩
  rw [Shell.isNameChar, Char.isAlphanum]
  rw [Bool.or_eq_true] at first ⊢
  rcases first with letter | underscore
  · exact .inl (by rw [letter]; rfl)
  · exact .inr underscore

theorem name?_eq_some_iff {cs name rest : List Char} :
  name? cs = some (name, rest) ↔ cs = name ++ rest ∧ IsName name ∧ Stops isNameChar rest
  := by
  constructor
  · intro found
    cases cs with
    | nil => cases found
    | cons c cs =>
        rw [name?] at found
        split at found
        · next first =>
            cases found
            rw [List.cons_append, List.takeWhile_append_dropWhile]
            use rfl
            constructor
            · apply IsName.intro first
              intro d among
              apply List.mem_takeWhile_imp among
            · apply stops_dropWhile
        · cases found
  · rintro ⟨rfl, ⟨first, others⟩, ends⟩
    rw [List.cons_append, name?, if_pos first, takeWhile_append_stops others ends,
      dropWhile_append_stops others ends]

section

variable {name : List Char} (isName : ∀ c ∈ name, isNameChar c = true)

include isName

theorem balanced_name :
  Balanced ' ' (name ++ ['(', ')', ' ']) ' ' 0
  := by
  have plain : ∀ c ∈ name, isOrdinary c = true := by
    intro c among
    apply isOrdinary_of_isNameChar (isName c among)
  have last : name.getLast?.getD ' ' ≠ '$' := by
    rcases Option.eq_none_or_eq_some name.getLast? with unended | ⟨c, ends⟩
    · rw [unended]
      decide
    · rw [ends, Option.getD_some]
      rintro rfl
      have := isName '$' (List.mem_of_getLast? ends)
      revert this
      decide
  apply Balanced.word name plain
  have blank : Balanced ')' [' '] ' ' 0 := Balanced.ordinary (by decide) .nil
  have parentheses := Balanced.group (p := name.getLast?.getD ' ') .round .nil blank
  rw [if_neg last] at parentheses
  apply parentheses

/-- The line that opens a body takes one brace. -/
theorem afterLine_header (depth : Nat) :
  (Nesting.inside depth).afterLine (name ++ ['(', ')', ' ', '\x7b'])
    = Nesting.inside (depth + 1)
  := by
  have scanned : scan .plain depth ' ' (name ++ ['(', ')', ' '] ++ [Bracket.curly.opening])
      = (.plain, depth + 1) := by
    rw [(balanced_name isName).scan_append depth (by simp), scan_opening, scan]
    rfl
  have undelimited : delimiter? (name ++ ['(', ')', ' ', '\x7b']) = none := by
    apply delimiter?_eq_none
    intro among
    rcases List.mem_append.mp among with among | among
    · have := isName '<' among
      revert this
      decide
    · revert among
      decide
  rw [List.append_assoc] at scanned
  change scan .plain depth ' ' (name ++ ['(', ')', ' ', '\x7b']) = _ at scanned
  simp only [Nesting.afterLine, Nesting.inside, scanned, undelimited, ite_self]

theorem trimBoth_header :
  trimBoth (name ++ ['(', ')', ' ', '\x7b']) = name ++ ['(', ')', ' ', '\x7b']
  := by
  apply trimBoth_of_stops
  · cases name with
    | nil => apply stops_cons (by decide)
    | cons c name => apply stops_cons (isBlank_of_isNameChar (isName c List.mem_cons_self))
  · rw [List.reverse_append]
    apply stops_cons (by decide)

theorem afterWord?_header {word : String} (isWord : ∀ c ∈ word.toList, isNameChar c = true) :
  afterWord? word (name ++ ['(', ')', ' ', '\x7b']) = none
  := by
  rw [afterWord?]
  split
  · next c rest found =>
      rw [if_neg]
      intro blank
      have ends : isNameChar c = false := by
        rw [Bool.eq_false_iff]
        intro inside
        rw [isBlank_of_isNameChar inside] at blank
        cases blank
      have same := afterStart?_eq_some.mp found
      rw [← eq_of_append_cons isName isWord (by decide) ends same] at blank
      revert blank
      decide
  · rfl

/-- The line that opens a body is no assignment. -/
theorem assignment?_header :
  assignment? (name ++ ['(', ')', ' ', '\x7b']) = none
  := by
  have undeclared : passDeclarator (name ++ ['(', ')', ' ', '\x7b'])
      = name ++ ['(', ')', ' ', '\x7b'] := by
    rw [passDeclarator, afterWord?_header isName (List.all_eq_true.mp (by decide)),
      afterWord?_header isName (List.all_eq_true.mp (by decide)),
      afterWord?_header isName (List.all_eq_true.mp (by decide))]
  rw [assignment?, trimBoth_header isName, undeclared]
  split
  · next name' rest named =>
      obtain ⟨same, isName', -⟩ := name?_eq_some_iff.mp named
      have ends := eq_of_append_cons isName isName'.isNameChar (by decide) (by decide) same
      exact absurd ends (by decide)
  · rfl

end

/-! ### The lines of a body -/

theorem assignments_inside_zero (line : List Char) (lines : List (List Char)) :
  assignments (.inside 0) (line :: lines)
    = (assignment? line).toList ++ assignments ((Nesting.inside 0).afterLine line) lines
  := by
  rfl

theorem assignments_inside_succ (depth : Nat) (line : List Char) (lines : List (List Char)) :
  assignments (.inside (depth + 1)) (line :: lines)
    = assignments ((Nesting.inside (depth + 1)).afterLine line) lines
  := by
  rw [assignments, isTop_inside_succ]
  rfl

theorem assignment?_brace :
  assignment? ['\x7d'] = none
  := by
  decide +kernel

section

variable {body : List (List Char)} (balanced : ∀ line ∈ body, ∃ k, IsBalancedLine line k)
  (undelimited : ∀ line ∈ body, delimiter? line = none)

include balanced undelimited

/-- At the top level, every assignment on balanced lines counts. -/
theorem assignments_top (after : List (List Char)) :
  assignments (.inside 0) (body ++ after)
    = body.filterMap assignment? ++ assignments (.inside 0) after
  := by
  induction body with
  | nil => rfl
  | cons line body ih =>
      obtain ⟨k, isBalanced⟩ := balanced line List.mem_cons_self
      have next := Nesting.afterLine_inside isBalanced (undelimited line List.mem_cons_self) 0
      rw [Nat.zero_sub] at next
      rw [List.forall_mem_cons] at balanced undelimited
      rw [List.cons_append, assignments_inside_zero, next, ih balanced.2 undelimited.2,
        List.filterMap_cons]
      rcases assignment? line with _ | found
      · rfl
      · rfl

/-- What is taken from a body inside of one brace are the assignments behind the first line with a
mark that is not set off. -/
theorem exists_assignments_inside (after : List (List Char)) :
  ∃ found, assignments (.inside 1) (body ++ ['\x7d'] :: after)
      = found ++ assignments (.inside 0) after
    ∧ (found = [] ↔ body.Pairwise fun line later =>
      (∃ k, IsBalancedLine line (k + 1)) → assignment? later = none)
  := by
  have closed (depth : Nat) (h : depth ≤ 1) :
      (Nesting.inside depth).afterLine ['\x7d'] = .inside 0 := by
    rw [Nesting.afterLine_inside isBalancedLine_brace rfl, Nat.sub_eq_zero_of_le h]
  induction body with
  | nil =>
      use []
      constructor
      · rw [List.nil_append, List.nil_append, assignments_inside_succ, closed 1 le_rfl]
      · simp
  | cons line body ih =>
      obtain ⟨k, isBalanced⟩ := balanced line List.mem_cons_self
      have next := Nesting.afterLine_inside isBalanced (undelimited line List.mem_cons_self) 1
      rw [List.forall_mem_cons] at balanced undelimited
      rw [List.cons_append, assignments_inside_succ, next]
      rcases k with _ | k
      · -- The line gives back the depth, so what counts is behind it.
        obtain ⟨found, same, none_iff⟩ := ih balanced.2 undelimited.2
        use found, same
        rw [none_iff, List.pairwise_cons, iff_and_self]
        rintro _ later _ ⟨j, broken⟩
        cases broken.not_zero_of_succ isBalanced
      · use body.filterMap assignment?
        constructor
        · rw [show 1 - (k + 1) = 0 by omega, assignments_top balanced.2 undelimited.2,
            assignments_inside_zero, closed 0 (Nat.zero_le 1), assignment?_brace]
          rfl
        · rw [List.filterMap_eq_nil_iff, List.pairwise_cons]
          constructor
          · intro unassigned
            constructor
            · intro later among _
              apply unassigned later among
            · apply List.pairwise_of_forall_mem_list
              intro line' _ later among _
              apply unassigned later among
          · rintro ⟨unassigned, _⟩ later among
            apply unassigned later among ⟨k, isBalanced⟩

end

/-! ### Sources with a function -/

/-- A function that stands at the top level of a source adds nothing to what the source declares if
and only if no line of its body that assigns something comes after a line with a closing mark that
is not set off. -/
theorem passes_function_iff {content : List Char} {pre post body : List (List Char)}
    {name : List Char} (script : lines content = pre ++ (functionLines name body ++ post))
    (atTop : (pre.foldl Nesting.afterLine .top).isTop = true)
    (isName : ∀ c ∈ name, isNameChar c = true)
    (balanced : ∀ line ∈ body, ∃ k, IsBalancedLine line k)
    (undelimited : ∀ line ∈ body, delimiter? line = none) :
  (readModule content).assignments = assignments .top pre ++ assignments .top post
    ↔ body.Pairwise fun line later =>
      (∃ k, IsBalancedLine line (k + 1)) → assignment? later = none
  := by
  obtain ⟨found, inside, none_iff⟩ := exists_assignments_inside balanced undelimited post
  have read : (readModule content).assignments
      = assignments .top pre ++ (found ++ assignments .top post) := by
    have header := assignments_inside_zero (name ++ ['(', ')', ' ', '\x7b'])
      (body ++ ['\x7d'] :: post)
    rw [assignment?_header isName, afterLine_header isName, inside] at header
    change assignments .top (lines content) = _
    rw [script, assignments_append, Nesting.isTop_iff.mp atTop, functionLines, List.cons_append,
      List.append_assoc]
    apply congrArg _ header
  rw [read, ← none_iff, List.append_cancel_left_eq, List.append_left_eq_self]

/-- A source with a function of two lines between two assignments. -/
def withFunction (first second : String) : String :=
  "A=1\nf() \x7b\n" ++ first ++ "\n" ++ second ++ "\n\x7d\nD=3\n"

/-- The assignment in a function is not declared behind a line that is set off, and is declared
behind one that is not. -/
theorem passes_function_iff_withFunction :
  IsBalancedLine "  echo \"\x7b $B\" # (".toList 0 ∧ IsBalancedLine "  C=2".toList 0
    ∧ IsBalancedLine "  x=$(y)".toList 1
    ∧ (readModule (withFunction "  echo \"\x7b $B\" # (" "  C=2").toList).assignments
      = assignments .top ["A=1".toList] ++ assignments .top ["D=3".toList]
    ∧ (readModule (withFunction "  x=$(y)" "  C=2").toList).assignments
      ≠ assignments .top ["A=1".toList] ++ assignments .top ["D=3".toList]
  := by
  have plain : IsBalancedLine "  C=2".toList 0 := by
    apply IsBalancedLine.bare (Balanced.word "  C=2".toList (List.all_eq_true.mp (by decide)) .nil)
  have quoted : IsBalancedLine "  echo \"\x7b $B\" # (".toList 0 := by
    have inside : IsQuoted "\x7b $B".toList := by
      iterate 4 apply IsQuoted.character (by decide) (by decide)
      apply IsQuoted.nil
    have blank : Balanced '"' [' '] ' ' 0 := Balanced.ordinary (by decide) .nil
    have text := Balanced.word (p := ' ') "  echo ".toList (List.all_eq_true.mp (by decide))
      (.double inside blank)
    apply IsBalancedLine.commented text (by decide) " (".toList
  have broken : IsBalancedLine "  x=$(y)".toList 1 := by
    have inside : Balanced '(' ['y'] 'y' 0 := Balanced.ordinary (by decide) .nil
    have expansion : Balanced '$' ('(' :: (['y'] ++ [')'])) ')' 1 :=
      Balanced.group .round inside .nil
    apply IsBalancedLine.bare
    apply Balanced.word "  x=".toList (List.all_eq_true.mp (by decide))
      (Balanced.dollar (by decide) expansion)
  have script : lines (withFunction "  echo \"\x7b $B\" # (" "  C=2").toList
      = ["A=1".toList] ++ (functionLines ['f'] ["  echo \"\x7b $B\" # (".toList, "  C=2".toList]
        ++ ["D=3".toList]) := by
    decide +kernel
  have script' : lines (withFunction "  x=$(y)" "  C=2").toList
      = ["A=1".toList] ++ (functionLines ['f'] ["  x=$(y)".toList, "  C=2".toList]
        ++ ["D=3".toList]) := by
    decide +kernel
  have balanced : ∀ line ∈ ["  echo \"\x7b $B\" # (".toList, "  C=2".toList],
      ∃ k, IsBalancedLine line k :=
    List.forall_mem_cons.mpr ⟨⟨0, quoted⟩, List.forall_mem_singleton.mpr ⟨0, plain⟩⟩
  have balanced' : ∀ line ∈ ["  x=$(y)".toList, "  C=2".toList], ∃ k, IsBalancedLine line k :=
    List.forall_mem_cons.mpr ⟨⟨1, broken⟩, List.forall_mem_singleton.mpr ⟨0, plain⟩⟩
  refine ⟨quoted, plain, broken, ?_, ?_⟩
  · apply (passes_function_iff script (by decide +kernel) (List.all_eq_true.mp (by decide)) balanced
      (by decide)).mpr
    apply List.pairwise_pair.mpr
    rintro ⟨k, unbalanced⟩
    cases unbalanced.not_zero_of_succ quoted
  · intro same
    have late := (passes_function_iff script' (by decide +kernel) (List.all_eq_true.mp (by decide))
      balanced' (by decide)).mp same
    have taken : (assignment? "  C=2".toList).isNone = false := by
      decide +kernel
    rw [List.pairwise_pair.mp late ⟨0, broken⟩] at taken
    cases taken

end Toolshed.Source.Shell
