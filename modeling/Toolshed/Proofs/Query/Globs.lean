import Toolshed.Query.Glob
import Toolshed.Proofs.Query.Regex

/-!
# What globs match

A pattern is written part by part: a star, a question mark, a class with what it lists, a bracket
that no other one closes, or any other character.  The expression that the pattern is translated to
has a piece for each of these parts, and the piece stands for the same characters, provided that
no range of a class begins or ends with a dash.  In an expression the dash of such a range and the
one beside it mean something else.

Main statement: a pattern that is so written makes a glob, and the glob matches exactly the words
that the parts of the pattern match (`matchesWord_iff_matches`).
-/

namespace Toolshed.Query

open Regex

/-! ### Patterns and words -/

/-- A class lists characters and ranges of characters. -/
inductive Member where
  | single (c : Char)
  | range (first last : Char)
deriving DecidableEq

namespace Member

/-- How a member is written. -/
def text : Member → List Char
  | single c => [c]
  | range first last => [first, '-', last]

/-- A character is listed. -/
def Holds : Member → Char → Prop
  | single d, c => c = d
  | range first last, c => first ≤ c ∧ c ≤ last

/-- A dash is no member by itself, and no range is reversed. -/
def IsProper : Member → Prop
  | single c => c ≠ '-'
  | range first last => first ≤ last

/-- No range begins or ends with a dash. -/
def IsPlain : Member → Prop
  | single _ => True
  | range first last => first ≠ '-' ∧ last ≠ '-'

instance (m : Member) (c : Char) : Decidable (m.Holds c) :=
  match m with
  | single d => inferInstanceAs (Decidable (c = d))
  | range first last => inferInstanceAs (Decidable (first ≤ c ∧ c ≤ last))

instance (m : Member) : Decidable m.IsProper :=
  match m with
  | single c => inferInstanceAs (Decidable (c ≠ '-'))
  | range first last => inferInstanceAs (Decidable (first ≤ last))

instance (m : Member) : Decidable m.IsPlain :=
  match m with
  | single _ => isTrue trivial
  | range first last => inferInstanceAs (Decidable (first ≠ '-' ∧ last ≠ '-'))

end Member

/-- How members are written one after another. -/
def membersText (members : List Member) : List Char :=
  members.flatMap Member.text

/-- A part of a pattern. -/
inductive Part where
  | anyText
  | anyChar
  | oneOf (members : List Member)
  | noneOf (members : List Member)
  | exactly (c : Char)
deriving DecidableEq

/-- What the classes of a part list. -/
def Part.members : Part → List Member
  | oneOf members | noneOf members => members
  | anyText | anyChar | exactly _ => []

/-- A pattern is written part by part.  An exclamation mark at the beginning of a class negates it,
and a bracket that no other one closes stands for itself. -/
inductive IsWrittenAs : List Char → List Part → Prop where
  | nil : IsWrittenAs [] []
  | anyText {cs : List Char} {parts : List Part} (others : IsWrittenAs cs parts) :
      IsWrittenAs ('*' :: cs) (.anyText :: parts)
  | anyChar {cs : List Char} {parts : List Part} (others : IsWrittenAs cs parts) :
      IsWrittenAs ('?' :: cs) (.anyChar :: parts)
  | oneOf {cs rest : List Char} {members : List Member} {parts : List Part}
      (closed : bracketParts cs = some (membersText members, rest))
      (included : (membersText members).head? ≠ some '!') (proper : ∀ m ∈ members, m.IsProper)
      (others : IsWrittenAs rest parts) : IsWrittenAs ('[' :: cs) (.oneOf members :: parts)
  | noneOf {cs rest : List Char} {members : List Member} {parts : List Part}
      (closed : bracketParts cs = some ('!' :: membersText members, rest))
      (proper : ∀ m ∈ members, m.IsProper) (others : IsWrittenAs rest parts) :
      IsWrittenAs ('[' :: cs) (.noneOf members :: parts)
  | bracket {cs : List Char} {parts : List Part} (unclosed : bracketParts cs = none)
      (others : IsWrittenAs cs parts) : IsWrittenAs ('[' :: cs) (.exactly '[' :: parts)
  | exactly {c : Char} {cs : List Char} {parts : List Part} (plain : c ∉ ['*', '?', '['])
      (others : IsWrittenAs cs parts) : IsWrittenAs (c :: cs) (.exactly c :: parts)

/-- The parts of a pattern match a word one after another. -/
inductive Matches : List Part → List Char → Prop where
  | nil : Matches [] []
  | anyText {parts : List Part} {word : List Char} (skipped : List Char)
      (others : Matches parts word) : Matches (.anyText :: parts) (skipped ++ word)
  | anyChar {parts : List Part} {word : List Char} (c : Char) (others : Matches parts word) :
      Matches (.anyChar :: parts) (c :: word)
  | oneOf {members : List Member} {parts : List Part} {c : Char} {word : List Char}
      (listed : ∃ m ∈ members, m.Holds c) (others : Matches parts word) :
      Matches (.oneOf members :: parts) (c :: word)
  | noneOf {members : List Member} {parts : List Part} {c : Char} {word : List Char}
      (unlisted : ∀ m ∈ members, ¬ m.Holds c) (others : Matches parts word) :
      Matches (.noneOf members :: parts) (c :: word)
  | exactly {parts : List Part} {word : List Char} (c : Char) (others : Matches parts word) :
      Matches (.exactly c :: parts) (c :: word)

/-! ### Classes -/

namespace Member

/-- The range of a member. -/
def span : Member → Span
  | single c => (c, c)
  | range first last => (first, last)

/-- The symbols of a member in an expression. -/
def symbols : Member → List Symbol
  | single c => [.literal c]
  | range first last => [.literal first, .mark '-', .literal last]

theorem holds_span (m : Member) (c : Char) :
  m.span.holds c = true ↔ m.Holds c
  := by
  cases m with
  | single d =>
      rw [span, Span.holds, Bool.and_eq_true, decide_eq_true_eq, decide_eq_true_eq, Holds,
        ← Char.toNat_inj]
      exact ⟨fun ⟨least, most⟩ => Nat.le_antisymm most least, fun same => ⟨same.ge, same.le⟩⟩
  | range first last =>
      rw [span, Span.holds, Bool.and_eq_true, decide_eq_true_eq, decide_eq_true_eq]
      exact Iff.rfl

end Member

/-- The symbol of a character of a class. -/
def memberSymbol (c : Char) : Symbol :=
  if c = '-' then .mark '-' else .literal c

theorem symbols?_memberText (c : Char) (rest : List Char) :
  symbols? (memberText c ++ rest) = (symbols? rest).map (memberSymbol c :: ·)
  := by
  rw [memberText, memberSymbol]
  split
  · apply symbols?_mark rfl (by decide)
  · apply symbols?_escape

theorem symbols?_flatMap_memberText (text rest : List Char) :
  symbols? (text.flatMap memberText ++ rest) = (symbols? rest).map (text.map memberSymbol ++ ·)
  := by
  induction text with
  | nil => exact Option.map_id'.symm
  | cons c text ih =>
      rw [List.flatMap_cons, List.append_assoc, symbols?_memberText, ih, Option.map_map]
      rfl

theorem Member.map_memberSymbol_text {m : Member} (proper : m.IsProper) (plain : m.IsPlain) :
  m.text.map memberSymbol = m.symbols
  := by
  cases m with
  | single c =>
      have other : c ≠ '-' := proper
      simp [text, symbols, memberSymbol, other]
  | range first last =>
      obtain ⟨notFirst, notLast⟩ := plain
      simp [text, symbols, memberSymbol, notFirst, notLast]

theorem map_memberSymbol_membersText {members : List Member}
    (proper : ∀ m ∈ members, m.IsProper) (plain : ∀ m ∈ members, m.IsPlain) :
  (membersText members).map memberSymbol = members.flatMap Member.symbols
  := by
  rw [membersText, List.map_flatMap]
  apply List.flatMap_congr
  intro m among
  apply Member.map_memberSymbol_text (proper m among) (plain m among)

/-- What is listed begins with a character that stands for itself. -/
theorem head?_flatMap_symbols (members : List Member) (c : Char) :
  (members.flatMap Member.symbols).head? ≠ some (.mark c)
  := by
  cases members with
  | nil => nofun
  | cons m members =>
      cases m with
      | single d => nofun
      | range first last => nofun

theorem all_isMember_symbols (members : List Member) :
  (members.flatMap Member.symbols).all Symbol.isMember = true
  := by
  rw [List.all_flatMap, List.all_eq_true]
  intro m _
  cases m with
  | single d => rfl
  | range first last => rfl

/-- What is listed is read member by member. -/
theorem readSpans_symbols {members : List Member} (proper : ∀ m ∈ members, m.IsProper)
    (plain : ∀ m ∈ members, m.IsPlain) :
  readSpans (members.flatMap Member.symbols) = some (members.map Member.span, [])
  := by
  induction members with
  | nil => rfl
  | cons m members ih =>
      obtain ⟨properFirst, properOthers⟩ := List.forall_mem_cons.mp proper
      obtain ⟨plainFirst, plainOthers⟩ := List.forall_mem_cons.mp plain
      have reads := ih properOthers plainOthers
      rw [List.flatMap_cons]
      cases m with
      | single c =>
          rw [Member.symbols, List.singleton_append, readSpans, reads]
          · rfl
          · nofun
          · intro y rest same
            apply head?_flatMap_symbols members '-'
            rw [same, List.head?_cons]
      | range first last =>
          have ordered : ¬ last.toNat < first.toNat := Nat.not_lt.mpr properFirst
          rw [Member.symbols, List.cons_append, List.cons_append, List.singleton_append, readSpans,
            if_neg (by nofun)]
          · simp only [Symbol.char, if_neg ordered, reads]
            rfl
          · nofun

/-- The class of some members, or of all characters but these. -/
def bracketOf (negated : Bool) (members : List Member) : Bracket :=
  ⟨negated, members.map Member.span, []⟩

/-- Symbols that begin with no dash have no dashes at the beginning. -/
theorem takeWhile_dash {symbols : List Symbol} (noDash : symbols.head? ≠ some (.mark '-')) :
  symbols.takeWhile (· = .mark '-') = [] ∧ symbols.dropWhile (· = .mark '-') = symbols
  := by
  cases symbols with
  | nil => exact ⟨rfl, rfl⟩
  | cons x symbols =>
      have other : decide (x = .mark '-') = false := by
        rw [decide_eq_false_iff_not]
        rintro rfl
        apply noDash rfl
      rw [List.takeWhile_cons, List.dropWhile_cons, other]
      exact ⟨rfl, rfl⟩

theorem readBracket_symbols {members : List Member} (proper : ∀ m ∈ members, m.IsProper)
    (plain : ∀ m ∈ members, m.IsPlain) :
  readBracket (members.flatMap Member.symbols) = some (bracketOf false members)
  := by
  obtain ⟨noDashes, all⟩ := takeWhile_dash (head?_flatMap_symbols members '-')
  rw [readBracket]
  · simp only [noDashes, all, readSpans_symbols proper plain, all_isMember_symbols members]
    rfl
  · rintro rest same
    apply head?_flatMap_symbols members '^'
    rw [same, List.head?_cons]

theorem readBracket_negated {members : List Member} (proper : ∀ m ∈ members, m.IsProper)
    (plain : ∀ m ∈ members, m.IsPlain) :
  readBracket (.mark '^' :: members.flatMap Member.symbols) = some (bracketOf true members)
  := by
  obtain ⟨noDashes, all⟩ := takeWhile_dash (head?_flatMap_symbols members '-')
  simp only [readBracket, noDashes, all, readSpans_symbols proper plain,
    all_isMember_symbols members]
  rfl

/-! ### Translated patterns -/

/-- The piece that stands for the same characters as a part. -/
def Part.piece : Part → Piece
  | anyText => .anyText
  | anyChar => .anyChar
  | oneOf members => .oneOf (bracketOf false members)
  | noneOf members => .oneOf (bracketOf true members)
  | exactly c => .exactly c

theorem not_mem_flatMap_symbols (members : List Member) {c : Char} (other : c ≠ '-') :
  Symbol.mark c ∉ members.flatMap Member.symbols
  := by
  rw [List.mem_flatMap]
  rintro ⟨m, -, among⟩
  cases m with
  | single d => simp [Member.symbols] at among
  | range first last => simp [Member.symbols, other] at among

/-- A class of an expression is read as what the class of the pattern lists. -/
theorem readText_classText {members : List Member} (proper : ∀ m ∈ members, m.IsProper)
    (plain : ∀ m ∈ members, m.IsPlain) (included : (membersText members).head? ≠ some '!')
    (rest : List Char) :
  readText (classText (membersText members) ++ rest)
    = (readText rest).map (.oneOf (bracketOf false members) :: ·)
  := by
  have reads : ∀ others, symbols? ((membersText members).flatMap memberText ++ others)
      = (symbols? others).map (members.flatMap Member.symbols ++ ·) := by
    intro others
    rw [symbols?_flatMap_memberText, map_memberSymbol_membersText proper plain]
  have brackets := readText_class reads (not_mem_flatMap_symbols members (by decide)) rest
  rw [readBracket_symbols proper plain, Option.bind_some] at brackets
  rw [← brackets, classText]
  · simp
  · rintro others same
    apply included
    rw [same, List.head?_cons]

theorem readText_negatedText {members : List Member} (proper : ∀ m ∈ members, m.IsProper)
    (plain : ∀ m ∈ members, m.IsPlain) (rest : List Char) :
  readText (classText ('!' :: membersText members) ++ rest)
    = (readText rest).map (.oneOf (bracketOf true members) :: ·)
  := by
  have reads : ∀ others, symbols? ('^' :: (membersText members).flatMap memberText ++ others)
      = (symbols? others).map (.mark '^' :: members.flatMap Member.symbols ++ ·) := by
    intro others
    rw [List.cons_append, symbols?_mark rfl (by decide), symbols?_flatMap_memberText,
      map_memberSymbol_membersText proper plain, Option.map_map]
    rfl
  have inner : Symbol.mark ']' ∉ Symbol.mark '^' :: members.flatMap Member.symbols := by
    rw [List.mem_cons, not_or]
    exact ⟨by nofun, not_mem_flatMap_symbols members (by decide)⟩
  have brackets := readText_class reads inner rest
  rw [readBracket_negated proper plain, Option.bind_some] at brackets
  rw [← brackets, classText]
  simp

theorem head?_escape_append (c : Char) (rest : List Char) :
  (escape c ++ rest).head? ≠ some '*'
  := by
  rw [escape]
  intro same
  split at same
  · cases same
  · next plain =>
      cases same
      apply plain rfl

/-- No star stands at the beginning of an expression. -/
theorem head?_translate (pattern rest : List Char) :
  (translate pattern ++ '$' :: rest).head? ≠ some '*'
  := by
  fun_cases translate pattern
  · nofun
  · nofun
  · nofun
  · next members _ _ _ =>
      unfold classText
      split
      · nofun
      · nofun
  · rw [List.append_assoc]
    apply head?_escape_append
  · rw [List.append_assoc]
    apply head?_escape_append

theorem translate_class {cs members rest : List Char}
    (closed : bracketParts cs = some (members, rest)) :
  translate ('[' :: cs) = classText members ++ translate rest
  := by
  rw [translate]
  split
  · next found =>
      cases closed.symm.trans found
      rfl
  · next unclosed => cases closed.symm.trans unclosed

theorem translate_unclosed {cs : List Char} (unclosed : bracketParts cs = none) :
  translate ('[' :: cs) = escape '[' ++ translate cs
  := by
  rw [translate]
  split
  · next found => cases unclosed.symm.trans found
  · rfl

/-- A pattern is translated to an expression whose pieces stand for its parts. -/
theorem readText_translate {pattern : List Char} {parts : List Part}
    (written : IsWrittenAs pattern parts)
    (plain : ∀ part ∈ parts, ∀ m ∈ part.members, m.IsPlain) :
  readText (translate pattern ++ ['$']) = some (parts.map Part.piece)
  := by
  induction written with
  | nil =>
      rw [translate]
      apply readText_end
  | anyText _ ih =>
      rw [translate, List.cons_append, List.cons_append, readText_anyText,
        ih (List.forall_mem_cons.mp plain).2]
      rfl
  | @anyChar cs _ _ ih =>
      rw [translate, List.cons_append, readText_anyChar (head?_translate cs []),
        ih (List.forall_mem_cons.mp plain).2]
      rfl
  | oneOf closed included proper _ ih =>
      obtain ⟨plainHere, plainOthers⟩ := List.forall_mem_cons.mp plain
      rw [translate_class closed, List.append_assoc, readText_classText proper plainHere included,
        ih plainOthers]
      rfl
  | noneOf closed proper _ ih =>
      obtain ⟨plainHere, plainOthers⟩ := List.forall_mem_cons.mp plain
      rw [translate_class closed, List.append_assoc, readText_negatedText proper plainHere,
        ih plainOthers]
      rfl
  | bracket unclosed _ ih =>
      rw [translate_unclosed unclosed, List.append_assoc, readText_escape,
        ih (List.forall_mem_cons.mp plain).2]
      rfl
  | exactly other _ ih =>
      simp only [List.mem_cons, List.not_mem_nil, or_false, not_or] at other
      rw [translate, List.append_assoc, readText_escape, ih (List.forall_mem_cons.mp plain).2]
      · rfl
      · exact other.1
      · exact other.2.1
      · exact other.2.2

/-! ### Matching -/

theorem holds_bracketOf (negated : Bool) (members : List Member) (c : Char) :
  (bracketOf negated members).holds c = true
    ↔ if negated then ∀ m ∈ members, ¬ m.Holds c else ∃ m ∈ members, m.Holds c
  := by
  cases negated with
  | false => simp [bracketOf, Bracket.holds, Member.holds_span]
  | true => simp [bracketOf, Bracket.holds, ← Member.holds_span]

/-- A part that is no star stands for a single character. -/
def Part.Holds : Part → Char → Prop
  | anyText, _ => False
  | anyChar, _ => True
  | oneOf members, c => ∃ m ∈ members, m.Holds c
  | noneOf members, c => ∀ m ∈ members, ¬ m.Holds c
  | exactly d, c => c = d

theorem Part.piece_ne_anyText {part : Part} (single : part ≠ .anyText) :
  part.piece ≠ .anyText
  := by
  cases part with
  | anyText => cases single rfl
  | anyChar | oneOf _ | noneOf _ | exactly _ => nofun

theorem Part.holds_piece {part : Part} (single : part ≠ .anyText) (c : Char) :
  part.piece.holds c = true ↔ part.Holds c
  := by
  cases part with
  | anyText => cases single rfl
  | anyChar => exact iff_of_true rfl trivial
  | oneOf members => apply holds_bracketOf false
  | noneOf members => apply holds_bracketOf true
  | exactly d => apply beq_iff_eq

theorem matches_cons_iff {part : Part} (single : part ≠ .anyText) {parts : List Part}
    {word : List Char} :
  Matches (part :: parts) word ↔ ∃ c rest, word = c :: rest ∧ part.Holds c ∧ Matches parts rest
  := by
  constructor
  · intro matched
    cases matched with
    | anyText => cases single rfl
    | anyChar c others => exact ⟨c, _, rfl, trivial, others⟩
    | oneOf listed others => exact ⟨_, _, rfl, listed, others⟩
    | noneOf unlisted others => exact ⟨_, _, rfl, unlisted, others⟩
    | exactly c others => exact ⟨c, _, rfl, rfl, others⟩
  · rintro ⟨c, rest, rfl, holds, others⟩
    cases part with
    | anyText => cases holds
    | anyChar => exact .anyChar c others
    | oneOf members => exact .oneOf holds others
    | noneOf members => exact .noneOf holds others
    | exactly d =>
        cases holds
        exact .exactly c others

/-- The pieces of parts match what the parts match. -/
theorem fits_iff_matches {parts : List Part} {word : List Char} :
  Fits (parts.map Part.piece) word ↔ Matches parts word
  := by
  induction parts generalizing word with
  | nil =>
      constructor
      · rintro ⟨⟩
        exact .nil
      · rintro ⟨⟩
        exact .nil
  | cons part parts ih =>
      rw [List.map_cons]
      by_cases wide : part = .anyText
      · subst wide
        rw [Part.piece, fits_anyText_iff]
        constructor
        · rintro ⟨skipped, rest, rfl, others⟩
          exact .anyText skipped (ih.mp others)
        · intro matched
          cases matched with
          | anyText skipped others => exact ⟨skipped, _, rfl, ih.mpr others⟩
      · rw [fits_cons_iff (Part.piece_ne_anyText wide), matches_cons_iff wide]
        apply exists_congr
        intro c
        apply exists_congr
        intro rest
        rw [part.holds_piece wide, ih]

theorem matchesWord_iff_fits (glob : Glob) (word : List Char) :
  glob.matchesWord word = true ↔ Fits glob.pieces word
  := (tells_matchRow word glob.pieces).headD

/-- A pattern whose ranges neither begin nor end with a dash makes a glob that matches the words
its parts match. -/
theorem matchesWord_iff_matches {pattern : List Char} {parts : List Part}
    (written : IsWrittenAs pattern parts)
    (plain : ∀ part ∈ parts, ∀ m ∈ part.members, m.IsPlain) :
  ∃ glob, Glob.ofPattern? pattern = some glob ∧
    ∀ word, glob.matchesWord word = true ↔ Matches parts word
  := by
  have reads : Regex.read? (expressionOf pattern) = some (parts.map Part.piece) := by
    rw [expressionOf, List.append_assoc, read?_opening, readText_translate written plain]
  refine ⟨⟨pattern, parts.map Part.piece⟩, ?_, ?_⟩
  · rw [Glob.ofPattern?, reads, Option.map_some]
  · intro word
    rw [matchesWord_iff_fits, fits_iff_matches]

/-- A pattern with a class, and with a bracket that no other one closes. -/
def unclosedPattern : List Char :=
  ['[', '!', 'a', '-', 'c', '_', ']', '?', '[', '*', '.']

/-- The parts of the pattern. -/
def unclosedParts : List Part :=
  [.noneOf [.range 'a' 'c', .single '_'], .anyChar, .exactly '[', .anyText, .exactly '.']

/-- The pattern `[!a-c_]?[*.` matches what its parts do; `[+--]`, a range up to the dash, does not
match the comma, which lies in the range. -/
theorem matchesWord_iff_matches_unclosed :
  IsWrittenAs unclosedPattern unclosedParts
    ∧ (∀ part ∈ unclosedParts, ∀ m ∈ part.members, m.IsPlain)
    ∧ (∃ glob, Glob.ofPattern? unclosedPattern = some glob ∧
      ∀ word, glob.matchesWord word = true ↔ Matches unclosedParts word)
    ∧ IsWrittenAs ['[', '+', '-', '-', ']'] [.oneOf [.range '+' '-']]
    ∧ Matches [.oneOf [.range '+' '-']] [',']
    ∧ (Glob.ofPattern? ['[', '+', '-', '-', ']']).map (·.matchesWord [',']) = some false
  := by
  have plain : ∀ part ∈ unclosedParts, ∀ m ∈ part.members, m.IsPlain := by
    decide
  have written : IsWrittenAs unclosedPattern unclosedParts := by
    apply IsWrittenAs.noneOf rfl (by decide)
    apply IsWrittenAs.anyChar
    apply IsWrittenAs.bracket rfl
    apply IsWrittenAs.anyText
    apply IsWrittenAs.exactly (by decide)
    apply IsWrittenAs.nil
  have dash : IsWrittenAs ['[', '+', '-', '-', ']'] [.oneOf [.range '+' '-']] := by
    apply IsWrittenAs.oneOf rfl (by decide) (by decide)
    apply IsWrittenAs.nil
  have comma : Matches [.oneOf [.range '+' '-']] [','] := by
    apply Matches.oneOf (by decide)
    apply Matches.nil
  exact ⟨written, plain, matchesWord_iff_matches written plain, dash, comma, by decide +kernel⟩

end Toolshed.Query
