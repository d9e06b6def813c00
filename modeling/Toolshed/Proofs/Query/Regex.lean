import Toolshed.Query.Regex
import Toolshed.Proofs.Text.Runs
import Mathlib.Data.List.Basic

/-!
# What expressions are read as, and what they match

The symbols of an expression are read from its front, and so are its pieces: an escaped character
is a piece, a dot is one, with the star after it if there is one, and so is a class.  The row of a
text and of pieces tells for each ending of the text whether the pieces match it.
-/

namespace Toolshed.Query

namespace Regex

/-! ### Symbols -/

theorem symbols?_literal {c : Char} (plain : isMark c = false) (text : List Char) :
  symbols? (c :: text) = (symbols? text).map (.literal c :: ·)
  := by
  have other : c ≠ '\\' := by
    rintro rfl
    cases plain
  rw [symbols?, plain]
  · rfl
  · apply other

theorem symbols?_mark {c : Char} (mark : isMark c = true) (other : c ≠ '\\') (text : List Char) :
  symbols? (c :: text) = (symbols? text).map (.mark c :: ·)
  := by
  rw [symbols?, mark]
  · rfl
  · apply other

theorem symbols?_escape (c : Char) (text : List Char) :
  symbols? (escape c ++ text) = (symbols? text).map (.literal c :: ·)
  := by
  rw [escape]
  split
  · next mark =>
      rw [List.cons_append, List.cons_append, symbols?]
      simp only [mark, if_true, List.nil_append]
  · next plain => apply symbols?_literal (Bool.eq_false_iff.mpr plain)

/-- Only a mark is read as a mark. -/
theorem head?_of_symbols? {text : List Char} {c : Char} {rest : List Symbol}
    (reads : symbols? text = some (.mark c :: rest)) :
  text.head? = some c
  := by
  cases text with
  | nil => cases reads
  | cons d text =>
      by_cases escaped : d = '\\'
      · subst escaped
        cases text with
        | nil => cases reads
        | cons e text =>
            rw [symbols?] at reads
            split at reads
            · obtain ⟨_, _, same⟩ := Option.map_eq_some_iff.mp reads
              cases same
            · cases reads
      · cases mark : isMark d with
        | true =>
            rw [symbols?_mark mark escaped] at reads
            obtain ⟨_, _, same⟩ := Option.map_eq_some_iff.mp reads
            cases same
            rfl
        | false =>
            rw [symbols?_literal mark] at reads
            obtain ⟨_, _, same⟩ := Option.map_eq_some_iff.mp reads
            cases same

/-! ### Pieces -/

/-- The pieces of an expression after its opening. -/
def readText (text : List Char) : Option (List Piece) :=
  (symbols? text).bind readPieces

theorem read?_opening (text : List Char) :
  read? (opening ++ text) = readText text
  := by
  have opened : Text.afterStart? opening (opening ++ text) = some text :=
    Text.afterStart?_eq_some.mpr rfl
  rw [read?, opened]
  rfl

theorem readText_end :
  readText ['$'] = some []
  := by
  rw [readText, symbols?_mark rfl (by decide), symbols?, Option.map_some, Option.bind_some,
    readPieces]

theorem readText_escape (c : Char) (text : List Char) :
  readText (escape c ++ text) = (readText text).map (.exactly c :: ·)
  := by
  rw [readText, symbols?_escape, readText]
  cases symbols? text with
  | none => rfl
  | some symbols => rw [Option.map_some, Option.bind_some, readPieces, Option.bind_some]

theorem readText_anyText (text : List Char) :
  readText ('.' :: '*' :: text) = (readText text).map (.anyText :: ·)
  := by
  rw [readText, symbols?_mark rfl (by decide), symbols?_mark rfl (by decide), readText]
  cases symbols? text with
  | none => rfl
  | some symbols =>
      rw [Option.map_some, Option.map_some, Option.bind_some, readPieces, Option.bind_some]

theorem readText_anyChar {text : List Char} (noStar : text.head? ≠ some '*') :
  readText ('.' :: text) = (readText text).map (.anyChar :: ·)
  := by
  rw [readText, symbols?_mark rfl (by decide), readText]
  cases found : symbols? text with
  | none => rfl
  | some symbols =>
      rw [Option.map_some, Option.bind_some, readPieces, Option.bind_some]
      rintro rest rfl
      apply noStar (head?_of_symbols? found)

/-- A text whose symbols are read as the members of a class is one between brackets. -/
theorem readText_class {members : List Char} {symbols : List Symbol}
    (reads : ∀ rest, symbols? (members ++ rest) = (symbols? rest).map (symbols ++ ·))
    (inner : Symbol.mark ']' ∉ symbols) (text : List Char) :
  readText ('[' :: (members ++ ']' :: text))
    = (readBracket symbols).bind fun bracket => (readText text).map (.oneOf bracket :: ·)
  := by
  rw [readText, symbols?_mark rfl (by decide), reads, symbols?_mark rfl (by decide), readText]
  cases symbols? text with
  | none => simp
  | some others =>
      have inside : ∀ x ∈ symbols, decide (x ≠ .mark ']') = true := by
        intro x among
        rw [decide_eq_true_eq]
        rintro rfl
        apply inner among
      rw [Option.map_some, Option.map_some, Option.map_some, Option.bind_some, readPieces,
        List.takeWhile_append_of_pos inside, List.dropWhile_append_of_pos inside]
      simp only [Option.bind_eq_bind, List.dropWhile_cons, List.takeWhile_cons, ne_eq, not_true,
        decide_false, Bool.false_eq_true, if_false, List.append_nil, List.drop_one, List.tail_cons,
        Option.bind_some, Option.map_eq_bind]
      rfl

end Regex

/-! ### Matching -/

/-- The pieces of a row match a text one after another. -/
inductive Fits : List Piece → List Char → Prop where
  | nil : Fits [] []
  | anyText {pieces : List Piece} {text : List Char} (skipped : List Char)
      (others : Fits pieces text) : Fits (.anyText :: pieces) (skipped ++ text)
  | one {piece : Piece} {pieces : List Piece} {c : Char} {text : List Char}
      (single : piece ≠ .anyText) (holds : piece.holds c = true) (others : Fits pieces text) :
      Fits (piece :: pieces) (c :: text)

/-- A row tells for every ending of a text, the longest first, whether it has a property. -/
inductive Tells (P : List Char → Prop) : List Bool → List Char → Prop where
  | nil {b : Bool} (here : b = true ↔ P []) : Tells P [b] []
  | cons {b : Bool} {row : List Bool} {c : Char} {cs : List Char} (here : b = true ↔ P (c :: cs))
      (others : Tells P row cs) : Tells P (b :: row) (c :: cs)

theorem Tells.headD {P : List Char → Prop} {row : List Bool} {cs : List Char}
    (tells : Tells P row cs) :
  row.headD false = true ↔ P cs
  := by
  cases tells with
  | nil here => apply here
  | cons here _ => apply here

theorem tells_fits_nil (cs : List Char) :
  Tells (Fits []) (cs.foldr (fun _ row => false :: row) [true]) cs
  := by
  induction cs with
  | nil =>
      apply Tells.nil
      exact iff_of_true rfl .nil
  | cons c cs ih =>
      apply Tells.cons _ ih
      apply iff_of_false Bool.false_ne_true
      rintro ⟨⟩

theorem tells_anyTextRow {P : List Char → Prop} {row : List Bool} {cs : List Char}
    (tells : Tells P row cs) :
  Tells (fun text => ∃ skipped rest, text = skipped ++ rest ∧ P rest) (anyTextRow row) cs
  := by
  induction tells with
  | @nil b here =>
      apply Tells.nil
      rw [anyTextRow, List.headD_nil, Bool.or_false, here]
      constructor
      · intro holds
        exact ⟨[], [], rfl, holds⟩
      · rintro ⟨skipped, rest, same, holds⟩
        rw [(List.append_eq_nil_iff.mp same.symm).2] at holds
        apply holds
  | @cons b row c cs here _ ih =>
      apply Tells.cons _ ih
      rw [Bool.or_eq_true, here, ih.headD]
      constructor
      · rintro (holds | ⟨skipped, rest, rfl, holds⟩)
        · exact ⟨[], c :: cs, rfl, holds⟩
        · exact ⟨c :: skipped, rest, rfl, holds⟩
      · rintro ⟨skipped, rest, same, holds⟩
        rcases List.cons_eq_append_iff.mp same with ⟨-, rfl⟩ | ⟨shorter, rfl, rfl⟩
        · exact .inl holds
        · exact .inr ⟨shorter, rest, rfl, holds⟩

theorem tells_oneCharRow {P : List Char → Prop} {row : List Bool} {cs : List Char}
    (test : Char → Bool) (tells : Tells P row cs) :
  Tells (fun text => ∃ c rest, text = c :: rest ∧ test c = true ∧ P rest) (oneCharRow test cs row)
    cs
  := by
  induction tells with
  | nil here =>
      apply Tells.nil
      apply iff_of_false Bool.false_ne_true
      rintro ⟨_, _, ⟨⟩, _⟩
  | @cons b row c cs here others ih =>
      have next : ∃ b' row', row = b' :: row' ∧ (b' = true ↔ P cs) := by
        cases others with
        | nil last => exact ⟨_, _, rfl, last⟩
        | cons next _ => exact ⟨_, _, rfl, next⟩
      obtain ⟨b', row', rfl, rest⟩ := next
      rw [oneCharRow]
      apply Tells.cons _ ih
      rw [Bool.and_eq_true, rest]
      constructor
      · rintro ⟨passes, holds⟩
        exact ⟨c, cs, rfl, passes, holds⟩
      · rintro ⟨_, _, ⟨⟩, passes, holds⟩
        exact ⟨passes, holds⟩

theorem Tells.congr {P Q : List Char → Prop} (same : ∀ text, P text ↔ Q text) {row : List Bool}
    {cs : List Char} (tells : Tells P row cs) :
  Tells Q row cs
  := by
  rwa [← funext fun text => propext (same text)]

theorem fits_anyText_iff {pieces : List Piece} {text : List Char} :
  Fits (.anyText :: pieces) text ↔ ∃ skipped rest, text = skipped ++ rest ∧ Fits pieces rest
  := by
  constructor
  · intro fits
    cases fits with
    | anyText skipped others => exact ⟨skipped, _, rfl, others⟩
    | one single _ _ => cases single rfl
  · rintro ⟨skipped, rest, rfl, others⟩
    apply Fits.anyText skipped others

theorem fits_cons_iff {piece : Piece} (single : piece ≠ .anyText) {pieces : List Piece}
    {text : List Char} :
  Fits (piece :: pieces) text
    ↔ ∃ c rest, text = c :: rest ∧ piece.holds c = true ∧ Fits pieces rest
  := by
  constructor
  · intro fits
    cases fits with
    | anyText _ _ => cases single rfl
    | one _ holds others => exact ⟨_, _, rfl, holds, others⟩
  · rintro ⟨c, rest, rfl, holds, others⟩
    apply Fits.one single holds others

/-- The row of a text and of pieces tells which endings the pieces match. -/
theorem tells_matchRow (cs : List Char) (pieces : List Piece) :
  Tells (Fits pieces) (matchRow cs pieces) cs
  := by
  induction pieces with
  | nil => apply tells_fits_nil
  | cons piece pieces ih =>
      by_cases wide : piece = .anyText
      · subst wide
        rw [matchRow]
        apply (tells_anyTextRow ih).congr
        intro text
        rw [fits_anyText_iff]
      · rw [matchRow]
        · apply (tells_oneCharRow piece.holds ih).congr
          intro text
          rw [fits_cons_iff wide]
        · apply wide

end Toolshed.Query
