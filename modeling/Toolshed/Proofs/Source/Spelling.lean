import Toolshed.Source.Literal
import Toolshed.Proofs.Text.Runs
import Mathlib.Tactic.SplitIfs

/-!
# Spelled strings

A character of a string literal stands for itself or is escaped: by a letter, or by the digits of
its code.  The text is read as the string that it spells, with one exception.  A character that
takes two units of sixteen bits may be spelled by two escapes, one for each unit, and these are read
one by one, each as the character that replaces what has no code.
-/

namespace Toolshed.Source

open Text

/-! ### Codes -/

/-- A digit of base sixteen, in lowercase or uppercase. -/
def IsHexDigit (value : Nat) (c : Char) : Prop :=
  value < 16 ∧ (c = Nat.digitChar value ∨ c = (Nat.digitChar value).toUpper)
deriving Decidable

/-- Digits of base sixteen write a number, the first one counting most. -/
inductive WritesCode : List Char → Nat → Prop where
  | nil : WritesCode [] 0
  | concat {digits : List Char} {n value : Nat} {c : Char} (start : WritesCode digits n)
      (last : IsHexDigit value c) : WritesCode (digits ++ [c]) (16 * n + value)

theorem digitValue?_of_isHexDigit {value : Nat} {c : Char} (h : IsHexDigit value c) :
  digitValue? 16 c = some value
  := by
  have read : ∀ v < 16, digitValue? 16 (Nat.digitChar v) = some v
      ∧ digitValue? 16 (Nat.digitChar v).toUpper = some v := by
    decide
  obtain ⟨small, rfl | rfl⟩ := h
  · apply (read value small).1
  · apply (read value small).2

theorem WritesCode.isSome_digitValue? {digits : List Char} {n : Nat} (h : WritesCode digits n) :
  ∀ c ∈ digits, (digitValue? 16 c).isSome = true
  := by
  induction h with
  | nil => simp
  | concat _ last ih =>
      intro c among
      rcases List.mem_append.mp among with among | among
      · apply ih c among
      · rw [List.mem_singleton.mp among, digitValue?_of_isHexDigit last]
        rfl

theorem WritesCode.ofDigits?_eq {digits : List Char} {n : Nat} (h : WritesCode digits n)
    (nonempty : digits ≠ []) :
  ofDigits? 16 digits = some n
  := by
  have folded : digits.foldlM (fun n c => (digitValue? 16 c).map (16 * n + ·)) 0 = some n := by
    clear nonempty
    induction h with
    | nil => rfl
    | concat _ last ih =>
        rw [List.foldlM_append, ih]
        simp [digitValue?_of_isHexDigit last]
  rw [ofDigits?, folded]
  apply nonempty

/-- Digits are taken up to a given number of them. -/
theorem takeDigits_append {base : Nat} {digits : List Char}
    (all : ∀ c ∈ digits, (digitValue? base c).isSome = true) (rest : List Char) :
  takeDigits base digits.length (digits ++ rest) = (digits, rest)
  := by
  induction digits with
  | nil => cases rest <;> rfl
  | cons c digits ih =>
      rw [List.forall_mem_cons] at all
      rw [List.cons_append, List.length_cons, takeDigits, if_pos all.1, ih all.2]

theorem codeChar_of_writesCode {digits : List Char} {c : Char} (code : WritesCode digits c.toNat)
    (nonempty : digits ≠ []) :
  codeChar 16 digits = c
  := by
  rw [codeChar, code.ofDigits?_eq nonempty]
  apply (dif_pos c.valid).trans
  apply Char.ext
  rfl

/-- A surrogate is no character. -/
theorem codeChar_of_surrogate {digits : List Char} {n : Nat} (code : WritesCode digits n)
    (nonempty : digits ≠ []) (low : 0xD800 ≤ n) (high : n < 0xE000) :
  codeChar 16 digits = '\ufffd'
  := by
  rw [codeChar, code.ofDigits?_eq nonempty]
  apply dif_neg
  rintro (less | ⟨more, -⟩)
  · omega
  · omega

/-! ### Spellings -/

/-- The characters that a letter after a backslash stands for. -/
def letterEscapes : Dialect → List (Char × Char)
  | .python => ('a', '\x07') :: shared
  | .javaScript => ('\x60', '\x60') :: shared
where
  /-- Those of both dialects. -/
  shared : List (Char × Char) := [('\\', '\\'), ('\'', '\''), ('"', '"'), ('n', '\n'), ('t', '\t'),
    ('r', '\r'), ('b', '\x08'), ('f', '\x0c'), ('v', '\x0b')]

/-- A character as it is spelled. -/
structure Spelled where
  char : Char
  /-- Each of its two units has an escape of its own. -/
  isHalved : Bool

/-- A text between the quotes of a literal spells a string. -/
inductive Spells (dialect : Dialect) : List Char → List Spelled → Prop where
  | nil : Spells dialect [] []
  | self {c : Char} {text : List Char} {cs : List Spelled} (plain : c ≠ '\\')
      (rest : Spells dialect text cs) : Spells dialect (c :: text) (⟨c, false⟩ :: cs)
  | letter {e c : Char} {text : List Char} {cs : List Spelled}
      (known : (e, c) ∈ letterEscapes dialect) (rest : Spells dialect text cs) :
      Spells dialect ('\\' :: e :: text) (⟨c, false⟩ :: cs)
  | zero {text : List Char} {cs : List Spelled} (ends : Stops (fun d => '0' ≤ d && d ≤ '7') text)
      (rest : Spells dialect text cs) : Spells dialect ('\\' :: '0' :: text) (⟨'\x00', false⟩ :: cs)
  | byte {c : Char} {digits text : List Char} {cs : List Spelled} (two : digits.length = 2)
      (code : WritesCode digits c.toNat) (rest : Spells dialect text cs) :
      Spells dialect ('\\' :: 'x' :: (digits ++ text)) (⟨c, false⟩ :: cs)
  | unit {c : Char} {digits text : List Char} {cs : List Spelled} (four : digits.length = 4)
      (code : WritesCode digits c.toNat) (rest : Spells dialect text cs) :
      Spells dialect ('\\' :: 'u' :: (digits ++ text)) (⟨c, false⟩ :: cs)
  | long {c : Char} {digits text : List Char} {cs : List Spelled} (isPython : dialect = .python)
      (eight : digits.length = 8) (code : WritesCode digits c.toNat)
      (rest : Spells dialect text cs) :
      Spells dialect ('\\' :: 'U' :: (digits ++ text)) (⟨c, false⟩ :: cs)
  | braced {c : Char} {digits text : List Char} {cs : List Spelled}
      (isJavaScript : dialect = .javaScript) (nonempty : digits ≠ [])
      (code : WritesCode digits c.toNat) (rest : Spells dialect text cs) :
      Spells dialect ('\\' :: 'u' :: '\x7b' :: (digits ++ '\x7d' :: text)) (⟨c, false⟩ :: cs)
  | halves {c : Char} {high low text : List Char} {cs : List Spelled}
      (isJavaScript : dialect = .javaScript) (large : 0x10000 ≤ c.toNat)
      (four : high.length = 4 ∧ low.length = 4)
      (codes : WritesCode high (0xD800 + (c.toNat - 0x10000) / 0x400)
        ∧ WritesCode low (0xDC00 + (c.toNat - 0x10000) % 0x400))
      (rest : Spells dialect text cs) :
      Spells dialect ('\\' :: 'u' :: (high ++ '\\' :: 'u' :: (low ++ text))) (⟨c, true⟩ :: cs)

/-! ### Reading a spelling -/

section

variable {dialect : Dialect}

theorem unescape_self {c : Char} (plain : c ≠ '\\') (text : List Char) :
  unescape dialect (c :: text) = c :: unescape dialect text
  := by
  rw [unescape, if_neg plain]

/-- An escape is read, and then what follows it. -/
theorem unescape_escape {cs found rest : List Char} (h : readEscape dialect cs = (found, rest)) :
  unescape dialect ('\\' :: cs) = found ++ unescape dialect rest
  := by
  rw [unescape, if_pos rfl, h]

theorem readEscape_letter {e c : Char} (known : (e, c) ∈ letterEscapes dialect) (text : List Char) :
  readEscape dialect (e :: text) = ([c], text)
  := by
  cases dialect
  all_goals
    simp only [letterEscapes, letterEscapes.shared, List.mem_cons, Prod.mk.injEq, List.not_mem_nil,
      or_false] at known
    rcases known with ⟨rfl, rfl⟩ | ⟨rfl, rfl⟩ | ⟨rfl, rfl⟩ | ⟨rfl, rfl⟩ | ⟨rfl, rfl⟩ | ⟨rfl, rfl⟩
      | ⟨rfl, rfl⟩ | ⟨rfl, rfl⟩ | ⟨rfl, rfl⟩ | ⟨rfl, rfl⟩
    all_goals rfl

theorem isOctal_of_digitValue? {c : Char} (h : (digitValue? 8 c).isSome = true) :
  ('0' ≤ c && c ≤ '7') = true
  := by
  simp only [digitValue?, Option.isSome_ite] at h
  split_ifs at h with digit lower upper
  · rw [Char.isDigit, Bool.and_eq_true, decide_eq_true_eq, decide_eq_true_eq] at digit
    rw [Bool.and_eq_true, decide_eq_true_eq, decide_eq_true_eq]
    use digit.1
    change c.toNat ≤ 55
    omega
  · have least : 97 ≤ c.toNat := lower.1
    omega
  · have least : 65 ≤ c.toNat := upper.1
    omega
  · omega

theorem readEscape_zero {text : List Char} (ends : Stops (fun d => '0' ≤ d && d ≤ '7') text) :
  readEscape dialect ('0' :: text) = (['\x00'], text)
  := by
  have taken : takeDigits 8 2 text = ([], text) := by
    rcases text with _ | ⟨c, text⟩
    · rfl
    · rw [takeDigits, if_neg]
      intro octal
      cases (ends c rfl).symm.trans (isOctal_of_digitValue? octal)
  cases dialect
  · change ([codeChar 8 ('0' :: (takeDigits 8 2 text).1)], (takeDigits 8 2 text).2) = _
    rw [taken]
    rfl
  · rfl

theorem readEscape_byte {digits : List Char} {n : Nat} (two : digits.length = 2)
    (code : WritesCode digits n) (text : List Char) :
  readEscape dialect ('x' :: (digits ++ text)) = ([codeChar 16 digits], text)
  := by
  have taken := takeDigits_append code.isSome_digitValue? text
  rw [two] at taken
  simp [readEscape, letterEscape?, taken]

theorem readEscape_unit {digits : List Char} {n : Nat} (four : digits.length = 4)
    (code : WritesCode digits n) (text : List Char) :
  readEscape dialect ('u' :: (digits ++ text)) = ([codeChar 16 digits], text)
  := by
  have taken := takeDigits_append code.isSome_digitValue? text
  obtain ⟨d, others, rfl⟩ := List.exists_cons_of_ne_nil (List.ne_nil_of_length_eq_add_one four)
  have unbraced : d ≠ '\x7b' := by
    rintro rfl
    cases code.isSome_digitValue? _ List.mem_cons_self
  rw [four] at taken
  rw [List.cons_append] at taken ⊢
  simp [readEscape, letterEscape?, taken, unbraced]

theorem readEscape_long {digits : List Char} {n : Nat} (eight : digits.length = 8)
    (code : WritesCode digits n) (text : List Char) :
  readEscape .python ('U' :: (digits ++ text)) = ([codeChar 16 digits], text)
  := by
  have taken := takeDigits_append code.isSome_digitValue? text
  rw [eight] at taken
  simp [readEscape, letterEscape?, taken]

theorem readEscape_braced {digits : List Char} {n : Nat} (code : WritesCode digits n)
    (text : List Char) :
  readEscape .javaScript ('u' :: '\x7b' :: (digits ++ '\x7d' :: text))
    = ([codeChar 16 digits], text)
  := by
  have inside : ∀ d ∈ digits, (d != '\x7d') = true := by
    intro d among
    rw [bne_iff_ne]
    rintro rfl
    cases code.isSome_digitValue? _ among
  have ends : Stops (· != '\x7d') ('\x7d' :: text) := stops_cons (by decide)
  have taken := takeWhile_append_stops inside ends
  have left := dropWhile_append_stops inside ends
  simp [readEscape, letterEscape?, taken, left]

end

/-- The text that is read for a character. -/
def Spelled.read (c : Spelled) : List Char :=
  if c.isHalved then ['\ufffd', '\ufffd'] else [c.char]

/-- The string that is read has two replacements for each character with two escapes, and the
characters of the spelled string for all others. -/
theorem unescape_of_spells {dialect : Dialect} {text : List Char} {cs : List Spelled}
    (spells : Spells dialect text cs) :
  unescape dialect text = cs.flatMap Spelled.read
  := by
  induction spells with
  | nil => rw [unescape, List.flatMap_nil]
  | self plain _ ih =>
      rw [unescape_self plain, ih]
      rfl
  | letter known _ ih =>
      rw [unescape_escape (readEscape_letter known _), ih]
      rfl
  | zero ends _ ih =>
      rw [unescape_escape (readEscape_zero ends), ih]
      rfl
  | byte two code _ ih =>
      rw [unescape_escape (readEscape_byte two code _), ih,
        codeChar_of_writesCode code (List.ne_nil_of_length_eq_add_one two)]
      rfl
  | unit four code _ ih =>
      rw [unescape_escape (readEscape_unit four code _), ih,
        codeChar_of_writesCode code (List.ne_nil_of_length_eq_add_one four)]
      rfl
  | long isPython eight code _ ih =>
      subst isPython
      rw [unescape_escape (readEscape_long eight code _), ih,
        codeChar_of_writesCode code (List.ne_nil_of_length_eq_add_one eight)]
      rfl
  | braced isJavaScript nonempty code _ ih =>
      subst isJavaScript
      rw [unescape_escape (readEscape_braced code _), ih, codeChar_of_writesCode code nonempty]
      rfl
  | @halves c high low text cs isJavaScript large four codes _ ih =>
      have valid : c.toNat < 0xD800 ∨ (0xDFFF < c.toNat ∧ c.toNat < 0x110000) := c.valid
      rw [unescape_escape (readEscape_unit four.1 codes.1 _),
        unescape_escape (readEscape_unit four.2 codes.2 _), ih,
        codeChar_of_surrogate codes.1 (List.ne_nil_of_length_eq_add_one four.1) (by omega)
          (by omega),
        codeChar_of_surrogate codes.2 (List.ne_nil_of_length_eq_add_one four.2) (by omega)
          (by omega)]
      rfl

theorem length_le_flatMap_read (cs : List Spelled) :
  cs.length ≤ (cs.flatMap Spelled.read).length
  := by
  induction cs with
  | nil => rfl
  | cons c cs ih =>
      have consumes : 1 ≤ c.read.length := by
        rw [Spelled.read]
        split
        · decide
        · rfl
      rw [List.length_cons, List.flatMap_cons, List.length_append]
      omega

/-- A text is read as the string that it spells if and only if it spells no character by two
escapes. -/
theorem unescape_eq_iff {dialect : Dialect} {text : List Char} {cs : List Spelled}
    (spells : Spells dialect text cs) :
  unescape dialect text = cs.map Spelled.char ↔ ∀ c ∈ cs, c.isHalved = false
  := by
  rw [unescape_of_spells spells]
  clear spells
  induction cs with
  | nil => simp
  | cons c cs ih =>
      rw [List.forall_mem_cons, ← ih, List.flatMap_cons, List.map_cons, Spelled.read]
      rcases c.isHalved with _ | _
      · simp
      · constructor
        · -- two characters stand for one, and no other character makes up for that
          intro same
          have least := length_le_flatMap_read cs
          have lengths := congrArg List.length same
          simp only [if_true, List.length_append, List.length_cons, List.length_nil,
            List.length_map] at lengths
          omega
        · rintro ⟨unhalved, -⟩
          cases unhalved

/-- A letter, a digit, an apostrophe and a face are read as they are spelled, with the code of the
face in braces, and not with its two units. -/
theorem unescape_eq_iff_face :
  Spells .javaScript "\\x410\\'\\u\x7b1f600\x7d".toList
      [⟨'A', false⟩, ⟨'0', false⟩, ⟨'\'', false⟩, ⟨Char.ofNat 0x1f600, false⟩]
    ∧ unescape .javaScript "\\x410\\'\\u\x7b1f600\x7d".toList = ['A', '0', '\'', Char.ofNat 0x1f600]
    ∧ Spells .javaScript "\\uD83D\\uDE00".toList [⟨Char.ofNat 0x1f600, true⟩]
    ∧ unescape .javaScript "\\uD83D\\uDE00".toList ≠ [Char.ofNat 0x1f600]
  := by
  have zero : IsHexDigit 0 '0' := by decide
  have six : IsHexDigit 6 '6' := by decide
  have spelled : Spells .javaScript "\\x410\\'\\u\x7b1f600\x7d".toList
      [⟨'A', false⟩, ⟨'0', false⟩, ⟨'\'', false⟩, ⟨Char.ofNat 0x1f600, false⟩] := by
    have letter : WritesCode ['4', '1'] 'A'.toNat :=
      (WritesCode.nil.concat (show IsHexDigit 4 '4' by decide)).concat
        (show IsHexDigit 1 '1' by decide)
    have face : WritesCode ['1', 'f', '6', '0', '0'] (Char.ofNat 0x1f600).toNat :=
      ((((WritesCode.nil.concat (show IsHexDigit 1 '1' by decide)).concat
        (show IsHexDigit 15 'f' by decide)).concat six).concat zero).concat zero
    apply Spells.byte rfl letter
    apply Spells.self (by decide)
    apply Spells.letter (by decide)
    apply Spells.braced rfl (by decide) face
    apply Spells.nil
  have spelled' : Spells .javaScript "\\uD83D\\uDE00".toList [⟨Char.ofNat 0x1f600, true⟩] := by
    have thirteen : IsHexDigit 13 'D' := by decide
    have high : WritesCode ['D', '8', '3', 'D'] 0xD83D :=
      (((WritesCode.nil.concat thirteen).concat (show IsHexDigit 8 '8' by decide)).concat
        (show IsHexDigit 3 '3' by decide)).concat thirteen
    have low : WritesCode ['D', 'E', '0', '0'] 0xDE00 :=
      (((WritesCode.nil.concat thirteen).concat (show IsHexDigit 14 'E' by decide)).concat
        zero).concat zero
    have large : 0x10000 ≤ (Char.ofNat 0x1f600).toNat := by decide
    apply Spells.halves rfl large ⟨rfl, rfl⟩ ⟨high, low⟩ .nil
  refine ⟨spelled, ?_, spelled', ?_⟩
  · apply (unescape_eq_iff spelled).mpr
    decide
  · intro same
    have unhalved := (unescape_eq_iff spelled').mp same
    cases unhalved _ List.mem_cons_self

end Toolshed.Source
