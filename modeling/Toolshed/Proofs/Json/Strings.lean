import Toolshed.Json.Canonical
import Toolshed.Json.Reader
import Mathlib.Tactic.SplitIfs
import Mathlib.Tactic.Use

/-!
# Strings are read as they are written

Every character inside quotes is read as itself, whether it stands for itself or is escaped: by a
letter, by its unit of sixteen bits, or by the two units that it takes.  So a string is read up to
the quote that ends it, and no quote inside of it ends it.
-/

namespace Toolshed.Json

/-! ### Units -/

theorem hexValue?_digitChar :
  ∀ d < 16, hexValue? (Nat.digitChar d) = some d
  := by
  decide

theorem hexValue?_hexDigit (n : Nat) :
  hexValue? (hexDigit n) = some (n % 16)
  := by
  apply hexValue?_digitChar
  apply Nat.mod_lt
  decide

/-- The digits of a unit after its mark. -/
def unitDigits (n : Nat) : List Char :=
  [hexDigit (n / 4096), hexDigit (n / 256), hexDigit (n / 16), hexDigit n]

theorem unitEscape_eq (n : Nat) :
  unitEscape n = '\\' :: 'u' :: unitDigits n
  := by
  rfl

theorem readUnit_unitDigits {n : Nat} (h : n < 65536) (rest : List Char) :
  readUnit (unitDigits n ++ rest) = some (n, rest)
  := by
  change readUnit (hexDigit (n / 4096) :: hexDigit (n / 256) :: hexDigit (n / 16) :: hexDigit n
    :: rest) = some (n, rest)
  rw [readUnit, hexValue?_hexDigit, hexValue?_hexDigit, hexValue?_hexDigit, hexValue?_hexDigit]
  change some (_, rest) = some (n, rest)
  congr 2
  omega

/-- A unit that is no surrogate is read as its character. -/
theorem readUnicode_unitDigits {c : Char} (basic : c.toNat < 0x10000) (rest : List Char) :
  readUnicode (unitDigits c.toNat ++ rest) = some (c, rest)
  := by
  have valid : c.toNat < 0xD800 ∨ (0xDFFF < c.toNat ∧ c.toNat < 0x110000) := c.valid
  have noLow : ¬ (0xDC00 ≤ c.toNat ∧ c.toNat < 0xE000) := by
    omega
  have noHigh : ¬ (0xD800 ≤ c.toNat ∧ c.toNat < 0xDC00) := by
    omega
  rw [readUnicode, readUnit_unitDigits basic]
  simp only [bind, Option.bind]
  rw [if_neg noLow, if_neg noHigh, Char.ofNat_toNat]
  rfl

/-- Two surrogates are read as the character that takes both. -/
theorem readUnicode_surrogates {c : Char} {high low : Nat} (isHigh : 0xD800 ≤ high ∧ high < 0xDC00)
    (isLow : 0xDC00 ≤ low ∧ low < 0xE000)
    (whole : 0x10000 + (high - 0xD800) * 0x400 + (low - 0xDC00) = c.toNat) (rest : List Char) :
  readUnicode (unitDigits high ++ (unitEscape low ++ rest)) = some (c, rest)
  := by
  rw [readUnicode, readUnit_unitDigits (by omega), unitEscape_eq]
  simp only [bind, Option.bind, List.cons_append]
  rw [if_neg (by omega), if_pos isHigh, readUnit_unitDigits (by omega)]
  simp only
  rw [if_pos isLow, whole, Char.ofNat_toNat]
  rfl

/-- The units of a character are read as it. -/
theorem exists_units16 (c : Char) :
  ∃ first others, (units16 c).flatMap unitEscape = unitEscape first ++ others
    ∧ ∀ rest, readUnicode (unitDigits first ++ (others ++ rest)) = some (c, rest)
  := by
  have valid : c.toNat < 0xD800 ∨ (0xDFFF < c.toNat ∧ c.toNat < 0x110000) := c.valid
  rw [units16]
  split
  · next basic =>
      use c.toNat, [], rfl
      apply readUnicode_unitDigits basic
  · next large =>
      refine ⟨0xD800 + (c.toNat - 0x10000) / 0x400,
        unitEscape (0xDC00 + (c.toNat - 0x10000) % 0x400), ?_, ?_⟩
      · rw [List.flatMap_cons, List.flatMap_singleton]
      · apply readUnicode_surrogates
        · omega
        · omega
        · omega

/-! ### Characters -/

variable {c : Char}

/-- A reader reads a text as one character of a string. -/
def ReadsChar (text : List Char) (c : Char) : Prop :=
  ∀ fuel rest, readString (fuel + 1) (text ++ rest)
    = (readString fuel rest).map fun (cs, rest) => (c :: cs, rest)

theorem map_cons_eq_bind (c : Char) (read : Option (List Char × List Char)) :
  (read.bind fun (cs, rest) => some (c :: cs, rest))
    = read.map fun (cs, rest) => (c :: cs, rest)
  := by
  rcases read with _ | ⟨cs, rest⟩
  · rfl
  · rfl

theorem readsChar_self (noQuote : c ≠ '"') (noEscape : c ≠ '\\') (noControl : 32 ≤ c.toNat) :
  ReadsChar [c] c
  := by
  intro fuel rest
  rw [List.singleton_append, readString]
  · rw [if_neg]
    · apply map_cons_eq_bind
    · rw [not_or]
      exact ⟨noEscape, by omega⟩
  · apply noQuote
  · intro _ same
    cases noEscape same
  · intro _ _ same
    cases noEscape same

/-- A letter after a backslash is read as the character for which it stands. -/
theorem readsChar_short {e : Char} (h : shortEscape? e = some c) :
  ReadsChar ['\\', e] c
  := by
  intro fuel rest
  change readString (fuel + 1) ('\\' :: e :: rest) = _
  rw [readString, h]
  · apply map_cons_eq_bind
  · rintro rfl
    cases h

/-- Digits after the mark of a unit are read as the character for which they stand. -/
theorem readsChar_unit {digits : List Char}
    (h : ∀ rest, readUnicode (digits ++ rest) = some (c, rest)) :
  ReadsChar ('\\' :: 'u' :: digits) c
  := by
  intro fuel rest
  change readString (fuel + 1) ('\\' :: 'u' :: (digits ++ rest)) = _
  rw [readString, h]
  apply map_cons_eq_bind

/-! ### Canonical characters -/

/-- A character is escaped by a letter or by its unit, or it stands for itself. -/
theorem escapeChar_cases (c : Char) :
  (∃ e, shortEscape? e = some c ∧ escapeChar c = ['\\', e] ∧ e.toNat < 0x7F)
    ∨ (c.toNat < 32 ∧ escapeChar c = unitEscape c.toNat)
    ∨ (c ≠ '"' ∧ c ≠ '\\' ∧ 32 ≤ c.toNat ∧ escapeChar c = [c])
  := by
  unfold escapeChar
  split_ifs with quote escape backspace formFeed lineFeed return' tab control
  · left
    use '"'
    rw [quote]
    decide
  · left
    use '\\'
    rw [escape]
    decide
  · left
    use 'b'
    rw [backspace]
    decide
  · left
    use 'f'
    rw [formFeed]
    decide
  · left
    use 'n'
    rw [lineFeed]
    decide
  · left
    use 'r'
    rw [return']
    decide
  · left
    use 't'
    rw [tab]
    decide
  · right
    left
    exact ⟨control, rfl⟩
  · right
    right
    exact ⟨quote, escape, Nat.le_of_not_lt control, rfl⟩

theorem flatMap_asciiChar {cs : List Char} (h : ∀ c ∈ cs, c.toNat < 0x7F) :
  cs.flatMap asciiChar = cs
  := by
  induction cs with
  | nil => rfl
  | cons c cs ih =>
      rw [List.flatMap_cons, asciiChar, if_pos (h c List.mem_cons_self), ih]
      · rfl
      · intro d among
        apply h d (List.mem_cons_of_mem _ among)

theorem toNat_digitChar_lt :
  ∀ d < 16, (Nat.digitChar d).toNat < 0x7F
  := by
  decide

theorem toNat_lt_of_mem_unitEscape {n : Nat} (h : c ∈ unitEscape n) :
  c.toNat < 0x7F
  := by
  have digit (m : Nat) : (hexDigit m).toNat < 0x7F := by
    apply toNat_digitChar_lt
    apply Nat.mod_lt
    decide
  simp only [unitEscape, List.mem_cons, List.not_mem_nil, or_false] at h
  rcases h with rfl | rfl | rfl | rfl | rfl | rfl
  · decide
  · decide
  · apply digit
  · apply digit
  · apply digit
  · apply digit

/-- What is written in canonical text for a character of a string is read as it. -/
theorem readsChar_canonical (c : Char) :
  ReadsChar ((escapeChar c).flatMap asciiChar) c
  := by
  rcases escapeChar_cases c with ⟨e, short, written, ascii⟩ | ⟨control, written⟩ |
    ⟨noQuote, noEscape, noControl, written⟩
  · rw [written, flatMap_asciiChar]
    · apply readsChar_short short
    · intro d among
      simp only [List.mem_cons, List.not_mem_nil, or_false] at among
      rcases among with rfl | rfl
      · decide
      · apply ascii
  · rw [written, flatMap_asciiChar]
    · apply readsChar_unit
      apply readUnicode_unitDigits
      omega
    · intro d
      apply toNat_lt_of_mem_unitEscape
  · rw [written, List.flatMap_singleton, asciiChar]
    split
    · apply readsChar_self noQuote noEscape noControl
    · obtain ⟨first, others, units, reads⟩ := exists_units16 c
      rw [units]
      apply readsChar_unit
      intro rest
      change readUnicode (unitDigits first ++ others ++ rest) = some (c, rest)
      rw [List.append_assoc]
      apply reads

/-! ### Strings -/

section

variable {spell : Char → List Char} (h : ∀ c, ReadsChar (spell c) c)

include h

/-- What is read as a character is not empty. -/
theorem length_le_flatMap (cs : List Char) :
  cs.length ≤ (cs.flatMap spell).length
  := by
  induction cs with
  | nil => apply Nat.zero_le
  | cons c cs ih =>
      have positive : 0 < (spell c).length := by
        rw [List.length_pos_iff]
        intro empty
        have := h c 0 ['"']
        rw [empty] at this
        cases this
      rw [List.flatMap_cons, List.length_append, List.length_cons]
      omega

/-- A string whose characters are read one by one is read up to its quote. -/
theorem readString_flatMap (cs rest : List Char) {fuel : Nat} (enough : cs.length < fuel) :
  readString fuel (cs.flatMap spell ++ '"' :: rest) = some (cs, rest)
  := by
  induction cs generalizing fuel with
  | nil =>
      obtain ⟨fuel, rfl⟩ : ∃ f, fuel = f + 1 := ⟨fuel - 1, by omega⟩
      rfl
  | cons c cs ih =>
      rw [List.length_cons] at enough
      obtain ⟨fuel, rfl⟩ : ∃ f, fuel = f + 1 := ⟨fuel - 1, by omega⟩
      rw [List.flatMap_cons, List.append_assoc, h c, ih (by omega)]
      rfl

end

end Toolshed.Json
