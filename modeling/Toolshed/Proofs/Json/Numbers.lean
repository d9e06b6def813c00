import Toolshed.Json.Reader
import Toolshed.Proofs.Decimal.Shortest
import Mathlib.Tactic.SplitIfs

/-!
# Numbers are read as they are written

The text of an integer that 64 bits hold, and that of a finite double precision number, is read as
that number, if what follows does not go on with it.  Here the reader converts to the nearest
number.  The conversion that `parse?` uses drops digits and rounds more than once, and so it reads
some finite numbers back as their neighbours (see `Conversion`).
-/

namespace Toolshed.Json

open Decimal

/-- A character after which a number may go on. -/
def goesOn (c : Char) : Bool :=
  c.isDigit || c = '.' || c = 'e' || c = 'E'

/-- The digits of the whole part of a number. -/
structure IsWhole (whole : List Char) : Prop where
  digits : ∀ c ∈ whole, c.isDigit = true
  first : ∃ c rest, whole = c :: rest ∧ (c = '0' → rest = [])

/-- The text with a sign. -/
def signed (negative : Bool) (cs : List Char) : List Char :=
  if negative then '-' :: cs else cs

/-- The conversion to the nearest number. -/
def nearest : Conversion := fun negative whole fraction exponent =>
  Binary64.ofDecimal negative (ofDigits (whole ++ fraction)) (exponent - fraction.length)

/-! ### Parts of numbers -/

section

variable {rest : List Char}

theorem stops_isDigit_of_goesOn (h : Text.Stops goesOn rest) :
  Text.Stops Char.isDigit rest
  := by
  intro c first
  have := h c first
  rw [goesOn] at this
  simp only [Bool.or_eq_false_iff] at this
  apply this.1.1.1

theorem readExponent_of_stops (h : Text.Stops goesOn rest) :
  readExponent rest = some (none, rest)
  := by
  rcases rest with _ | ⟨c, rest⟩
  · rfl
  · have := h c rfl
    rw [goesOn] at this
    simp only [Bool.or_eq_false_iff, decide_eq_false_iff_not] at this
    unfold readExponent
    apply if_neg
    rw [not_or]
    exact ⟨this.1.2, this.2⟩

theorem readExponent_append (power : Int) (h : Text.Stops goesOn rest) :
  readExponent ('e' :: (if power < 0 then '-' else '+') :: Text.natText power.natAbs ++ rest)
    = some (some power, rest)
  := by
  have digits := readDigits_append (Text.natText_ne_nil power.natAbs)
    (fun c => Text.isDigit_of_mem_natText) (stops_isDigit_of_goesOn h)
  unfold readExponent
  by_cases negative : power < 0
  · simp only [List.cons_append, true_or, if_true, if_pos negative, digits, ofDigits_natText]
    congr 3
    omega
  · simp only [List.cons_append, true_or, if_true, if_neg negative, digits, ofDigits_natText]
    congr 3
    simp only [Bool.false_eq_true, if_false]
    omega

theorem readFraction_of_stops (h : Text.Stops goesOn rest) :
  readFraction rest = some ([], rest)
  := by
  unfold readFraction
  split
  · next rest =>
      cases h '.' rfl
  · rfl

theorem readWhole_append {whole : List Char} (h : IsWhole whole)
    (stops : Text.Stops Char.isDigit rest) :
  readWhole (whole ++ rest) = some (whole, rest)
  := by
  obtain ⟨c, others, same, zero⟩ := h.first
  have nonempty : whole ≠ [] := by
    rw [same]
    apply List.cons_ne_nil
  rw [readWhole, readDigits_append nonempty h.digits stops, same]
  simp only [bind, Option.bind]
  split
  · next second others' again =>
      obtain ⟨rfl, rfl⟩ := List.cons.inj again
      cases zero rfl
  · rfl

end

/-! ### Numbers from their parts -/

theorem readSign_signed (negative : Bool) {whole : List Char} (h : IsWhole whole)
    (rest : List Char) :
  readSign (signed negative (whole ++ rest)) = (negative, whole ++ rest)
  := by
  cases negative with
  | true => rfl
  | false =>
      obtain ⟨c, others, rfl, _⟩ := h.first
      have digit := h.digits c List.mem_cons_self
      rw [signed, if_neg Bool.false_ne_true, List.cons_append]
      unfold readSign
      split
      · next same =>
          rw [(List.cons.inj same).1] at digit
          cases digit
      · rfl

/-- A number is made of the parts that are read. -/
theorem readNumber_append {negative : Bool} {whole tail middle rest fraction : List Char}
    {exponent : Option Int} (proper : IsWhole whole) (stops : Text.Stops Char.isDigit tail)
    (readsFraction : readFraction tail = some (fraction, middle))
    (readsExponent : readExponent middle = some (exponent, rest)) :
  readNumber nearest (signed negative (whole ++ tail))
    = (ofParts? nearest negative (hasPoint tail) whole fraction exponent).map fun n => (n, rest)
  := by
  rw [readNumber, readSign_signed negative proper tail]
  simp only [bind, Option.bind, readWhole_append proper stops, readsFraction, readsExponent]
  rcases ofParts? nearest negative (hasPoint tail) whole fraction exponent with _ | n
  · rfl
  · rfl

/-! ### Integers -/

/-- A number is an integer that 64 bits hold, with or without a sign, or it is finite. -/
def Number.IsProper : Number → Prop
  | .int n => -2 ^ 63 ≤ n ∧ n < 2 ^ 64
  | .real x => x.isFinite = true

theorem isWhole_natText (n : Nat) :
  IsWhole (Text.natText n)
  := by
  constructor
  · intro c
    apply Text.isDigit_of_mem_natText
  · rcases Nat.eq_zero_or_pos n with rfl | positive
    · use '0', []
      exact ⟨rfl, fun _ => rfl⟩
    · obtain ⟨c, rest, same, other⟩ := Text.natText_eq_cons positive
      use c, rest, same
      intro zero
      cases other zero

theorem hasPoint_of_stops {rest : List Char} (h : Text.Stops goesOn rest) :
  hasPoint rest = false
  := by
  unfold hasPoint
  split
  · cases h '.' rfl
  · rfl

theorem exactInt?_eq_some {n : Int} (proper : (Number.int n).IsProper) :
  exactInt? (decide (n < 0)) n.natAbs = some (.int n)
  := by
  have bounds : -2 ^ 63 ≤ n ∧ n < 2 ^ 64 := proper
  have least : Nat.pow 2 63 = 9223372036854775808 := rfl
  have most : Nat.pow 2 64 = 18446744073709551616 := rfl
  rw [exactInt?, least, most]
  by_cases negative : n < 0
  · rw [decide_eq_true negative, if_pos rfl, if_pos (by omega)]
    congr 2
    omega
  · rw [decide_eq_false negative, if_neg Bool.false_ne_true, if_pos (by omega)]
    congr 2
    omega

theorem text_int (n : Int) :
  (Number.int n).text = signed (decide (n < 0)) (Text.natText n.natAbs)
  := by
  rw [Number.text, signed]
  by_cases negative : n < 0
  · rw [if_pos negative, if_pos (decide_eq_true negative)]
  · rw [if_neg negative, if_neg (by simpa using negative)]

theorem signed_append (negative : Bool) (cs rest : List Char) :
  signed negative cs ++ rest = signed negative (cs ++ rest)
  := by
  cases negative with
  | true => rfl
  | false => rfl

theorem readNumber_int {n : Int} (proper : (Number.int n).IsProper) {rest : List Char}
    (stops : Text.Stops goesOn rest) :
  readNumber nearest ((Number.int n).text ++ rest) = some (.int n, rest)
  := by
  rw [text_int, signed_append, readNumber_append (isWhole_natText _) (stops_isDigit_of_goesOn stops)
    (readFraction_of_stops stops) (readExponent_of_stops stops), hasPoint_of_stops stops, ofParts?,
    ofDigits_natText]
  simp only [Option.isSome_none, Bool.or_self, Bool.false_eq_true, if_false,
    exactInt?_eq_some proper, Option.map_some]

/-! ### Texts of decimals -/

/-- A text is read as a decimal that is no integer, if what follows does not go on with it. -/
def ReadsAs (text : List Char) (d : Binary64.Decimal) : Prop :=
  ∀ rest, Text.Stops goesOn rest → ∃ whole tail middle fraction exponent,
    text ++ rest = whole ++ tail
      ∧ IsWhole whole
      ∧ Text.Stops Char.isDigit tail
      ∧ readFraction tail = some (fraction, middle)
      ∧ readExponent middle = some (exponent, rest)
      ∧ (hasPoint tail || exponent.isSome) = true
      ∧ (⟨ofDigits (whole ++ fraction), exponent.getD 0 - fraction.length⟩
        : Binary64.Decimal).value = d.value

/-- Digits with a point among them. -/
theorem readsAs_point {whole fraction : List Char} (proper : IsWhole whole)
    (nonempty : fraction ≠ []) (digits : ∀ c ∈ fraction, c.isDigit = true) {d : Binary64.Decimal}
    (same : (⟨ofDigits (whole ++ fraction), -fraction.length⟩ : Binary64.Decimal).value = d.value) :
  ReadsAs (whole ++ '.' :: fraction) d
  := by
  intro rest stops
  refine ⟨whole, '.' :: fraction ++ rest, rest, fraction, none, ?_, proper, ?_, ?_, ?_, rfl, ?_⟩
  · rw [List.append_assoc]
  · apply Text.stops_cons rfl
  · apply readDigits_append nonempty digits (stops_isDigit_of_goesOn stops)
  · apply readExponent_of_stops stops
  · rw [Option.getD_none, zero_sub]
    apply same

/-- Digits with a point among them, or without, and an exponent. -/
theorem readsAs_exponent {whole fraction : List Char} (proper : IsWhole whole)
    (digits : ∀ c ∈ fraction, c.isDigit = true) {d : Binary64.Decimal} {power : Int}
    (same : (⟨ofDigits (whole ++ fraction), power - fraction.length⟩ : Binary64.Decimal).value
      = d.value) :
  ReadsAs (whole ++ (if fraction = [] then [] else '.' :: fraction)
    ++ 'e' :: (if power < 0 then '-' else '+') :: Text.natText power.natAbs) d
  := by
  intro rest stops
  have readsExponent := readExponent_append power stops
  by_cases empty : fraction = []
  · subst empty
    refine ⟨whole, 'e' :: (if power < 0 then '-' else '+') :: Text.natText power.natAbs ++ rest, _,
      [], some power, ?_, proper, ?_, ?_, readsExponent, ?_, same⟩
    · rw [if_pos rfl, List.append_nil, List.append_assoc]
    · apply Text.stops_cons rfl
    · rfl
    · rfl
  · refine ⟨whole, '.' :: fraction ++ ('e' :: (if power < 0 then '-' else '+')
      :: Text.natText power.natAbs ++ rest), _, fraction, some power, ?_, proper, ?_, ?_,
      readsExponent, ?_, same⟩
    · rw [if_neg empty, List.append_assoc, List.append_assoc]
    · apply Text.stops_cons rfl
    · apply readDigits_append empty digits
      apply Text.stops_cons rfl
    · rfl

/-- Zeros at the end of the digits count for the exponent. -/
theorem value_pow_mul (count n : Nat) (power : Int) :
  (⟨10 ^ count * n, power⟩ : Binary64.Decimal).value
    = (⟨n, power + count⟩ : Binary64.Decimal).value
  := by
  rw [Binary64.Decimal.value, Binary64.Decimal.value, zpow_add₀ (by norm_num), zpow_natCast]
  push_cast
  ring

section

variable {d : Binary64.Decimal} {c : Char} {others : List Char}
  (digits : ∀ x ∈ c :: others, x.isDigit = true) (other : c ≠ '0')
  (number : ofDigits (c :: others) = d.digits)

include digits other in
theorem isWhole_append {after : List Char} (more : ∀ x ∈ after, x.isDigit = true) :
  IsWhole (c :: others ++ after)
  := by
  constructor
  · intro x among
    rcases List.mem_append.mp among with among | among
    · apply digits x among
    · apply more x among
  · use c, others ++ after, rfl
    intro zero
    cases other zero

theorem isDigit_of_mem_replicate {count : Nat} {x : Char} (h : x ∈ List.replicate count '0') :
  x.isDigit = true
  := by
  rw [(List.mem_replicate.mp h).2]
  rfl

theorem isDigit_of_mem_zero {x : Char} (h : x ∈ ['0']) :
  x.isDigit = true
  := by
  rw [List.mem_singleton.mp h]
  rfl

include digits other number in
theorem readsAs_whole (exponent : 0 ≤ d.exponent) :
  ReadsAs (c :: others ++ List.replicate d.exponent.toNat '0' ++ ['.', '0']) d
  := by
  apply readsAs_point
  · apply isWhole_append digits other
    intro x
    apply isDigit_of_mem_replicate
  · apply List.cons_ne_nil
  · intro x
    apply isDigit_of_mem_zero
  · rw [ofDigits_append, ofDigits_append, number, ofDigits_replicate_zero, List.length_replicate]
    change (⟨10 ^ 1 * (10 ^ d.exponent.toNat * d.digits), -1⟩ : Binary64.Decimal).value = d.value
    rw [value_pow_mul, value_pow_mul]
    congr 2
    omega

include digits other number in
theorem readsAs_among {point : Nat} (positive : 0 < point) (less : point < (c :: others).length)
    (exponent : d.exponent = point - (c :: others).length) :
  ReadsAs ((c :: others).take point ++ '.' :: (c :: others).drop point) d
  := by
  obtain ⟨before, rfl⟩ : ∃ before, point = before + 1 := ⟨point - 1, by omega⟩
  apply readsAs_point
  · rw [List.take_succ_cons, ← List.append_nil (c :: others.take before)]
    apply isWhole_append _ other
    · intro x member
      cases member
    · intro x among
      rw [← List.take_succ_cons] at among
      apply digits x (List.mem_of_mem_take among)
  · intro empty
    rw [List.drop_eq_nil_iff] at empty
    omega
  · intro x among
    apply digits x (List.mem_of_mem_drop among)
  · rw [List.take_append_drop, number, List.length_drop]
    congr 2
    omega

include digits number in
theorem readsAs_below {zeros : Nat} (exponent : d.exponent = -(zeros + (c :: others).length)) :
  ReadsAs ('0' :: '.' :: List.replicate zeros '0' ++ c :: others) d
  := by
  change ReadsAs (['0'] ++ '.' :: (List.replicate zeros '0' ++ c :: others)) d
  apply readsAs_point
  · apply isWhole_natText 0
  · intro empty
    cases (List.append_eq_nil_iff.mp empty).2
  · intro x among
    rcases List.mem_append.mp among with among | among
    · apply isDigit_of_mem_replicate among
    · apply digits x among
  · rw [ofDigits_append, ofDigits_append, number, ofDigits_replicate_zero, List.length_append,
      List.length_replicate]
    change (⟨10 ^ _ * 0 + (10 ^ _ * 0 + d.digits), _⟩ : Binary64.Decimal).value = d.value
    rw [Nat.mul_zero, Nat.mul_zero, Nat.zero_add, Nat.zero_add]
    congr 2
    omega

include digits number in
theorem readsAs_power {power : Int} (exponent : d.exponent = power - others.length) :
  ReadsAs ((match c :: others with
      | first :: second :: rest => first :: '.' :: second :: rest
      | short => short)
    ++ 'e' :: (if power < 0 then '-' else '+') :: Text.natText power.natAbs) d
  := by
  have written : (match c :: others with
      | first :: second :: rest => first :: '.' :: second :: rest
      | short => short) = [c] ++ if others = [] then [] else '.' :: others := by
    rcases others with _ | ⟨second, rest⟩
    · rfl
    · rfl
  rw [written]
  apply readsAs_exponent
  · constructor
    · intro x among
      rw [List.mem_singleton.mp among]
      apply digits c List.mem_cons_self
    · use c, []
      exact ⟨rfl, fun _ => rfl⟩
  · intro x among
    apply digits x (List.mem_cons_of_mem _ among)
  · rw [List.singleton_append, number, ← exponent]

end

/-- The text of a positive decimal is read as it. -/
theorem readsAs_text {d : Binary64.Decimal} (positive : 0 < d.digits) :
  ReadsAs d.text d
  := by
  obtain ⟨c, others, same, other⟩ := Text.natText_eq_cons positive
  have digits : ∀ x ∈ c :: others, x.isDigit = true := by
    rw [← same]
    intro x
    apply Text.isDigit_of_mem_natText
  have number : ofDigits (c :: others) = d.digits := by
    rw [← same, ofDigits_natText]
  rw [Binary64.Decimal.text, same]
  dsimp only
  split
  · next form =>
      apply readsAs_whole digits other number form.1
  · next large =>
      split
      · next form =>
          apply readsAs_among digits other number
          · omega
          · omega
          · omega
      · next middle =>
          split
          · next form =>
              apply readsAs_below digits number
              omega
          · apply readsAs_power digits number
            rw [List.length_cons]
            omega

/-! ### Double precision numbers -/

theorem ofMagnitude_magnitudeBits (x : Binary64) :
  Binary64.ofMagnitude x.isNegative x.magnitudeBits = x
  := by
  have split : Nat.pow 2 63 = 9223372036854775808 := rfl
  have bound := x.bits.toNat_lt
  rcases x with ⟨bits⟩
  rw [Binary64.ofMagnitude, Binary64.isNegative, Binary64.magnitudeBits, split]
  congr 1
  dsimp only at bound ⊢
  apply UInt64.toNat_inj.mp
  rw [UInt64.toNat_ofNat']
  by_cases negative : bits.toNat / 9223372036854775808 = 1
  · rw [if_pos (decide_eq_true negative)]
    omega
  · rw [if_neg (by simpa using negative)]
    omega

/-- A zero is read as a decimal. -/
theorem readsAs_zero :
  ReadsAs ['0', '.', '0'] ⟨0, 0⟩
  := by
  change ReadsAs (['0'] ++ '.' :: ['0']) _
  apply readsAs_point
  · apply isWhole_natText 0
  · apply List.cons_ne_nil
  · intro x
    apply isDigit_of_mem_zero
  · change (⟨0, _⟩ : Binary64.Decimal).value = (⟨0, _⟩ : Binary64.Decimal).value
    rw [Binary64.Decimal.value, Binary64.Decimal.value, Nat.cast_zero, zero_mul, zero_mul]

/-- A decimal that is read as a finite number is read from every text of it. -/
theorem readNumber_of_readsAs {body rest : List Char} {d : Binary64.Decimal} {x : Binary64}
    (reads : ReadsAs body d) (finite : x.isFinite = true)
    (number : ∀ d' : Binary64.Decimal, d'.value = d.value →
      Binary64.ofDecimal x.isNegative d'.digits d'.exponent = x)
    (stops : Text.Stops goesOn rest) :
  readNumber nearest (signed x.isNegative (body ++ rest)) = some (.real x, rest)
  := by
  obtain ⟨whole, tail, middle, fraction, exponent, split, proper, ends, readsFraction,
    readsExponent, isReal, same⟩ := reads rest stops
  have converted := number _ same
  dsimp only at converted
  rw [split, readNumber_append proper ends readsFraction readsExponent, ofParts?, isReal]
  simp only [if_true, nearest, converted, finite, Option.map_some]

/-- The text of a number without its sign. -/
def body (magnitude : Nat) : List Char :=
  if magnitude = 0 then ['0', '.', '0'] else (Binary64.shortest magnitude).text

theorem text_real (x : Binary64) :
  (Number.real x).text = signed x.isNegative (body x.magnitudeBits)
  := by
  rfl

/-- The text of a finite magnitude is read as a decimal that is converted to it. -/
theorem exists_readsAs_body {magnitude : Nat} (finite : magnitude < Binary64.infinityBits) :
  ∃ d, ReadsAs (body magnitude) d ∧ ∀ negative (d' : Binary64.Decimal), d'.value = d.value →
    Binary64.ofDecimal negative d'.digits d'.exponent = Binary64.ofMagnitude negative magnitude
  := by
  rcases magnitude with _ | before
  · use ⟨0, 0⟩, readsAs_zero
    intro negative d' same
    have zero : d'.digits = 0 := by
      rw [Binary64.Decimal.value, Binary64.Decimal.value, Nat.cast_zero, zero_mul, mul_eq_zero]
        at same
      rcases same with zero | power
      · exact_mod_cast zero
      · cases (zpow_ne_zero d'.exponent (by norm_num) : (10 : ℚ) ^ d'.exponent ≠ 0) power
    rw [zero]
    rfl
  · have rounds := Binary64.roundsTo_shortest before
    have positive := Binary64.digits_pos_of_roundsTo rounds (Nat.succ_pos before)
    use Binary64.shortest (before + 1), readsAs_text positive
    intro negative d' same
    rw [← same] at rounds
    apply Binary64.ofDecimal_of_roundsTo rounds (Nat.succ_pos before) finite

theorem exists_readsAs_of_isFinite {x : Binary64} (finite : x.isFinite = true) :
  ∃ d, ReadsAs (body x.magnitudeBits) d ∧ ∀ negative (d' : Binary64.Decimal), d'.value = d.value →
    Binary64.ofDecimal negative d'.digits d'.exponent
      = Binary64.ofMagnitude negative x.magnitudeBits
  := by
  apply exists_readsAs_body
  simpa [Binary64.isFinite] using finite

theorem readNumber_real {x : Binary64} (finite : x.isFinite = true) {rest : List Char}
    (stops : Text.Stops goesOn rest) :
  readNumber nearest ((Number.real x).text ++ rest) = some (.real x, rest)
  := by
  obtain ⟨d, reads, converted⟩ := exists_readsAs_of_isFinite finite
  rw [text_real, signed_append]
  apply readNumber_of_readsAs reads finite _ stops
  intro d' same
  rw [converted x.isNegative d' same, ofMagnitude_magnitudeBits]

/-- A proper number is read as it is written. -/
theorem readNumber_text {n : Number} (proper : n.IsProper) {rest : List Char}
    (stops : Text.Stops goesOn rest) :
  readNumber nearest (n.text ++ rest) = some (n, rest)
  := by
  cases n with
  | int n => apply readNumber_int proper stops
  | real x => apply readNumber_real proper stops

/-! ### Characters of numbers -/

/-- A digit or one of the other characters of numbers. -/
def isNumeric (c : Char) : Bool :=
  c.isDigit || c = '.' || c = '-' || c = '+' || c = 'e'

theorem isNumeric_of_isDigit {c : Char} (h : c.isDigit = true) :
  isNumeric c = true
  := by
  rw [isNumeric, h]
  rfl

theorem toNat_lt_of_isDigit {c : Char} (h : c.isDigit = true) :
  c.toNat < 0x7F
  := by
  rw [Char.isDigit, Bool.and_eq_true, decide_eq_true_eq, decide_eq_true_eq] at h
  have most : c.val.toNat ≤ 57 := h.2
  change c.val.toNat < 0x7F
  omega

theorem toNat_lt_of_isNumeric {c : Char} (h : isNumeric c = true) :
  c.toNat < 0x7F
  := by
  simp only [isNumeric, Bool.or_eq_true, decide_eq_true_eq] at h
  rcases h with (((digit | rfl) | rfl) | rfl) | rfl
  · apply toNat_lt_of_isDigit digit
  · decide
  · decide
  · decide
  · decide

theorem isNumeric_of_mem_natText (n : Nat) :
  ∀ c ∈ Text.natText n, isNumeric c = true
  := by
  intro c among
  apply isNumeric_of_isDigit
  apply Text.isDigit_of_mem_natText among

theorem isNumeric_of_mem_replicate (count : Nat) :
  ∀ c ∈ List.replicate count '0', isNumeric c = true
  := by
  intro c among
  apply isNumeric_of_isDigit
  apply isDigit_of_mem_replicate among

theorem isNumeric_of_mem_decimal (d : Binary64.Decimal) :
  ∀ c ∈ d.text, isNumeric c = true
  := by
  have digits := isNumeric_of_mem_natText d.digits
  have zeros := isNumeric_of_mem_replicate
  rw [Binary64.Decimal.text]
  generalize Text.natText d.digits = cs at digits
  dsimp only
  split
  · simp only [List.forall_mem_append, List.forall_mem_cons]
    exact ⟨⟨digits, zeros _⟩, rfl, rfl, List.forall_mem_nil _⟩
  split
  · simp only [List.forall_mem_append, List.forall_mem_cons]
    refine ⟨?_, rfl, ?_⟩
    · intro c among
      apply digits c (List.mem_of_mem_take among)
    · intro c among
      apply digits c (List.mem_of_mem_drop among)
  split
  · simp only [List.cons_append, List.forall_mem_append, List.forall_mem_cons]
    exact ⟨rfl, rfl, zeros _, digits⟩
  · simp only [List.forall_mem_append, List.forall_mem_cons]
    refine ⟨?_, rfl, ?_, isNumeric_of_mem_natText _⟩
    · split
      · simp only [List.forall_mem_cons] at digits ⊢
        exact ⟨digits.1, rfl, digits.2⟩
      · apply digits
    · split
      · rfl
      · rfl

theorem isNumeric_of_mem_signed {negative : Bool} {cs : List Char}
    (h : ∀ c ∈ cs, isNumeric c = true) :
  ∀ c ∈ signed negative cs, isNumeric c = true
  := by
  rw [signed]
  split
  · rw [List.forall_mem_cons]
    exact ⟨rfl, h⟩
  · apply h

theorem isNumeric_of_mem_text (n : Number) :
  ∀ c ∈ n.text, isNumeric c = true
  := by
  cases n with
  | int n =>
      rw [text_int]
      apply isNumeric_of_mem_signed
      apply isNumeric_of_mem_natText
  | real x =>
      rw [text_real, body]
      apply isNumeric_of_mem_signed
      split
      · simp only [List.forall_mem_cons]
        exact ⟨rfl, rfl, rfl, List.forall_mem_nil _⟩
      · apply isNumeric_of_mem_decimal

/-- A character with which a number begins. -/
def isLeading (c : Char) : Bool :=
  c.isDigit || c = '-'

theorem isLeading_signed {negative : Bool} {c : Char} {cs : List Char}
    (digit : c.isDigit = true) :
  ∃ first others, signed negative (c :: cs) = first :: others ∧ isLeading first = true
  := by
  cases negative with
  | true => exact ⟨'-', c :: cs, rfl, rfl⟩
  | false =>
      refine ⟨c, cs, rfl, ?_⟩
      rw [isLeading, digit, Bool.true_or]

/-- The text of a proper number begins with a sign or a digit. -/
theorem exists_text_cons {n : Number} (proper : n.IsProper) :
  ∃ c rest, n.text = c :: rest ∧ isLeading c = true
  := by
  cases n with
  | int n =>
      obtain ⟨c, rest, same, _⟩ := (isWhole_natText n.natAbs).first
      rw [text_int, same]
      apply isLeading_signed
      apply (isWhole_natText n.natAbs).digits c
      rw [same]
      apply List.mem_cons_self
  | real x =>
      obtain ⟨_, reads, _⟩ := exists_readsAs_of_isFinite proper
      obtain ⟨whole, tail, _, _, _, split, isWhole, _⟩ := reads [] Text.stops_nil
      obtain ⟨c, rest, same, _⟩ := isWhole.first
      rw [List.append_nil] at split
      rw [text_real, split, same]
      apply isLeading_signed
      apply isWhole.digits c
      rw [same]
      apply List.mem_cons_self

end Toolshed.Json
