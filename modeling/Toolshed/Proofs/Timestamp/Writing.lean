import Toolshed.Timestamp
import Toolshed.Proofs.Decimal.Digits
import Toolshed.Proofs.Text.Blanks
import Toolshed.Proofs.Timestamp.Calendar
import Mathlib.Data.Bool.AllAny

/-!
# Days and moments as texts

Numbers with leading zeros are in the order of their texts.  So are days, and moments, as long as
all moments are written in one way.
-/

namespace Toolshed.Timestamp

/-! ### Numbers with leading zeros -/

section

variable {width a b : Nat}

theorem isDigit_of_mem_padded {c : Char} (among : c ∈ padded width a) :
  c.isDigit = true
  := by
  rw [padded, List.mem_append] at among
  rcases among with zero | among
  · rw [List.eq_of_mem_replicate zero]
    rfl
  · apply Text.isDigit_of_mem_natText among

theorem ofDigits_padded (width a : Nat) :
  Decimal.ofDigits (padded width a) = a
  := by
  rw [padded, Decimal.ofDigits_append, Decimal.ofDigits_replicate_zero, Decimal.ofDigits_natText,
    Nat.mul_zero, Nat.zero_add]

theorem length_padded (pos : 0 < width) (small : a < 10 ^ width) :
  (padded width a).length = width
  := by
  have fits : (Text.natText a).length ≤ width :=
    (Nat.length_toDigits_le_iff (by decide) pos).mpr small
  rw [padded, List.length_append, List.length_replicate]
  omega

theorem padded_lt_padded_iff (pos : 0 < width) (small : a < 10 ^ width) (small' : b < 10 ^ width) :
  padded width a < padded width b ↔ a < b
  := by
  rw [(Decimal.lt_iff_and_eq_iff _ _ _).1, ofDigits_padded, ofDigits_padded]
  · rw [length_padded pos small, length_padded pos small']
  · intro c among
    apply isDigit_of_mem_padded among
  · intro c among
    apply isDigit_of_mem_padded among

theorem padded_inj :
  padded width a = padded width b ↔ a = b
  := by
  constructor
  · intro same
    rw [← ofDigits_padded width a, same, ofDigits_padded]
  · rintro rfl
    rfl

/-- Texts that begin with numbers of one width and a mark are in the order of the numbers, and those
with the same one in the order of what follows. -/
theorem padded_append_lt_iff (pos : 0 < width) (small : a < 10 ^ width) (small' : b < 10 ^ width)
    (mark : Char) (us vs : List Char) :
  padded width a ++ mark :: us < padded width b ++ mark :: vs ↔ a < b ∨ a = b ∧ us < vs
  := by
  rw [Text.append_lt_append_iff, padded_lt_padded_iff pos small small', padded_inj,
    List.cons_lt_cons_self]
  rw [length_padded pos small, length_padded pos small']

end

/-- A character of a date in digits, other than the letters of it. -/
def IsPlain (c : Char) : Prop :=
  c.isDigit = true ∨ c ∈ ['-', ':', '+']

instance : DecidablePred IsPlain :=
  fun c => inferInstanceAs (Decidable (c.isDigit = true ∨ c ∈ ['-', ':', '+']))

theorem IsPlain.visible {c : Char} (plain : IsPlain c) :
  Text.isBlank c = false
  := by
  have marks : ∀ c ∈ ['-', ':', '+'], Text.isBlank c = false :=
    List.all_iff_forall_prop.mp (by decide)
  rcases plain with digit | mark
  · apply Text.isBlank_of_isDigit digit
  · apply marks c mark

theorem IsPlain.utf8Size {c : Char} (plain : IsPlain c) :
  c.utf8Size = 1
  := by
  have marks : ∀ c ∈ ['-', ':', '+'], c.utf8Size = 1 :=
    List.all_iff_forall_prop.mp (by decide)
  rcases plain with digit | mark
  · rw [Char.utf8Size_eq_one_iff]
    apply UInt32.le_iff_toNat_le.mpr
    apply Nat.le_trans (Char.isDigit_iff_toNat.mp digit).2
    decide
  · apply marks c mark

/-! ### Three numbers -/

/-- Three numbers, all but the first in two digits, with a mark between them. -/
def marked (mark : Char) (width a b c : Nat) : List Char :=
  padded width a ++ mark :: (padded 2 b ++ mark :: padded 2 c)

section

variable {mark : Char} {width a b c a' b' c' : Nat}

theorem isPlain_of_mem_marked (plain : IsPlain mark) {x : Char}
    (among : x ∈ marked mark width a b c) :
  IsPlain x
  := by
  rw [marked] at among
  simp only [List.mem_append, List.mem_cons] at among
  rcases among with digit | rfl | digit | rfl | digit
  · left
    apply isDigit_of_mem_padded digit
  · apply plain
  · left
    apply isDigit_of_mem_padded digit
  · apply plain
  · left
    apply isDigit_of_mem_padded digit

theorem length_marked (pos : 0 < width) (small : a < 10 ^ width) (small_b : b < 100)
    (small_c : c < 100) :
  (marked mark width a b c).length = width + 6
  := by
  rw [marked, List.length_append, List.length_cons, List.length_append, List.length_cons,
    length_padded pos small, length_padded (by decide) small_b, length_padded (by decide) small_c]

/-- Three numbers are in the order of their text. -/
theorem marked_lt_marked_iff (pos : 0 < width) (small : a < 10 ^ width) (small' : a' < 10 ^ width)
    (small_b : b < 100) (small_b' : b' < 100) (small_c : c < 100) (small_c' : c' < 100) :
  marked mark width a b c < marked mark width a' b' c'
    ↔ a < a' ∨ a = a' ∧ (b < b' ∨ b = b' ∧ c < c')
  := by
  rw [marked, marked, padded_append_lt_iff pos small small',
    padded_append_lt_iff (by decide) small_b small_b',
    padded_lt_padded_iff (by decide) small_c small_c']

end

/-! ### Days -/

namespace Day

variable (d e : Day)

theorem month_small :
  d.month < 100
  := by
  have := d.month_le
  omega

theorem dayOfMonth_small :
  d.dayOfMonth < 100
  := by
  have := d.dayOfMonth_le
  have := monthLength_le d.year d.month
  omega

/-- A day is written as its year, its month and its day of the month. -/
def text : List Char :=
  marked '-' 4 d.year d.month d.dayOfMonth

theorem length_text :
  d.text.length = 10
  := length_marked (by decide) d.year_lt d.month_small d.dayOfMonth_small

theorem isPlain_of_mem_text {c : Char} (among : c ∈ d.text) :
  IsPlain c
  := isPlain_of_mem_marked (by decide) among

/-- Days are in the order of their texts. -/
theorem text_lt_iff :
  d.text < e.text ↔ d.number < e.number
  := by
  rw [text, text, marked_lt_marked_iff (by decide) d.year_lt e.year_lt d.month_small e.month_small
    d.dayOfMonth_small e.dayOfMonth_small, number_lt_iff]

theorem text_inj :
  d.text = e.text ↔ d.number = e.number
  := by
  constructor
  · intro same
    have not_less : ¬ d.number < e.number := by
      rw [← text_lt_iff, same]
      apply List.lt_irrefl
    have not_more : ¬ e.number < d.number := by
      rw [← text_lt_iff, same]
      apply List.lt_irrefl
    omega
  · intro same
    obtain ⟨years, months, days⟩ := (d.number_eq_iff e).mp same
    rw [text, text, years, months, days]

/-- What begins with a day is in the order of the days, and with the same day in the order of what
follows. -/
theorem text_append_lt_iff (us vs : List Char) :
  d.text ++ us < e.text ++ vs ↔ d.number < e.number ∨ d.number = e.number ∧ us < vs
  := by
  rw [Text.append_lt_append_iff, text_lt_iff, text_inj]
  rw [length_text, length_text]

end Day

/-! ### Moments -/

namespace Moment

variable (m n : Moment)

theorem hour_small :
  m.hour < 100
  := by
  have := m.hour_lt
  omega

theorem minute_small :
  m.minute < 100
  := by
  have := m.minute_lt
  omega

theorem second_small :
  m.second < 100
  := by
  have := m.second_lt
  omega

/-- The time of day is written as the hour, the minute and the second. -/
def clock : List Char :=
  marked ':' 2 m.hour m.minute m.second

theorem length_clock :
  m.clock.length = 8
  := length_marked (by decide) m.hour_small m.minute_small m.second_small

theorem isPlain_of_mem_clock {c : Char} (among : c ∈ m.clock) :
  IsPlain c
  := isPlain_of_mem_marked (by decide) among

theorem clock_lt_iff :
  m.clock < n.clock ↔ m.secondOfDay < n.secondOfDay
  := by
  rw [clock, clock, marked_lt_marked_iff (by decide) m.hour_small n.hour_small m.minute_small
    n.minute_small m.second_small n.second_small, secondOfDay_lt_iff]

/-- The zone of universal time in digits. -/
def zone : List Char :=
  "+00:00".toList

/-- A moment, written with a `T` and with the zone in digits. -/
def text : List Char :=
  m.day.text ++ 'T' :: (m.clock ++ zone)

/-- Moments are in the order of their texts. -/
theorem text_lt_iff :
  m.text < n.text ↔ m.time < n.time
  := by
  have clocks : m.clock ++ zone < n.clock ++ zone ↔ m.secondOfDay < n.secondOfDay := by
    rw [Text.append_lt_append_iff, clock_lt_iff, or_iff_left]
    · rintro ⟨_, less⟩
      apply List.lt_irrefl zone less
    · rw [length_clock, length_clock]
  rw [text, text, Day.text_append_lt_iff, List.cons_lt_cons_self, clocks, time_lt_iff]

/-- A day comes before all moments of it, as a text. -/
theorem day_text_lt_iff (d : Day) :
  d.text < m.text ↔ d.number ≤ m.day.number
  := by
  rw [← List.append_nil d.text, text, Day.text_append_lt_iff, Nat.le_iff_lt_or_eq,
    and_iff_left (List.nil_lt_cons _ _)]

theorem text_lt_day_iff (d : Day) :
  m.text < d.text ↔ m.day.number < d.number
  := by
  rw [← List.append_nil d.text, text, Day.text_append_lt_iff, or_iff_left]
  rintro ⟨_, less⟩
  apply List.not_lt_nil _ less

end Moment

/-! ### Dates -/

/-- A date as it is written: a day, with the time of day or without it. -/
inductive Stamp where
  | day (d : Day)
  | moment (m : Moment)

namespace Stamp

/-- The day of a date. -/
def date : Stamp → Day
  | day d => d
  | moment m => m.day

/-- The text of a date with a given separator and a given zone, if it has a time of day. -/
def spelled (separator : Char) (zone : List Char) : Stamp → List Char
  | day d => d.text
  | moment m => m.day.text ++ separator :: (m.clock ++ zone)

/-- The text of a date with a `T` and with the zone in digits. -/
def text : Stamp → List Char
  | day d => d.text
  | moment m => m.text

/-- A text stands for a date: with a `T` or a space before the time of day, one of the zones of
universal time after it, and blanks around all of it. -/
def IsWritten (s : Stamp) (written : String) : Prop :=
  ∃ before after separator zone,
    written.toList = before ++ s.spelled separator zone ++ after
      ∧ (∀ c ∈ before, Text.isBlank c = true) ∧ (∀ c ∈ after, Text.isBlank c = true)
      ∧ separator ∈ ['T', ' '] ∧ zone ∈ [['Z'], Moment.zone]

/-- There may be no blanks around it. -/
theorem isWritten_of_toList_eq {s : Stamp} {separator : Char} {zone : List Char} {written : String}
    (joins : separator ∈ ['T', ' ']) (universal : zone ∈ [['Z'], Moment.zone])
    (same : written.toList = s.spelled separator zone) :
  s.IsWritten written
  := by
  refine ⟨[], [], separator, zone, ?_, List.forall_mem_nil _, List.forall_mem_nil _, joins,
    universal⟩
  rw [same, List.nil_append, List.append_nil]

/-- The blanks are all that is trimmed of it. -/
theorem trimBoth_spelled {zone : List Char} (universal : zone ∈ [['Z'], Moment.zone])
    (separator : Char) (s : Stamp) :
  Text.trimBoth (s.spelled separator zone) = s.spelled separator zone
  := by
  cases s with
  | day d =>
      apply Text.trimBoth_of_visible
      intro c among
      apply (d.isPlain_of_mem_text among).visible
  | moment m =>
      have zones : ∀ zone ∈ [['Z'], Moment.zone], zone.all (!Text.isBlank ·) = true := by
        decide
      apply Text.trimBoth_of_ends _ _ _ _ [separator]
      · intro c among
        apply (m.day.isPlain_of_mem_text among).visible
      · intro c among
        rcases List.mem_append.mp among with among | among
        · apply (m.isPlain_of_mem_clock among).visible
        · simpa using List.all_eq_true.mp (zones zone universal) c among
      · apply List.ne_nil_of_length_pos
        rw [Day.length_text]
        decide
      · apply List.append_ne_nil_of_left_ne_nil
        apply List.ne_nil_of_length_pos
        rw [Moment.length_clock]
        decide

/-! ### Comparing dates -/

/-- A date as it is compared with a bound: by its day if the bound has no time of day. -/
def against (s : Stamp) : Stamp → Stamp
  | day _ => day s.date
  | moment _ => s

/-- A date is not before a bound.  A day comes before all the moments of it. -/
def NotBefore : Stamp → Stamp → Prop
  | s, day b => b.number ≤ s.date.number
  | day d, moment b => b.day.number < d.number
  | moment m, moment b => b.time ≤ m.time

/-- A date is not after a bound, not even in its time of day if the bound has one. -/
def NotAfter : Stamp → Stamp → Prop
  | s, day b => s.date.number ≤ b.number
  | day d, moment b => d.number ≤ b.day.number
  | moment m, moment b => m.time ≤ b.time

instance (s : Stamp) : (bound : Stamp) → Decidable (s.NotBefore bound)
  | day b => inferInstanceAs (Decidable (b.number ≤ s.date.number))
  | moment b =>
    match s with
    | day d => inferInstanceAs (Decidable (b.day.number < d.number))
    | moment m => inferInstanceAs (Decidable (b.time ≤ m.time))

instance (s : Stamp) : (bound : Stamp) → Decidable (s.NotAfter bound)
  | day b => inferInstanceAs (Decidable (s.date.number ≤ b.number))
  | moment b =>
    match s with
    | day d => inferInstanceAs (Decidable (d.number ≤ b.day.number))
    | moment m => inferInstanceAs (Decidable (m.time ≤ b.time))

theorem notBefore_iff (s bound : Stamp) :
  s.NotBefore bound ↔ ¬ (s.against bound).text < bound.text
  := by
  cases bound with
  | day b => rw [NotBefore, against, text, text, Day.text_lt_iff, Nat.not_lt]
  | moment b =>
      cases s with
      | day d => rw [NotBefore, against, text, text, Moment.day_text_lt_iff, Nat.not_le]
      | moment m => rw [NotBefore, against, text, text, Moment.text_lt_iff, not_lt]

theorem notAfter_iff (s bound : Stamp) :
  s.NotAfter bound ↔ ¬ bound.text < (s.against bound).text
  := by
  cases bound with
  | day b => rw [NotAfter, against, text, text, Day.text_lt_iff, Nat.not_lt]
  | moment b =>
      cases s with
      | day d => rw [NotAfter, against, text, text, Moment.text_lt_day_iff, Nat.not_lt]
      | moment m => rw [NotAfter, against, text, text, Moment.text_lt_iff, not_lt]

theorem text_ne_nil (s : Stamp) :
  s.text.isEmpty = false
  := by
  rw [List.isEmpty_eq_false_iff]
  cases s with
  | day d =>
      apply List.ne_nil_of_length_pos
      rw [text, Day.length_text]
      decide
  | moment m => apply List.append_ne_nil_of_right_ne_nil _ (List.cons_ne_nil _ _)

end Stamp

end Toolshed.Timestamp
