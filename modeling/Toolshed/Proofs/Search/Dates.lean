import Toolshed.Proofs.Search.Filters
import Toolshed.Proofs.Timestamp.Writing

/-!
# Bounds on dates

A date of universal time is compared with a bound as in the calendar, however the two are written.
A bound without a time of day is compared with the day of the date.
-/

namespace Toolshed.Filter

open Json Timestamp

/-! ### Dates in one spelling -/

/-- A character as it is spelled in a date that is compared. -/
def spell (c : Char) : List Char :=
  if c = 'Z' then Moment.zone else [c]

theorem normalDate_eq (written : String) :
  normalDate written = joinDateTime ((Text.trimBoth written.toList).flatMap spell)
  := by
  rfl

theorem flatMap_spell {cs : List Char} (plain : ∀ c ∈ cs, IsPlain c) :
  cs.flatMap spell = cs
  := by
  induction cs with
  | nil => rfl
  | cons c cs ih =>
      rw [List.forall_mem_cons] at plain
      have other : c ≠ 'Z' := by
        rintro rfl
        apply absurd plain.1
        decide
      rw [List.flatMap_cons, ih plain.2, spell, if_neg other]
      rfl

theorem joinDateTime_append {cs : List Char} (plain : ∀ c ∈ cs, IsPlain c) (rest : List Char) :
  joinDateTime (cs ++ rest) = cs ++ joinDateTime rest
  := by
  induction cs with
  | nil => rfl
  | cons c cs ih =>
      rw [List.forall_mem_cons] at plain
      have other : c ≠ ' ' := by
        rintro rfl
        apply absurd plain.1
        decide
      rw [List.cons_append, joinDateTime, if_neg other, ih plain.2]
      rfl

theorem joinDateTime_of_plain {cs : List Char} (plain : ∀ c ∈ cs, IsPlain c) :
  joinDateTime cs = cs
  := by
  have whole := joinDateTime_append plain []
  rw [List.append_nil] at whole
  rw [whole]
  apply List.append_nil

/-- The zone and the separator are spelled in one way. -/
theorem joinDateTime_flatMap_spell {separator : Char} {zone : List Char}
    (joins : separator ∈ ['T', ' ']) (universal : zone ∈ [['Z'], Moment.zone]) (s : Stamp) :
  joinDateTime ((s.spelled separator zone).flatMap spell) = s.text
  := by
  cases s with
  | day d =>
      have plain : ∀ c ∈ d.text, IsPlain c := by
        intro c among
        apply d.isPlain_of_mem_text among
      rw [Stamp.spelled, flatMap_spell plain, joinDateTime_of_plain plain, Stamp.text]
  | moment m =>
      have plain : ∀ c ∈ m.day.text, IsPlain c := by
        intro c among
        apply m.day.isPlain_of_mem_text among
      have plain' : ∀ c ∈ m.clock, IsPlain c := by
        intro c among
        apply m.isPlain_of_mem_clock among
      have plain'' : ∀ c ∈ Moment.zone, IsPlain c :=
        List.all_iff_forall_prop.mp (by decide)
      have zones : ∀ zone ∈ [['Z'], Moment.zone], zone.flatMap spell = Moment.zone := by
        decide
      have separators : ∀ c ∈ ['T', ' '], spell c = [c] :=
        List.all_iff_forall_prop.mp (by decide)
      have later : joinDateTime (m.clock ++ Moment.zone) = m.clock ++ Moment.zone := by
        rw [joinDateTime_append plain', joinDateTime_of_plain plain'']
      rw [Stamp.spelled, List.flatMap_append, List.flatMap_cons, List.flatMap_append,
        flatMap_spell plain, flatMap_spell plain', zones zone universal,
        separators separator joins, joinDateTime_append plain, Stamp.text, Moment.text,
        List.singleton_append, joinDateTime, later]
      split
      · rfl
      · next other =>
          simp only [List.mem_cons, other, List.not_mem_nil, or_false] at joins
          rw [joins]

/-- A date is compared in one spelling, however it is written. -/
theorem normalDate_of_isWritten {s : Stamp} {written : String} (h : s.IsWritten written) :
  normalDate written = s.text
  := by
  obtain ⟨before, after, separator, zone, same, blank, blank', joins, universal⟩ := h
  rw [normalDate_eq, same, Text.trimBoth_surround blank blank', s.trimBoth_spelled universal,
    joinDateTime_flatMap_spell joins universal]

/-! ### The compared part of a date -/

theorem byteLength_append (front rest : List Char) :
  byteLength (front ++ rest) = byteLength front + byteLength rest
  := by
  simp [byteLength]

theorem byteLength_of_plain {cs : List Char} (plain : ∀ c ∈ cs, IsPlain c) :
  byteLength cs = cs.length
  := by
  induction cs with
  | nil => rfl
  | cons c cs ih =>
      rw [List.forall_mem_cons] at plain
      rw [byteLength_cons, List.length_cons, ih plain.2, Nat.add_comm, plain.1.utf8Size]

theorem byteLength_day (d : Day) :
  byteLength d.text = 10
  := by
  rw [byteLength_of_plain, d.length_text]
  intro c among
  apply d.isPlain_of_mem_text among

theorem byteLength_moment (m : Moment) :
  10 < byteLength m.text
  := by
  have := Char.utf8Size_pos 'T'
  rw [Moment.text, byteLength_append, byteLength_day, byteLength_cons]
  omega

theorem comparedDate?_text (s bound : Stamp) :
  comparedDate? s.text bound.text = some (s.against bound).text
  := by
  rw [comparedDate?]
  cases bound with
  | day b =>
      cases s with
      | day d =>
          rw [if_neg]
          · rfl
          · rintro ⟨_, long⟩
            apply Nat.ne_of_gt long (byteLength_day d)
      | moment m =>
          rw [if_pos ⟨byteLength_day b, byteLength_moment m⟩, takeBytes?_eq_some_iff]
          use List.prefix_append _ _
          apply byteLength_day
  | moment b =>
      rw [if_neg]
      · rfl
      · rintro ⟨short, _⟩
        apply Nat.ne_of_gt (byteLength_moment b) short

section

variable {item : Item} {stamp bound first last : Stamp} {date text text' : String}

/-- A date is compared with a bound in the one spelling of each of them. -/
theorem boundsDate?_of_isWritten (dated : item "created_at" = some (.string date))
    (written : stamp.IsWritten date) (written' : bound.IsWritten text)
    (related : List Char → List Char → Bool) :
  boundsDate? item (.string text) related
    = some (related (stamp.against bound).text bound.text)
  := by
  rw [boundsDate?, dated]
  dsimp only [Option.bind, Value.scalar?]
  rw [normalDate_of_isWritten written, normalDate_of_isWritten written', stamp.text_ne_nil,
    bound.text_ne_nil, comparedDate?_text]
  rfl

theorem passesOne?_date_from (dated : item "created_at" = some (.string date))
    (written : stamp.IsWritten date) (written' : bound.IsWritten text) :
  passesOne? item "date_from" (.string text) = some (decide (stamp.NotBefore bound))
  := by
  rw [passesOne?, if_pos rfl, boundsDate?_of_isWritten dated written written', Option.some.injEq,
    decide_eq_decide, Stamp.notBefore_iff]

theorem passesOne?_date_to (dated : item "created_at" = some (.string date))
    (written : stamp.IsWritten date) (written' : bound.IsWritten text) :
  passesOne? item "date_to" (.string text) = some (decide (stamp.NotAfter bound))
  := by
  rw [passesOne?, if_neg (by decide), if_pos rfl, boundsDate?_of_isWritten dated written written',
    Option.some.injEq, decide_eq_decide, Stamp.notAfter_iff]

/-- Two filters are passed together. -/
theorem matches?_pair {name name' : String} {expected expected' : Value} {one other : Bool}
    (passed : passesOne? item name expected = some one)
    (passed' : passesOne? item name' expected' = some other) :
  matches? item [(name, expected), (name', expected')] = some (one && other)
  := by
  rw [matches?, passed]
  cases one with
  | true =>
      dsimp only
      rw [matches?_singleton, passed']
      rfl
  | false => rfl

/-- An item with a date of universal time passes a first date if and only if its own is not before
it, and a last date if and only if its own is not after it, by the day if the bound is one.  With
both it passes if and only if its date is in the closed interval between them. -/
theorem matches?_dates (dated : item "created_at" = some (.string date))
    (written : stamp.IsWritten date) :
  (∀ text bound, bound.IsWritten text →
      matches? item [("date_from", .string text)] = some (decide (stamp.NotBefore bound))
        ∧ matches? item [("date_to", .string text)] = some (decide (stamp.NotAfter bound)))
    ∧ ∀ text text' first last, first.IsWritten text → last.IsWritten text' →
      matches? item [("date_from", .string text), ("date_to", .string text')]
          = some (decide (stamp.NotBefore first ∧ stamp.NotAfter last))
        ∧ matches? item [("date_to", .string text'), ("date_from", .string text)]
          = some (decide (stamp.NotBefore first ∧ stamp.NotAfter last))
  := by
  constructor
  · intro text bound written'
    rw [matches?_singleton, matches?_singleton, passesOne?_date_from dated written written',
      passesOne?_date_to dated written written']
    use rfl
  · intro text text' first last written' written''
    have lower := passesOne?_date_from dated written written'
    have upper := passesOne?_date_to dated written written''
    rw [matches?_pair lower upper, matches?_pair upper lower, Bool.decide_and]
    use rfl
    rw [Bool.and_comm]

end

/-- An item that has nothing but a date. -/
def datedItem (date : String) : Item :=
  fun name => if name = "created_at" then some (.string date) else none

/-- The last day of February in a leap year. -/
def leapDay : Day :=
  ⟨2024, 2, 29, by decide, by decide, by decide, by decide, by decide⟩

/-- The noon of that day. -/
def leapNoon : Moment :=
  ⟨leapDay, 12, 0, 0, by decide, by decide, by decide⟩

/-- The last second of that day, if it has one more. -/
def leapSecond : Moment :=
  ⟨leapDay, 23, 59, 60, by decide, by decide, by decide⟩

/-- The first day of the year after it. -/
def newYear : Day :=
  ⟨2025, 1, 1, by decide, by decide, by decide, by decide, by decide⟩

/-- The last second of a leap day, with a space, a `Z` and blanks around it, is in the interval from
the noon of the day, with a `T` and the zone in digits, to the day.  It is not from the next year
on. -/
theorem matches?_dates_leapSecond :
  (datedItem " 2024-02-29 23:59:60Z\n" "created_at" = some (.string " 2024-02-29 23:59:60Z\n")
      ∧ Stamp.IsWritten (.moment leapSecond) " 2024-02-29 23:59:60Z\n")
    ∧ matches? (datedItem " 2024-02-29 23:59:60Z\n")
      [("date_from", .string "2024-02-29T12:00:00+00:00"), ("date_to", .string "2024-02-29")]
      = some true
    ∧ matches? (datedItem " 2024-02-29 23:59:60Z\n") [("date_from", .string "2025-01-01")]
      = some false
  := by
  have written : Stamp.IsWritten (.moment leapSecond) " 2024-02-29 23:59:60Z\n" :=
    ⟨[' '], ['\n'], ' ', ['Z'], by decide, List.all_eq_true.mp (by decide),
      List.all_eq_true.mp (by decide), by decide, by decide⟩
  have lower : Stamp.IsWritten (.moment leapNoon) "2024-02-29T12:00:00+00:00" :=
    @Stamp.isWritten_of_toList_eq _ 'T' Moment.zone _ (by decide) (by decide) (by decide)
  have upper : Stamp.IsWritten (.day leapDay) "2024-02-29" :=
    @Stamp.isWritten_of_toList_eq _ 'T' Moment.zone _ (by decide) (by decide) (by decide)
  have next : Stamp.IsWritten (.day newYear) "2025-01-01" :=
    @Stamp.isWritten_of_toList_eq _ 'T' Moment.zone _ (by decide) (by decide) (by decide)
  obtain ⟨one, both⟩ := @matches?_dates (datedItem " 2024-02-29 23:59:60Z\n") _ _ rfl written
  refine ⟨⟨rfl, written⟩, ?_, ?_⟩
  · rw [(both _ _ _ _ lower upper).1]
    decide +kernel
  · rw [(one _ _ next).1]
    decide +kernel

end Toolshed.Filter
