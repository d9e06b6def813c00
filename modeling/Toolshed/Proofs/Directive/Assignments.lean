import Toolshed.Proofs.Directive.Declaration

/-!
# Assignments in a directive

The name and the version that identify a directive are not read from its attributes, but from the
last text in the first tag that looks like an assignment to them: without blanks around the equals
sign, with quotes of any kind at its ends and none in between, anywhere in the tag, and in a tag
whose name may go on.
-/

namespace Toolshed.Directive

open Text

section

variable {name value v cs rest front : List Char}

/-! ### Assignments -/

/-- A text begins with an assignment to a name, of a value without quotes between quotes. -/
def Assigns (name value text : List Char) : Prop :=
  ∃ q q' rest, text = name ++ '=' :: q :: (value ++ q' :: rest) ∧ IsQuote q ∧ IsQuote q'
    ∧ value ≠ [] ∧ ∀ c ∈ value, ¬ IsQuote c

theorem isQuote_iff {c : Char} :
  (c = '"' || c = '\'') = true ↔ IsQuote c
  := by
  rw [Bool.or_eq_true, decide_eq_true_eq, decide_eq_true_eq]
  rfl

theorem assigned?_eq_some_iff :
  assigned? name cs = some value ↔ Assigns name value cs
  := by
  constructor
  · intro found
    obtain ⟨rest, starts, inRest⟩ := Option.bind_eq_some_iff.mp found
    rw [afterStart?_eq_some.mp starts]
    split at inRest
    · next q rest =>
        simp only [Option.ite_none_right_eq_some, Bool.and_eq_true, isQuote_iff, decide_eq_true_eq,
          Bool.not_eq_true', List.isEmpty_eq_false_iff] at inRest
        obtain ⟨⟨⟨isQuote, nonempty⟩, shorter⟩, same⟩ := inRest
        cases same
        have whole := List.takeWhile_append_dropWhile (p := fun c => !(c = '"' || c = '\''))
          (l := rest)
        have ends := stops_dropWhile (fun c => !(c = '"' || c = '\'')) rest
        rcases closing : rest.dropWhile (fun c => !(c = '"' || c = '\'')) with _ | ⟨q', more⟩
        · rw [closing, List.append_nil] at whole
          rw [whole] at shorter
          cases Nat.lt_irrefl _ shorter
        · rw [closing] at ends whole
          refine ⟨q, q', more, ?_, isQuote, ?_, nonempty, ?_⟩
          · rw [whole, List.append_assoc]
            rfl
          · rw [← isQuote_iff, ← Bool.not_eq_false']
            apply ends q' rfl
          · intro c among
            rw [← isQuote_iff, Bool.not_eq_true, ← Bool.not_eq_true']
            apply List.mem_takeWhile_imp among
    · cases inRest
  · rintro ⟨q, q', rest, rfl, isQuote, isQuote', nonempty, free⟩
    have starts : afterStart? (name ++ ['=']) (name ++ '=' :: q :: (value ++ q' :: rest))
        = some (q :: (value ++ q' :: rest)) := by
      apply afterStart?_eq_some.mpr
      simp
    have run : (value ++ q' :: rest).takeWhile (fun c => !(c = '"' || c = '\'')) = value := by
      apply takeWhile_append_stops
      · intro c among
        rw [Bool.not_eq_true', ← Bool.not_eq_true, isQuote_iff]
        apply free c among
      · apply stops_cons
        rw [Bool.not_eq_false', isQuote_iff]
        apply isQuote'
    rw [assigned?, starts, Option.bind_eq_bind, Option.bind_some]
    simp only [Option.ite_none_right_eq_some, Bool.and_eq_true, isQuote_iff, decide_eq_true_eq,
      Bool.not_eq_true', List.isEmpty_eq_false_iff, run]
    use ⟨⟨isQuote, nonempty⟩, by simp⟩
    rfl

/-- An assignment begins with its name. -/
theorem Assigns.exists_eq_cons (isName : IsName name) (assigns : Assigns name value cs) :
  ∃ c rest, cs = c :: rest ∧ (isWordChar c || c = '-') = true
  := by
  obtain ⟨q, q', rest, rfl, -⟩ := assigns
  obtain ⟨c, run, rfl, first, -⟩ := isName
  refine ⟨c, _, rfl, ?_⟩
  rw [IsName.isWordChar_of_start first]
  rfl

/-! ### The last assignment in a tag -/

theorem lastAssigned?_cons {c : Char} (goesOn : c ≠ '>') (cs : List Char) :
  lastAssigned? name (c :: cs) = (lastAssigned? name cs).or (assigned? name (c :: cs))
  := by
  rw [lastAssigned?, if_neg goesOn]

theorem lastAssigned?_eq_none_iff (isName : IsName name) :
  lastAssigned? name cs = none
    ↔ ∀ front tail, cs = front ++ tail → '>' ∉ front → ∀ v, ¬ Assigns name v tail
  := by
  induction cs with
  | nil =>
      constructor
      · rintro - front tail parts - v assigns
        obtain ⟨c, rest, rfl, -⟩ := assigns.exists_eq_cons isName
        cases (List.append_eq_nil_iff.mp parts.symm).2
      · intro
        rfl
  | cons c cs ih =>
      by_cases ends : c = '>'
      · constructor
        · rintro - front tail parts free v assigns
          rcases front with _ | ⟨d, front⟩
          · obtain ⟨d, rest, rfl, letter⟩ := assigns.exists_eq_cons isName
            rw [← (List.cons.inj parts).1, ends] at letter
            cases letter
          · apply free
            rw [← (List.cons.inj parts).1, ends]
            apply List.mem_cons_self
        · intro
          rw [lastAssigned?, if_pos ends]
      · rw [lastAssigned?_cons ends, Option.or_eq_none_iff, ih]
        constructor
        · rintro ⟨later, here⟩ front tail parts free v assigns
          rcases front with _ | ⟨d, front⟩
          · rw [List.nil_append] at parts
            rw [← parts, ← assigned?_eq_some_iff, here] at assigns
            cases assigns
          · obtain ⟨rfl, parts'⟩ := List.cons.inj parts
            rw [List.mem_cons, not_or] at free
            apply later front tail parts' free.2 v assigns
        · intro unassigned
          constructor
          · rintro front tail rfl free v assigns
            apply unassigned (c :: front) tail rfl _ v assigns
            simpa using ⟨Ne.symm ends, free⟩
          · rw [Option.eq_none_iff_forall_ne_some]
            intro v found
            apply unassigned [] (c :: cs) rfl List.not_mem_nil v (assigned?_eq_some_iff.mp found)

theorem lastAssigned?_eq_some_iff (isName : IsName name) :
  lastAssigned? name cs = some value ↔ ∃ front c rest, cs = front ++ c :: rest ∧ '>' ∉ front
    ∧ Assigns name value (c :: rest) ∧ lastAssigned? name rest = none
  := by
  induction cs with
  | nil => simp [lastAssigned?]
  | cons c cs ih =>
      by_cases ends : c = '>'
      · rw [lastAssigned?, if_pos ends]
        constructor
        · intro found
          cases found
        · rintro ⟨front, d, rest, parts, free, assigns, -⟩
          rcases front with _ | ⟨d, front⟩
          · obtain ⟨d, rest, same, letter⟩ := assigns.exists_eq_cons isName
            rw [← (List.cons.inj same).1, ← (List.cons.inj parts).1, ends] at letter
            cases letter
          · cases free (by rw [← (List.cons.inj parts).1, ends]; apply List.mem_cons_self)
      · rw [lastAssigned?_cons ends, Option.or_eq_some_iff, ih]
        constructor
        · rintro (⟨front, d, rest, rfl, free, found⟩ | ⟨unassigned, here⟩)
          · refine ⟨c :: front, d, rest, rfl, ?_, found⟩
            simpa using ⟨Ne.symm ends, free⟩
          · exact ⟨[], c, cs, rfl, List.not_mem_nil, assigned?_eq_some_iff.mp here, unassigned⟩
        · rintro ⟨front, d, rest, parts, free, assigns, unassigned⟩
          rcases front with _ | ⟨d', front⟩
          · obtain ⟨rfl, rfl⟩ := List.cons.inj parts
            right
            use unassigned
            apply assigned?_eq_some_iff.mpr assigns
          · obtain ⟨rfl, rfl⟩ := List.cons.inj parts
            rw [List.mem_cons, not_or] at free
            left
            exact ⟨front, d, rest, rfl, free.2, assigns, unassigned⟩

/-- An assignment further on in a tag is the last one also of the whole tag. -/
theorem lastAssigned?_append (free : '>' ∉ front) (last : lastAssigned? name rest = some value) :
  lastAssigned? name (front ++ rest) = some value
  := by
  induction front with
  | nil => apply last
  | cons c front ih =>
      rw [List.mem_cons, not_or] at free
      rw [List.cons_append, lastAssigned?_cons (Ne.symm free.1), ih free.2]
      rfl

/-- Where no assignment begins, the last one comes later. -/
theorem lastAssigned?_append_of_not (free : '>' ∉ front)
    (unassigned : ∀ back v, back <:+ front → back ≠ [] → ¬ Assigns name v (back ++ rest)) :
  lastAssigned? name (front ++ rest) = lastAssigned? name rest
  := by
  induction front with
  | nil => rfl
  | cons c front ih =>
      rw [List.mem_cons, not_or] at free
      have notHere : assigned? name (c :: (front ++ rest)) = none := by
        rw [Option.eq_none_iff_forall_ne_some]
        intro v found
        apply unassigned (c :: front) v List.suffix_rfl (List.cons_ne_nil c front)
        apply assigned?_eq_some_iff.mp found
      rw [List.cons_append, lastAssigned?_cons (Ne.symm free.1), notHere, Option.or_none]
      apply ih free.2
      intro back v suffix
      apply unassigned back v (suffix.trans (List.suffix_cons c front))

/-! ### The first tag with an assignment -/

/-- The value of the last assignment in a tag, where one begins that has at least one character. -/
def tagged? (name cs : List Char) : Option (List Char) := do
  let rest ← afterStart? tagStart cs
  match rest with
  | d :: rest => if d = '>' then none else lastAssigned? name rest
  | [] => none

theorem tagged?_eq_some_iff :
  tagged? name cs = some value ↔ ∃ d rest, cs = tagStart ++ d :: rest ∧ d ≠ '>'
    ∧ lastAssigned? name rest = some value
  := by
  rw [tagged?, Option.bind_eq_bind, Option.bind_eq_some_iff]
  simp only [afterStart?_eq_some]
  constructor
  · rintro ⟨rest, rfl, found⟩
    split at found
    · next d rest =>
        split at found
        · cases found
        · next other => exact ⟨d, rest, rfl, other, found⟩
    · cases found
  · rintro ⟨d, rest, rfl, other, found⟩
    use d :: rest, rfl
    simp only [if_neg other, found]

theorem identifier?_cons (c : Char) (cs : List Char) :
  identifier? name (c :: cs) = (tagged? name (c :: cs)).or (identifier? name cs)
  := by
  rw [identifier?, toList_tagStart]
  rfl

theorem tagged?_nil :
  tagged? name [] = none
  := by
  rfl

/-- A directive is identified by the first tag with an assignment. -/
theorem identifier?_eq_some_iff :
  identifier? name cs = some value ↔ ∃ before text, cs = before ++ text
    ∧ tagged? name text = some value
    ∧ ∀ back, back <:+ before → back ≠ [] → tagged? name (back ++ text) = none
  := by
  induction cs with
  | nil =>
      constructor
      · intro found
        cases found
      · rintro ⟨before, text, parts, found, -⟩
        rw [(List.append_eq_nil_iff.mp parts.symm).2, tagged?_nil] at found
        cases found
  | cons c cs ih =>
      rw [identifier?_cons, Option.or_eq_some_iff, ih]
      constructor
      · rintro (found | ⟨untagged, before, text, rfl, found, earlier⟩)
        · refine ⟨[], c :: cs, rfl, found, ?_⟩
          intro back suffix nonempty
          cases nonempty (List.suffix_nil.mp suffix)
        · refine ⟨c :: before, text, rfl, found, ?_⟩
          intro back suffix nonempty
          rcases List.suffix_cons_iff.mp suffix with rfl | suffix
          · apply untagged
          · apply earlier back suffix nonempty
      · rintro ⟨before, text, parts, found, earlier⟩
        rcases before with _ | ⟨d, before⟩
        · left
          rw [List.nil_append] at parts
          rw [parts, found]
        · obtain ⟨rfl, rfl⟩ := List.cons.inj parts
          right
          use earlier _ List.suffix_rfl (List.cons_ne_nil c before)
          refine ⟨before, text, rfl, found, ?_⟩
          intro back suffix nonempty
          apply earlier back (suffix.trans (List.suffix_cons c before)) nonempty

/-- A tag identifies a directive if those before it have no other assignment. -/
theorem identifier?_append {before text : List Char} (here : tagged? name text = some value)
    (earlier : ∀ back v, back <:+ before → tagged? name (back ++ text) = some v → v = value) :
  identifier? name (before ++ text) = some value
  := by
  induction before with
  | nil =>
      apply identifier?_eq_some_iff.mpr
      refine ⟨[], text, rfl, here, ?_⟩
      intro back suffix nonempty
      cases nonempty (List.suffix_nil.mp suffix)
  | cons c before ih =>
      rw [List.cons_append, identifier?_cons]
      rcases found : tagged? name (c :: (before ++ text)) with _ | v
      · apply ih
        intro back v suffix
        apply earlier back v (suffix.trans (List.suffix_cons c before))
      · rw [earlier (c :: before) v List.suffix_rfl found]
        rfl

/-- A tag that has at least one character has an assignment. -/
theorem tagged?_ne_none_iff (isName : IsName name) :
  tagged? name cs ≠ none ↔ ∃ inner text v, cs = tagStart ++ (inner ++ text) ∧ inner ≠ []
    ∧ '>' ∉ inner ∧ Assigns name v text
  := by
  rw [Option.ne_none_iff_exists']
  constructor
  · rintro ⟨v, found⟩
    obtain ⟨d, rest, rfl, goesOn, last⟩ := tagged?_eq_some_iff.mp found
    obtain ⟨front, c, rest, rfl, free, assigns, -⟩ := (lastAssigned?_eq_some_iff isName).mp last
    exact ⟨d :: front, c :: rest, v, rfl, List.cons_ne_nil d front,
      by simpa using ⟨Ne.symm goesOn, free⟩, assigns⟩
  · rintro ⟨inner, text, v, rfl, nonempty, free, assigns⟩
    obtain ⟨d, inner, rfl⟩ := List.exists_cons_of_ne_nil nonempty
    rw [List.mem_cons, not_or] at free
    rcases found : lastAssigned? name (inner ++ text) with _ | u
    · cases (lastAssigned?_eq_none_iff isName).mp found inner text rfl free.2 v assigns
    · use u
      apply tagged?_eq_some_iff.mpr ⟨d, inner ++ text, rfl, Ne.symm free.1, found⟩

/-- The value of the last assignment to a name in the first tag that has one. -/
def IsLooseValue (name content value : List Char) : Prop :=
  ∃ before inner text, content = before ++ (tagStart ++ (inner ++ text)) ∧ inner ≠ []
    ∧ '>' ∉ inner ∧ Assigns name value text
    ∧ (∀ between later v, text = between ++ later → between ≠ [] → '>' ∉ between →
      ¬ Assigns name v later)
    ∧ ∀ before' inner' text' v, content = before' ++ (tagStart ++ (inner' ++ text')) → inner' ≠ [] →
      '>' ∉ inner' → Assigns name v text' → before.length ≤ before'.length

theorem identifier?_iff_isLooseValue (isName : IsName name) :
  identifier? name cs = some value ↔ IsLooseValue name cs value
  := by
  rw [identifier?_eq_some_iff]
  constructor
  · rintro ⟨before, text, rfl, tagged, earlier⟩
    obtain ⟨d, rest, rfl, goesOn, last⟩ := tagged?_eq_some_iff.mp tagged
    obtain ⟨front, c, rest, rfl, free, assigns, unassigned⟩ :=
      (lastAssigned?_eq_some_iff isName).mp last
    refine ⟨before, d :: front, c :: rest, rfl, List.cons_ne_nil d front,
      by simpa using ⟨Ne.symm goesOn, free⟩, assigns, ?_, ?_⟩
    · intro between later v parts between_ne_nil free'
      obtain ⟨e, between, rfl⟩ := List.exists_cons_of_ne_nil between_ne_nil
      rw [List.mem_cons, not_or] at free'
      apply (lastAssigned?_eq_none_iff isName).mp unassigned between later
        (List.cons.inj parts).2 free'.2
    · intro before' inner' text' v parts nonempty free' assigns'
      rcases List.append_eq_append_iff.mp parts with ⟨between, rfl, -⟩ | ⟨between, rfl, after⟩
      · rw [List.length_append]
        omega
      · by_contra shorter
        apply (tagged?_ne_none_iff isName).mpr ⟨inner', text', v, rfl, nonempty, free', assigns'⟩
        rw [after]
        apply earlier between (List.suffix_append before' between)
        rintro rfl
        simp at shorter
  · rintro ⟨before, inner, text, rfl, nonempty, free, assigns, last, first⟩
    obtain ⟨d, inner, rfl⟩ := List.exists_cons_of_ne_nil nonempty
    obtain ⟨c, rest, rfl, letter⟩ := assigns.exists_eq_cons isName
    rw [List.mem_cons, not_or] at free
    refine ⟨before, _, rfl, ?_, ?_⟩
    · apply tagged?_eq_some_iff.mpr ⟨d, inner ++ c :: rest, rfl, Ne.symm free.1, _⟩
      apply (lastAssigned?_eq_some_iff isName).mpr ⟨inner, c, rest, rfl, free.2, assigns, _⟩
      apply (lastAssigned?_eq_none_iff isName).mpr
      rintro between later rfl free' v
      apply last (c :: between) later v rfl (List.cons_ne_nil c between)
      rw [List.mem_cons, not_or]
      refine ⟨?_, free'⟩
      rintro rfl
      cases letter
    · rintro back ⟨before', rfl⟩ back_ne_nil
      by_contra found
      obtain ⟨inner', text', v, parts, nonempty', free', assigns'⟩ :=
        (tagged?_ne_none_iff isName).mp found
      have shorter := first before' inner' text' v (by rw [← parts, List.append_assoc]) nonempty'
        free' assigns'
      rw [List.length_append] at shorter
      apply back_ne_nil
      apply List.length_eq_zero_iff.mp
      omega

/-! ### Assignments in a value -/

/-- A text has one assignment at most in front. -/
theorem Assigns.unique {other : List Char} (assigns : Assigns name value cs)
    (assigns' : Assigns name other cs) :
  value = other
  := by
  rw [← assigned?_eq_some_iff] at assigns assigns'
  rw [assigns] at assigns'
  apply Option.some.inj assigns'

/-- Behind a text without quotes, an assignment that begins in it has its first quote. -/
theorem Assigns.eq_of_quote {q : Char} (isName : IsName name)
    (assigns : Assigns name value (front ++ q :: rest)) (isQuote : IsQuote q)
    (free : ∀ c ∈ front, ¬ IsQuote c) :
  front = name ++ ['=']
  := by
  obtain ⟨q', q'', more, parts, isQuote', -⟩ := assigns
  rw [List.append_cons name] at parts
  apply (eq_of_first parts free _ isQuote isQuote').1
  intro c among quote
  rcases List.mem_append.mp among with among | among
  · apply isName.not_mem quote.not_isNameChar among
  · apply quote.ne (by decide) (List.mem_singleton.mp among)

/-- An assignment that begins before the end of a tag, in front of a header, ends with the quote of
the header at the latest. -/
theorem Assigns.of_header {h : Header} (isName : IsName name)
    (assigns : Assigns name value (front ++ (h.text ++ rest))) (ends : '>' ∈ front) :
  Assigns name value (front ++ h.text)
  := by
  obtain ⟨q, q', more, parts, isQuote, isQuote', nonempty, free⟩ := assigns
  have outside : '>' ∉ name ++ ['=', q] := by
    simp only [List.mem_append, List.mem_cons, List.not_mem_nil, or_false, not_or]
    use isName.not_mem (by decide), by decide, (isQuote.ne (by decide)).symm
  have parts' : front ++ (h.text ++ rest) = (name ++ ['=', q] ++ value) ++ q' :: more := by
    rw [parts]
    simp
  rcases exists_of_append_eq parts' with ⟨between, whole, after⟩ | ⟨between, rfl, rfl⟩
  · rcases List.append_eq_append_iff.mp whole with ⟨value', rfl, rfl⟩ | ⟨more', start, -⟩
    · have unquoted : ∀ c ∈ between, ¬ IsQuote c := by
        intro c among
        apply free c (List.mem_append_right _ among)
      rw [Header.text, List.append_assoc] at after
      obtain ⟨rfl, rfl, -⟩ := eq_of_first after (fun _ => h.not_isQuote) unquoted h.isQuote isQuote'
      refine ⟨q, h.quote, [], ?_, isQuote, isQuote', nonempty, free⟩
      simp [Header.text]
    · cases outside (by rw [start]; apply List.mem_append_left _ ends)
  · refine ⟨q, q', between ++ h.text, ?_, isQuote, isQuote', nonempty, free⟩
    simp

theorem Assigns.append (assigns : Assigns name value cs) (more : List Char) :
  Assigns name value (cs ++ more)
  := by
  obtain ⟨q, q', rest, rfl, isQuote, isQuote', nonempty, free⟩ := assigns
  refine ⟨q, q', rest ++ more, ?_, isQuote, isQuote', nonempty, free⟩
  simp

/-- What identifies a directive has no quotes. -/
theorem not_isQuote_of_identifier? (isName : IsName name)
    (found : identifier? name cs = some value) :
  ∀ c ∈ value, ¬ IsQuote c
  := by
  obtain ⟨_, _, _, -, -, -, ⟨_, _, _, -, -, -, -, free⟩, -⟩ :=
    (identifier?_iff_isLooseValue isName).mp found
  apply free

end

end Toolshed.Directive
