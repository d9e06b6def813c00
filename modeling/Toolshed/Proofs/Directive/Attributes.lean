import Toolshed.Directive
import Toolshed.Proofs.Text.Blanks

/-!
# Attributes of a directive

An attribute is a name, an equals sign and a value in quotes.  The attributes of a tag are read from
the front, and a character at which none begins is passed over.  What stands between the quotes of
one that is read may change: the others before it, and it, are read as before.
-/

namespace Toolshed.Directive

open Text

/-! ### Names and quotes -/

/-- The quotes of a value. -/
def IsQuote (c : Char) : Prop :=
  c = '"' ∨ c = '\''

namespace IsQuote

variable {c d : Char}

theorem ne (isQuote : IsQuote c) (other : d ≠ '"' ∧ d ≠ '\'') :
  c ≠ d
  := by
  rintro rfl
  rcases isQuote with same | same
  · apply other.1 same
  · apply other.2 same

theorem not_isBlank (isQuote : IsQuote c) :
  isBlank c = false
  := by
  rcases isQuote with rfl | rfl <;> rfl

theorem not_isNameChar (isQuote : IsQuote c) :
  (isWordChar c || c = '-') = false
  := by
  rcases isQuote with rfl | rfl <;> decide

end IsQuote

/-- The name of an attribute. -/
def IsName (name : List Char) : Prop :=
  ∃ c run, name = c :: run ∧ (c.isAlpha || c = '_') = true
    ∧ ∀ d ∈ run, (isWordChar d || d = '-') = true

/-- Two tables without a common code point. -/
def ClassesApart (table other : ClassTable) : Prop :=
  ∀ r ∈ table, ∀ s ∈ other, r.2 < s.1 ∨ s.2 < r.1

instance (table other : ClassTable) : Decidable (ClassesApart table other) :=
  inferInstanceAs (Decidable (∀ _ ∈ _, _))

theorem ClassesApart.holds {table other : ClassTable} (apart : ClassesApart table other) {c : Char}
    (h : table.holds c = true) :
  other.holds c = false
  := by
  rw [Bool.eq_false_iff]
  intro h'
  obtain ⟨r, among, inside⟩ := List.any_eq_true.mp h
  obtain ⟨s, among', inside'⟩ := List.any_eq_true.mp h'
  simp only [Bool.and_eq_true, decide_eq_true_eq] at inside inside'
  rcases apart r among s among' with before | before
  · omega
  · omega

/-- Blanks are no characters of a name. -/
theorem isNameChar_of_isBlank {c : Char} (blank : isBlank c = true) :
  (isWordChar c || c = '-') = false
  := by
  by_cases ascii : c.toNat < 128
  · have all : ∀ n < 128, isBlank (Char.ofNat n) = true →
        (isWordChar (Char.ofNat n) || Char.ofNat n = '-') = false := by
      decide +kernel
    rw [← Char.ofNat_toNat c] at blank ⊢
    apply all c.toNat ascii blank
  · have apart : ClassesApart blankTable wordTable := by
      decide +kernel
    have other : c ≠ '-' := by
      rintro rfl
      apply ascii
      decide
    rw [isWordChar, if_neg ascii, apart.holds blank]
    simpa using other

namespace IsName

variable {name : List Char} {c : Char}

theorem isWordChar_of_start (first : (c.isAlpha || c = '_') = true) :
  isWordChar c = true
  := by
  have ascii : c.toNat < 128 := by
    rcases Bool.or_eq_true_iff.mp first with letter | underscore
    · rcases Bool.or_eq_true_iff.mp letter with upper | lower
      · have bounds : 'A' ≤ c ∧ c ≤ 'Z' := of_decide_eq_true upper
        apply Nat.lt_of_le_of_lt bounds.2 (by decide)
      · have bounds : (decide ('a' ≤ c) && decide (c ≤ 'z')) = true := lower
        rw [← Bool.decide_and] at bounds
        apply Nat.lt_of_le_of_lt (of_decide_eq_true bounds).2 (by decide)
    · rw [of_decide_eq_true underscore]
      decide
  rw [isWordChar, if_pos ascii, Char.isAlphanum]
  rw [Bool.or_eq_true, decide_eq_true_eq] at first
  rcases first with first | rfl
  · rw [first]
    rfl
  · decide

theorem isNameChar (isName : IsName name) (among : c ∈ name) :
  (isWordChar c || c = '-') = true
  := by
  obtain ⟨d, run, rfl, first, others⟩ := isName
  rcases List.mem_cons.mp among with rfl | among
  · rw [isWordChar_of_start first]
    rfl
  · apply others c among

theorem not_mem (isName : IsName name) (other : (isWordChar c || c = '-') = false) :
  c ∉ name
  := by
  intro among
  rw [isName.isNameChar among] at other
  cases other

end IsName

/-- What stands before the value of an attribute: its name, an equals sign with blanks on both
sides, and a quote. -/
structure Header where
  name : List Char
  gap : List Char
  gap' : List Char
  quote : Char
  isName : IsName name
  isBlank : ∀ c ∈ gap ++ gap', isBlank c = true
  isQuote : IsQuote quote

namespace Header

/-- The text before the quote. -/
def bare (h : Header) : List Char :=
  h.name ++ (h.gap ++ '=' :: h.gap')

def text (h : Header) : List Char :=
  h.bare ++ [h.quote]

theorem not_isQuote (h : Header) {c : Char} (among : c ∈ h.bare) :
  ¬ IsQuote c
  := by
  simp only [bare, List.mem_append, List.mem_cons] at among
  intro quote
  have visible := quote.not_isBlank
  rcases among with among | among | rfl | among
  · apply h.isName.not_mem quote.not_isNameChar among
  · rw [h.isBlank c (List.mem_append_left _ among)] at visible
    cases visible
  · apply quote.ne (by decide) rfl
  · rw [h.isBlank c (List.mem_append_right _ among)] at visible
    cases visible

end Header

theorem quotedValue?_eq_some_iff {cs value rest : List Char} :
  quotedValue? cs = some (value, rest) ↔ ∃ q, IsQuote q ∧ cs = q :: (value ++ q :: rest) ∧ q ∉ value
  := by
  constructor
  · intro found
    unfold quotedValue? at found
    split at found
    · obtain ⟨rfl, free⟩ := cutAt?_eq_some.mp found
      use '"', .inl rfl
    · obtain ⟨rfl, free⟩ := cutAt?_eq_some.mp found
      use '\'', .inr rfl
    · cases found
  · rintro ⟨q, rfl | rfl, rfl, free⟩
    · apply cutAt?_eq_some.mpr ⟨rfl, free⟩
    · apply cutAt?_eq_some.mpr ⟨rfl, free⟩

theorem attribute?_eq_some_iff {cs name value rest : List Char} :
  attribute? cs = some ((name, value), rest) ↔ ∃ h : Header, h.name = name
    ∧ cs = h.text ++ (value ++ h.quote :: rest) ∧ h.quote ∉ value
  := by
  constructor
  · intro found
    unfold attribute? at found
    split at found
    · cases found
    · next c cs =>
        split at found
        · next first =>
            simp only at found
            split at found
            · next rest' after =>
                obtain ⟨⟨value', rest''⟩, quoted, same⟩ := Option.map_eq_some_iff.mp found
                cases same
                obtain ⟨q, isQuote, after', free⟩ := quotedValue?_eq_some_iff.mp quoted
                refine ⟨⟨_, (cs.dropWhile fun d => isWordChar d || d = '-').takeWhile isBlank,
                  rest'.takeWhile isBlank, q, ⟨c, _, rfl, first, ?_⟩, ?_, isQuote⟩, rfl, ?_, free⟩
                · intro d among
                  apply List.mem_takeWhile_imp among
                · rw [List.forall_mem_append]
                  exact ⟨fun _ => List.mem_takeWhile_imp, fun _ => List.mem_takeWhile_imp⟩
                · have parts := List.takeWhile_append_dropWhile
                    (p := fun d => isWordChar d || d = '-') (l := cs)
                  have gap := List.takeWhile_append_dropWhile (p := isBlank)
                    (l := cs.dropWhile fun d => isWordChar d || d = '-')
                  have gap' := List.takeWhile_append_dropWhile (p := isBlank) (l := rest')
                  rw [trimLeft] at after after'
                  rw [after] at gap
                  rw [after'] at gap'
                  simp only [Header.text, Header.bare, List.append_assoc, List.cons_append,
                    List.nil_append, gap', gap, parts]
            · cases found
        · cases found
  · rintro ⟨h, rfl, rfl, free⟩
    obtain ⟨c, run, name, first, others⟩ := h.isName
    obtain ⟨blank, blank'⟩ := List.forall_mem_append.mp h.isBlank
    have quoted : Stops isBlank (h.quote :: (value ++ h.quote :: rest)) := by
      apply stops_cons h.isQuote.not_isBlank
    have named : Stops (fun d => isWordChar d || d = '-')
        (h.gap ++ '=' :: (h.gap' ++ h.quote :: (value ++ h.quote :: rest))) := by
      rcases gap : h.gap with _ | ⟨d, gap⟩
      · apply stops_cons (by decide)
      · apply stops_cons
        apply isNameChar_of_isBlank
        apply blank d (by rw [gap]; apply List.mem_cons_self)
    have whole : h.text ++ (value ++ h.quote :: rest)
        = c :: (run ++ (h.gap ++ '=' :: (h.gap' ++ h.quote :: (value ++ h.quote :: rest)))) := by
      simp [Header.text, Header.bare, name]
    rw [whole, attribute?, if_pos first]
    simp only [takeWhile_append_stops others named, dropWhile_append_stops others named]
    rw [trimLeft, dropWhile_append_stops blank (stops_cons (by decide))]
    simp only [trimLeft, dropWhile_append_stops blank' quoted]
    rw [quotedValue?_eq_some_iff.mpr ⟨h.quote, h.isQuote, rfl, free⟩, name]
    rfl

/-- An attribute begins where a header stands whose quote comes again. -/
theorem attribute?_ne_none_iff {cs : List Char} :
  attribute? cs ≠ none ↔ ∃ h : Header, ∃ rest, cs = h.text ++ rest ∧ h.quote ∈ rest
  := by
  rw [Option.ne_none_iff_exists']
  constructor
  · rintro ⟨⟨⟨name, value⟩, rest⟩, found⟩
    obtain ⟨h, -, rfl, -⟩ := attribute?_eq_some_iff.mp found
    refine ⟨h, _, rfl, by simp⟩
  · rintro ⟨h, rest, rfl, among⟩
    obtain ⟨value, rest', rfl, free⟩ := List.eq_append_cons_of_mem among
    use ((h.name, value), rest')
    apply attribute?_eq_some_iff.mpr ⟨h, rfl, rfl, free⟩

/-! ### Reading a tag -/

/-- What is read in the text before another one, which is left. -/
inductive Reads : List Char → List (List Char × List Char) → List Char → Prop where
  | done (rest : List Char) : Reads rest [] rest
  | pass {c : Char} {cs rest : List Char} {found : List (List Char × List Char)}
      (missing : attribute? (c :: cs) = none) (later : Reads cs found rest) :
      Reads (c :: cs) found rest
  | read {cs more rest : List Char} {a : List Char × List Char}
      {found : List (List Char × List Char)}
      (starts : attribute? cs = some (a, more)) (later : Reads more found rest) :
      Reads cs (a :: found) rest

section

variable {cs more rest : List Char} {a : List Char × List Char}
  {found : List (List Char × List Char)}

theorem suffix_of_attribute? (starts : attribute? cs = some (a, more)) :
  more <:+ cs ∧ more.length < cs.length
  := by
  obtain ⟨h, -, rfl, -⟩ := attribute?_eq_some_iff.mp starts
  constructor
  · use h.text ++ (a.2 ++ [h.quote])
    simp
  · simp only [List.length_append, List.length_cons]
    omega

theorem Reads.suffix (reads : Reads cs found rest) :
  rest <:+ cs
  := by
  induction reads with
  | done => apply List.suffix_rfl
  | pass missing later ih => apply ih.trans (List.suffix_cons _ _)
  | read starts later ih => apply ih.trans (suffix_of_attribute? starts).1

/-- Fuel for the length of a text is enough. -/
theorem attributes_eq_of_le {fuel fuel' : Nat} (enough : cs.length ≤ fuel)
    (enough' : cs.length ≤ fuel') :
  attributes fuel cs = attributes fuel' cs
  := by
  induction fuel generalizing cs fuel' with
  | zero =>
      rw [List.length_eq_zero_iff.mp (Nat.le_zero.mp enough)]
      cases fuel' <;> rfl
  | succ fuel ih =>
      rcases cs with _ | ⟨c, cs⟩
      · cases fuel' <;> rfl
      · obtain ⟨fuel', rfl⟩ := Nat.exists_eq_add_one_of_ne_zero (Nat.ne_zero_of_lt enough')
        rw [attributes, attributes]
        split
        · next rest starts =>
            have shorter := (suffix_of_attribute? starts).2
            rw [ih (Nat.le_of_lt_succ (Nat.lt_of_lt_of_le shorter enough))
              (Nat.le_of_lt_succ (Nat.lt_of_lt_of_le shorter enough'))]
        · apply ih (Nat.le_of_succ_le_succ enough) (Nat.le_of_succ_le_succ enough')

/-- The attributes of a text, one after the other. -/
def attributesIn (cs : List Char) : List (List Char × List Char) :=
  attributes cs.length cs

theorem attributesIn_of_none {c : Char} (missing : attribute? (c :: cs) = none) :
  attributesIn (c :: cs) = attributesIn cs
  := by
  rw [attributesIn, List.length_cons, attributes, missing]
  rfl

theorem attributesIn_of_some (starts : attribute? cs = some (a, more)) :
  attributesIn cs = a :: attributesIn more
  := by
  have shorter := (suffix_of_attribute? starts).2
  rcases cs with _ | ⟨c, cs⟩
  · cases shorter
  · rw [attributesIn, List.length_cons, attributes, starts]
    simp only [attributesIn, List.cons.injEq, true_and]
    apply attributes_eq_of_le (Nat.le_of_lt_succ shorter) (Nat.le_refl _)

theorem Reads.attributesIn_eq (reads : Reads cs found rest) :
  attributesIn cs = found ++ attributesIn rest
  := by
  induction reads with
  | done => rfl
  | pass missing later ih => rw [attributesIn_of_none missing, ih]
  | read starts later ih => rw [attributesIn_of_some starts, ih, List.cons_append]

/-- A text is read up to its end. -/
theorem reads_attributesIn (cs : List Char) :
  Reads cs (attributesIn cs) []
  := by
  suffices ∀ fuel, cs.length ≤ fuel → Reads cs (attributes fuel cs) [] by
    apply this cs.length (Nat.le_refl _)
  intro fuel enough
  induction fuel generalizing cs with
  | zero =>
      rw [List.length_eq_zero_iff.mp (Nat.le_zero.mp enough)]
      apply Reads.done
  | succ fuel ih =>
      rcases cs with _ | ⟨c, cs⟩
      · apply Reads.done
      · rw [attributes]
        split
        · next starts =>
            apply Reads.read starts
            apply ih
            apply Nat.le_of_lt_succ (Nat.lt_of_lt_of_le (suffix_of_attribute? starts).2 enough)
        · next missing =>
            apply Reads.pass missing
            apply ih _ (Nat.le_of_succ_le_succ enough)

/-- Whatever is found in a text is read at a place in it. -/
theorem Reads.exists_of_append {all front back : List (List Char × List Char)}
    (reads : Reads cs all rest) (whole : all = front ++ a :: back) :
  ∃ here more, Reads cs front here ∧ attribute? here = some (a, more) ∧ Reads more back rest
  := by
  induction reads generalizing front with
  | done => cases (List.append_eq_nil_iff.mp whole.symm).2
  | pass missing later ih =>
      obtain ⟨here, more, reads, starts, others⟩ := ih whole
      exact ⟨here, more, reads.pass missing, starts, others⟩
  | read starts later ih =>
      rcases front with _ | ⟨b, front⟩
      · cases whole
        exact ⟨_, _, .done _, starts, later⟩
      · obtain ⟨rfl, whole'⟩ := List.cons.inj whole
        obtain ⟨here, more, reads, starts', others⟩ := ih whole'
        exact ⟨here, more, reads.read starts, starts', others⟩

end

/-! ### Another value -/

section

variable {h : Header} {v w front back : List Char}

/-- Where an attribute begins in front of one whose value has no quotes, it begins with any value
there. -/
theorem attribute?_ne_none_of_value (plain : ∀ c ∈ w, ¬ IsQuote c)
    (begins : attribute? (front ++ (h.text ++ (w ++ h.quote :: back))) ≠ none) (v : List Char) :
  attribute? (front ++ (h.text ++ (v ++ h.quote :: back))) ≠ none
  := by
  obtain ⟨h', rest, same, among⟩ := attribute?_ne_none_iff.mp begins
  apply attribute?_ne_none_iff.mpr
  simp only [Header.text, List.append_assoc, List.cons_append, List.nil_append] at same ⊢
  rcases exists_of_append_eq same with ⟨between, bare, after⟩ | ⟨between, rfl, rfl⟩
  · -- the other header goes on into this one, so both end with the same quote
    obtain ⟨rfl, quote, rfl⟩ := eq_of_first after (fun _ => h.not_isQuote)
      (fun c among => h'.not_isQuote (by rw [bare]; apply List.mem_append_right _ among))
      h.isQuote h'.isQuote
    refine ⟨h', v ++ h.quote :: back, ?_, by simp [quote]⟩
    rw [bare, quote, List.append_assoc]
  · refine ⟨h', between ++ (h.bare ++ h.quote :: (v ++ h.quote :: back)), by simp, ?_⟩
    have passed : h'.quote ∉ w := fun among => plain _ among h'.isQuote
    simp only [List.mem_append, List.mem_cons] at among ⊢
    tauto

/-- The attributes in front of one are read alike with another value that has no quotes. -/
theorem Reads.of_value {found : List (List Char × List Char)}
    (reads : Reads (front ++ (h.text ++ (v ++ h.quote :: back))) found
      (h.text ++ (v ++ h.quote :: back))) (plain : ∀ c ∈ w, ¬ IsQuote c) :
  Reads (front ++ (h.text ++ (w ++ h.quote :: back))) found (h.text ++ (w ++ h.quote :: back))
  := by
  generalize whole : front ++ (h.text ++ (v ++ h.quote :: back)) = cs at reads
  generalize tail : h.text ++ (v ++ h.quote :: back) = rest at reads
  induction reads generalizing front with
  | done rest =>
      have empty : front = [] := by
        rw [← tail] at whole
        apply List.append_left_eq_self.mp whole
      rw [empty]
      apply Reads.done
  | @pass c cs rest found missing later ih =>
      rcases front with _ | ⟨d, front⟩
      · have longer := later.suffix.length_le
        rw [List.nil_append, tail] at whole
        rw [whole, List.length_cons] at longer
        omega
      · obtain ⟨rfl, whole'⟩ := List.cons.inj whole
        apply Reads.pass _ (ih whole' tail)
        rw [← whole] at missing
        by_contra starts
        apply attribute?_ne_none_of_value plain starts v missing
  | @read cs more rest a found starts later ih =>
      obtain ⟨between, rfl⟩ := later.suffix
      obtain ⟨h', name, rfl, free⟩ := attribute?_eq_some_iff.mp starts
      have same : front ++ rest = h'.text ++ (a.2 ++ h'.quote :: between) ++ rest := by
        rw [← tail, whole, tail]
        simp
      have front' := List.append_cancel_right same
      rw [front']
      apply Reads.read _ (ih (by rw [tail]) tail)
      apply attribute?_eq_some_iff.mpr
      refine ⟨h', name, ?_, free⟩
      simp

end

end Toolshed.Directive
