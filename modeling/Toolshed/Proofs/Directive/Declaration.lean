import Toolshed.Proofs.Assoc
import Toolshed.Proofs.Directive.Attributes

/-!
# What a directive declares

A directive declares the attributes of its first tag whose name does not go on, and the last one of
each name counts.  So what it declares by a name stands at a place in the tag, and any other value
there, if it is plain, would be declared in its stead.
-/

namespace Toolshed.Directive

open Text

/-! ### The tag -/

/-- The name of the element. -/
def tagName : List Char :=
  ['d', 'i', 'r', 'e', 'c', 't', 'i', 'v', 'e']

/-- The beginning of the tag of a directive. -/
def tagStart : List Char :=
  '<' :: tagName

theorem toList_tagStart :
  "<directive".toList = tagStart
  := by
  decide

/-- A tag begins within the text that comes before another one, or with it. -/
theorem exists_of_tagStart {rest before later : List Char}
    (same : tagStart ++ rest = before ++ (tagStart ++ later)) :
  (before = [] ∧ rest = later)
    ∨ ∃ between, before = tagStart ++ between ∧ rest = between ++ (tagStart ++ later)
  := by
  rcases exists_of_append_eq same with ⟨between, whole, after⟩ | ⟨between, start, after⟩
  · right
    use between, whole, after
  · left
    rcases before with _ | ⟨c, before⟩
    · rw [← (List.cons.inj start).2] at after
      use rfl
      apply (List.append_cancel_left after).symm
    · have among : '<' ∈ tagName := by
        rw [(List.cons.inj start).2]
        simp
      exact absurd among (by decide)

theorem any_head?_append {p : Char → Bool} {c : Char} (fails : p c = false)
    (front rest : List Char) :
  (front ++ c :: rest).head?.any p = front.head?.any p
  := by
  rcases front with _ | ⟨d, front⟩
  · apply fails
  · rfl

/-- The text of a tag whose name does not go on, when that of all tags before it does. -/
def IsTag (cs tag : List Char) : Prop :=
  ∃ before after, cs = before ++ (tagStart ++ (tag ++ '>' :: after)) ∧ '>' ∉ tag
    ∧ tag.head?.any isWordChar = false
    ∧ ∀ front rest, before = front ++ (tagStart ++ rest) → rest.head?.any isWordChar = true

section

variable {cs rest tag : List Char}

theorem isTag_cons_iff {c : Char} (notHere : ∀ rest, c :: cs ≠ tagStart ++ rest) :
  IsTag (c :: cs) tag ↔ IsTag cs tag
  := by
  constructor
  · rintro ⟨before, after, whole, free, ends, earlier⟩
    rcases before with _ | ⟨d, before⟩
    · cases notHere _ whole
    · obtain ⟨rfl, rfl⟩ := List.cons.inj whole
      refine ⟨before, after, rfl, free, ends, ?_⟩
      intro front rest parts
      apply earlier (c :: front) rest
      rw [parts]
      rfl
  · rintro ⟨before, after, rfl, free, ends, earlier⟩
    refine ⟨c :: before, after, rfl, free, ends, ?_⟩
    intro front rest parts
    rcases front with _ | ⟨d, front⟩
    · cases notHere (rest ++ (tagStart ++ (tag ++ '>' :: after)))
        (by rw [← List.cons_append, parts, List.nil_append, List.append_assoc])
    · apply earlier front rest (List.cons.inj parts).2

theorem isTag_iff_of_word (word : rest.head?.any isWordChar = true) :
  IsTag (tagStart ++ rest) tag ↔ IsTag (tagName ++ rest) tag
  := by
  constructor
  · rintro ⟨before, after, whole, free, ends, earlier⟩
    rcases exists_of_tagStart whole with ⟨-, rfl⟩ | ⟨between, rfl, rfl⟩
    · rw [any_head?_append (by decide), ends] at word
      cases word
    · refine ⟨tagName ++ between, after, by simp, free, ends, ?_⟩
      intro front rest' parts
      apply earlier ('<' :: front) rest'
      rw [List.cons_append, ← parts]
      rfl
  · rintro ⟨before, after, whole, free, ends, earlier⟩
    have whole' : tagStart ++ rest = '<' :: before ++ (tagStart ++ (tag ++ '>' :: after)) := by
      rw [List.cons_append, ← whole]
      rfl
    refine ⟨'<' :: before, after, whole', free, ends, ?_⟩
    intro front rest' parts
    rcases front with _ | ⟨d, front⟩
    · rw [parts, List.nil_append, List.append_assoc] at whole'
      rw [List.append_cancel_left whole', tagStart, List.cons_append, any_head?_append (by decide)]
        at word
      apply word
    · apply earlier front rest' (List.cons.inj parts).2

theorem isTag_iff_of_not_word (other : rest.head?.any isWordChar = false) :
  IsTag (tagStart ++ rest) tag ↔ ∃ after, rest = tag ++ '>' :: after ∧ '>' ∉ tag
  := by
  constructor
  · rintro ⟨before, after, whole, free, -, earlier⟩
    rcases exists_of_tagStart whole with ⟨-, rfl⟩ | ⟨between, rfl, rfl⟩
    · use after
    · have word := earlier [] between rfl
      rw [tagStart, List.cons_append, any_head?_append (by decide), word] at other
      cases other
  · rintro ⟨after, rfl, free⟩
    rw [any_head?_append (by decide)] at other
    refine ⟨[], after, rfl, free, other, ?_⟩
    intro front rest parts
    simp [tagStart] at parts

/-- The tag of a directive is the first one whose name does not go on. -/
theorem tagText?_eq_some_iff :
  tagText? cs = some tag ↔ IsTag cs tag
  := by
  induction cs with
  | nil => simp [tagText?, IsTag, tagStart]
  | cons c cs ih =>
      rw [tagText?, toList_tagStart]
      split
      · next rest starts =>
          rw [afterStart?_eq_some] at starts
          have inner : cs = tagName ++ rest := (List.cons.inj starts).2
          split
          · next word => rw [ih, starts, isTag_iff_of_word word, inner]
          · next other =>
              rw [Bool.not_eq_true] at other
              rw [starts, isTag_iff_of_not_word other]
              simp only [Option.map_eq_some_iff, Prod.exists, cutAt?_eq_some]
              simp
      · next others =>
          rw [ih, isTag_cons_iff]
          intro rest starts
          rw [afterStart?_eq_some.mpr starts] at others
          cases others

end

/-! ### Places of attributes -/

/-- A place at which the tag of a directive assigns a value to a name, with all that stands around
the value. -/
structure Site where
  before : List Char
  inner : List Char
  header : Header
  back : List Char
  after : List Char
  goesOn : inner ≠ []
  free : '>' ∉ inner

namespace Site

/-- The text of the tag with a value. -/
def tag (s : Site) (value : List Char) : List Char :=
  s.inner ++ (s.header.text ++ (value ++ s.header.quote :: s.back))

/-- The text with a value. -/
def text (s : Site) (value : List Char) : List Char :=
  s.before ++ (tagStart ++ (s.tag value ++ '>' :: s.after))

end Site

/-- The field that an attribute declares. -/
def fieldOf (assigned : List Char × List Char) : String × Json.Value :=
  textField assigned.1 assigned.2

theorem fields_eq (cs : List Char) :
  fields cs = Assoc.ofEntries ((attributesIn ((tagText? cs).getD [])).map fieldOf
    ++ ["description", "category"].filterMap fun child =>
      (child? child cs).map (textField child.toList))
  := rfl

theorem mem_keys_fieldOf {name : String} {attributes : List (List Char × List Char)} :
  name ∈ (attributes.map fieldOf).map Prod.fst ↔ name.toList ∈ attributes.map Prod.fst
  := by
  simp only [List.map_map, List.mem_map, Function.comp_apply, fieldOf, textField]
  constructor
  · rintro ⟨a, among, rfl⟩
    use a, among
    rw [String.toList_ofList]
  · rintro ⟨a, among, same⟩
    use a, among
    rw [same, String.ofList_toList]

/-- What a directive declares by a name is the value of the last attribute of that name. -/
theorem get?_fields_eq_some_iff {cs : List Char} {name : String} {v : Json.Value}
    (other : name ∉ ["description", "category"]) :
  Assoc.get? name (fields cs) = some v ↔ ∃ front value back,
    attributesIn ((tagText? cs).getD []) = front ++ (name.toList, value) :: back
    ∧ name.toList ∉ back.map Prod.fst ∧ v = .string (String.ofList value)
  := by
  have children : Assoc.last? name (["description", "category"].filterMap fun child =>
      (child? child cs).map (textField child.toList)) = none := by
    apply Assoc.last?_eq_none
    intro among
    obtain ⟨field, inChildren, rfl⟩ := List.mem_map.mp among
    obtain ⟨child, isChild, found⟩ := List.mem_filterMap.mp inChildren
    obtain ⟨content, -, rfl⟩ := Option.map_eq_some_iff.mp found
    apply other
    simpa [textField] using isChild
  rw [fields_eq, Assoc.get?_ofEntries, Assoc.last?_append, children, Option.none_or,
    Assoc.last?_eq_some_iff]
  constructor
  · rintro ⟨front, back, whole, missing⟩
    obtain ⟨front', rest, whole', rfl, later⟩ := List.map_eq_append_iff.mp whole
    obtain ⟨⟨name', value⟩, back', rfl, here, rfl⟩ := List.map_eq_cons_iff.mp later
    rw [mem_keys_fieldOf] at missing
    cases here
    refine ⟨front', value, back', ?_, missing, rfl⟩
    rw [whole', String.toList_ofList]
  · rintro ⟨front, value, back, whole, missing, rfl⟩
    refine ⟨front.map fieldOf, back.map fieldOf, ?_, ?_⟩
    · simp only [whole, List.map_append, List.map_cons, fieldOf, textField, String.ofList_toList]
    · rw [mem_keys_fieldOf]
      apply missing

/-- A value without any of the characters that end a name, a value or a tag. -/
def IsPlain (value : List Char) : Prop :=
  value ≠ [] ∧ ∀ c ∈ value, ¬ IsQuote c ∧ c ≠ '=' ∧ c ≠ '>'

/-- Any plain value at a place is the one that the directive declares. -/
def Site.IsRead (s : Site) (name : String) : Prop :=
  ∀ value, IsPlain value →
    Assoc.get? name (fields (s.text value)) = some (.string (String.ofList value))

/-- What a directive declares by a name it assigns at a place, and so it would any plain value
there. -/
theorem exists_site {content : List Char} {name : String} {v : Json.Value}
    (other : name ∉ ["description", "category"])
    (declared : Assoc.get? name (fields content) = some v) :
  ∃ (s : Site) (value : List Char), s.header.name = name.toList ∧ content = s.text value
    ∧ '>' ∉ value ∧ v = .string (String.ofList value) ∧ s.IsRead name
  := by
  obtain ⟨front, value, back, whole, missing, rfl⟩ := (get?_fields_eq_some_iff other).mp declared
  rcases tagged : tagText? content with _ | tag
  · rw [tagged] at whole
    cases (List.append_eq_nil_iff.mp whole.symm).2
  · rw [tagged, Option.getD_some] at whole
    obtain ⟨here, more, reads, begins, later⟩ := (reads_attributesIn tag).exists_of_append whole
    obtain ⟨h, named, rfl, -⟩ := attribute?_eq_some_iff.mp begins
    obtain ⟨inner, rfl⟩ := reads.suffix
    obtain ⟨before, after, rfl, free, ends, earlier⟩ := tagText?_eq_some_iff.mp tagged
    simp only [List.mem_append, List.mem_cons, not_or] at free
    have goesOn : inner ≠ [] := by
      rintro rfl
      obtain ⟨c, run, name', first, -⟩ := h.isName
      rw [Header.text, Header.bare, name'] at ends
      have word : isWordChar c = false := ends
      rw [IsName.isWordChar_of_start first] at word
      cases word
    refine ⟨⟨before, inner, h, more, after, goesOn, free.1⟩, value, named, rfl, free.2.2.1, rfl, ?_⟩
    intro w plain
    have unquoted : ∀ c ∈ w, ¬ IsQuote c := fun c among => (plain.2 c among).1
    apply (get?_fields_eq_some_iff other).mpr
    refine ⟨front, w, back, ?_, missing, rfl⟩
    have tagged' : tagText? (Site.text ⟨before, inner, h, more, after, goesOn, free.1⟩ w)
        = some (Site.tag ⟨before, inner, h, more, after, goesOn, free.1⟩ w) := by
      apply tagText?_eq_some_iff.mpr
      refine ⟨before, after, rfl, ?_, ?_, earlier⟩
      · simp only [Site.tag, List.mem_append, List.mem_cons, not_or]
        use free.1, free.2.1
        constructor
        · intro among
          apply (plain.2 _ among).2.2 rfl
        · apply free.2.2.2
      · rw [List.head?_append_of_ne_nil _ goesOn] at ends
        rw [Site.tag, List.head?_append_of_ne_nil _ goesOn]
        apply ends
    have begins' : attribute? (h.text ++ (w ++ h.quote :: more))
        = some ((name.toList, w), more) := by
      apply attribute?_eq_some_iff.mpr
      refine ⟨h, named, rfl, ?_⟩
      intro among
      apply unquoted _ among h.isQuote
    rw [tagged', Option.getD_some, Site.tag, (reads.of_value unquoted).attributesIn_eq,
      attributesIn_of_some begins', later.attributesIn_eq]
    simp [attributesIn, attributes]

end Toolshed.Directive
