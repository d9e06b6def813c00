import Toolshed.Proofs.Digest.Session
import Toolshed.Proofs.Text.Blanks
import Mathlib.Data.Bool.AllAny

/-!
# What an expected hash accepts

Of an expected hash there counts what is left without blanks at its ends, without the name of the
digest in front, and in lowercase.  It accepts the hashes that begin so.  If nothing is left, it
accepts every file that can be read; any other expected hash accepts no two hashes that differ in
their first digit.
-/

namespace Toolshed.Integrity

/-! ### Hashes -/

/-- The digits of hashes. -/
def hashDigits : List Char := "0123456789abcdef".toList

/-- A text is a whole hash. -/
structure IsHash (text : String) : Prop where
  length : text.toList.length = hashLength
  digits : ∀ c ∈ text.toList, c ∈ hashDigits

theorem hexDigit_mem_hashDigits (n : Nat) :
  Json.hexDigit n ∈ hashDigits
  := by
  have every : ∀ d < 16, Nat.digitChar d ∈ hashDigits := by
    decide
  apply every
  apply Nat.mod_lt
  decide

/-- The digest of a message is a whole hash. -/
theorem isHash_sha256 (message : ByteArray) :
  IsHash (Digest.sha256 message)
  := by
  rw [Digest.sha256]
  constructor
  · simp [Digest.wordText, hashLength]
  · intro c among
    rw [String.toList_ofList, List.mem_flatMap] at among
    obtain ⟨word, _, among⟩ := among
    obtain ⟨i, _, rfl⟩ := List.mem_map.mp among
    apply hexDigit_mem_hashDigits

theorem isHash_hashItem (kind : ItemKind) (path content : String) :
  IsHash (hashItem kind path content)
  := by
  cases kind with
  | _ => apply isHash_sha256

theorem isHash_of_hashFile {files : FileTree} {kind : ItemKind} {path hash : String}
    (h : hashFile files kind path = .ok hash) :
  IsHash hash
  := by
  rw [hashFile] at h
  rcases read : files.read path with fault | content
  · rw [read] at h
    cases h
  · rw [read] at h
    cases h
    apply isHash_hashItem

/-! ### Lowercase -/

/-- The digits of a hash are in lowercase. -/
theorem lowerIn_of_mem_hashDigits {c : Char} (digit : c ∈ hashDigits) (before after : List Char) :
  Text.lowerIn before after c = [c]
  := by
  have plain : ∀ c ∈ hashDigits, c ≠ 'Σ' ∧ Text.lowerLetters c = [c] :=
    List.all_iff_forall_prop.mp (by decide)
  obtain ⟨other, lower⟩ := plain c digit
  rw [Text.lowerIn, if_neg other, lower]

theorem lowerChars_of_digits {cs : List Char} (digits : ∀ c ∈ cs, c ∈ hashDigits) :
  Text.lowerChars cs = cs
  := by
  have every : ∀ before, Text.lowerChars.go before cs = cs := by
    induction cs with
    | nil =>
        intro before
        rfl
    | cons c cs ih =>
        intro before
        obtain ⟨first, rest⟩ := List.forall_mem_cons.mp digits
        rw [Text.lowerChars.go, lowerIn_of_mem_hashDigits first, ih rest, List.singleton_append]
  apply every

theorem IsHash.lower {hash : String} (whole : IsHash hash) :
  Text.lower hash = hash
  := by
  rw [Text.lower, lowerChars_of_digits whole.digits, String.ofList_toList]

/-- Every character has a lowercase letter. -/
theorem lowerIn_ne_nil (before after : List Char) (c : Char) :
  Text.lowerIn before after c ≠ []
  := by
  rw [Text.lowerIn, Text.lowerLetters]
  split
  · split
    · apply List.cons_ne_nil
    · apply List.cons_ne_nil
  · split
    · apply List.cons_ne_nil
    · apply List.cons_ne_nil

theorem lower_eq_empty_iff (text : String) :
  Text.lower text = "" ↔ text = ""
  := by
  rw [Text.lower, Text.lowerChars, String.ofList_eq_empty_iff, ← String.toList_eq_nil_iff]
  rcases text.toList with _ | ⟨c, cs⟩
  · exact iff_of_true rfl rfl
  · apply iff_of_false
    · rw [Text.lowerChars.go, List.append_eq_nil_iff]
      rintro ⟨empty, _⟩
      apply lowerIn_ne_nil _ _ _ empty
    · apply List.cons_ne_nil

/-! ### What counts of an expected hash -/

/-- The name of the digest that may stand in front of a hash. -/
def digestName : String := "sha256:"

/-- Nothing is left of an expected hash that is blank, or no more than the name of the digest. -/
theorem normalExpected_eq_empty_iff (expected : String) :
  normalExpected expected = "" ↔ Text.trim expected = "" ∨ Text.trim expected = digestName
  := by
  rw [normalExpected, lower_eq_empty_iff, Text.stripStart?, ← digestName]
  rcases stripped : Text.afterStart? digestName.toList (Text.trim expected).toList with _ | rest
  · have other : Text.trim expected ≠ digestName := by
      intro same
      rw [same, Text.afterStart?_eq_some.mpr (List.append_nil _).symm] at stripped
      cases stripped
    simp [other]
  · rw [Text.afterStart?_eq_some] at stripped
    have named : Text.trim expected = digestName ++ String.ofList rest := by
      apply String.toList_injective
      rw [stripped, String.toList_append, String.toList_ofList]
    have something : Text.trim expected ≠ "" := by
      rw [named]
      intro empty
      have := congrArg String.toList empty
      rw [String.toList_append] at this
      cases this
    rw [Option.map_some, Option.getD_some]
    simp only [something, false_or]
    rw [named]
    constructor
    · intro empty
      rw [empty, String.append_empty]
    · intro same
      have length := congrArg String.length same
      rw [String.length_append, Nat.add_eq_left, String.length_eq_zero_iff] at length
      apply length

theorem normalExpected_trim (expected : String) :
  normalExpected (Text.trim expected) = normalExpected expected
  := by
  have trimmed : Text.trim (Text.trim expected) = Text.trim expected := by
    rw [Text.trim, Text.trim, String.toList_ofList, Text.trimBoth_trimBoth]
  rw [normalExpected, trimmed, normalExpected]

/-! ### What an expected hash accepts -/

/-- The digits of hashes take one byte each. -/
theorem utf8ByteSize_of_digits {cs : List Char} (digits : ∀ c ∈ cs, c ∈ hashDigits) :
  (String.ofList cs).utf8ByteSize = cs.length
  := by
  have one : ∀ c ∈ hashDigits, c.utf8Size = 1 :=
    List.all_iff_forall_prop.mp (by decide)
  induction cs with
  | nil => rfl
  | cons c cs ih =>
      obtain ⟨first, rest⟩ := List.forall_mem_cons.mp digits
      rw [String.ofList_cons, String.utf8ByteSize_append, String.utf8ByteSize_singleton,
        one c first, ih rest, List.length_cons, Nat.add_comm]

/-- A text that a whole hash begins with and that is not shorter is the hash. -/
theorem IsHash.eq_of_isPrefix {hash text : String} (whole : IsHash hash)
    (inside : text.toList <+: hash.toList) (long : hashLength ≤ text.utf8ByteSize) :
  hash = text
  := by
  have size := utf8ByteSize_of_digits fun c among => whole.digits c (inside.subset among)
  rw [String.ofList_toList] at size
  rw [size, ← whole.length] at long
  apply String.toList_injective
  rw [inside.eq_of_length_le long]

/-- A whole hash agrees with an expected one exactly if it begins with what counts of that. -/
theorem agrees_iff_isPrefix {hash : String} (whole : IsHash hash) (expected : String) :
  agrees expected hash = true ↔ (normalExpected expected).toList <+: hash.toList
  := by
  rw [agrees, whole.lower]
  split
  · apply List.isPrefixOf_iff_prefix
  · next long =>
      rw [decide_eq_true_iff]
      constructor
      · intro same
        use []
        rw [List.append_nil, same]
      · intro inside
        apply whole.eq_of_isPrefix inside
        omega

/-- A blank expectation is satisfied as one of which nothing is left. -/
theorem satisfies_iff_isPrefix {hash : String} (whole : IsHash hash) (expected : String) :
  satisfies (some expected) hash = true ↔ (normalExpected expected).toList <+: hash.toList
  := by
  rw [satisfies]
  split
  · next blank =>
      rw [(normalExpected_eq_empty_iff expected).mpr (.inl blank)]
      exact iff_of_true rfl List.nil_prefix
  · rw [agrees_iff_isPrefix whole, normalExpected_trim]

/-! ### Reports -/

/-- A report is made on a file, after some run, for an expected hash. -/
def IsReport (expected : String) (report : Verification) : Prop :=
  ∃ settings host events path kind,
    report = (Session.run settings host events).report path kind (some expected)

/-- A report is on a whole hash, or on a fault. -/
theorem IsReport.cases {expected : String} {report : Verification}
    (made : IsReport expected report) :
  (∃ hash isCached, IsHash hash ∧ report = .ofHash (some expected) hash isCached)
    ∨ ∃ fault, report = .ofFault (some expected) fault
  := by
  obtain ⟨settings, host, events, path, kind, rfl⟩ := made
  have sound := Session.sound_run settings host events
  rw [Session.report]
  rcases HashStore.verify_cases (Session.run settings host events).host path kind (some expected)
    sound.once with ⟨e, stored, _, _, _, _, hit⟩ | ⟨store', _, anew⟩
  · obtain ⟨_, _, _, _, _, _, _, _, computed, _⟩ :=
      Session.computedIn_run settings host events e stored
    left
    rw [hit]
    exact ⟨e.value.hash, true, isHash_of_hashFile computed, rfl⟩
  · rw [anew]
    rcases store'.verifyAnew_cases (Session.run settings host events).host path kind
      (some expected) with ⟨fault, _, h⟩ | ⟨hash, _, computed, _, h⟩
    · right
      rw [h]
      exact ⟨fault, rfl⟩
    · left
      rw [h]
      exact ⟨hash, false, isHash_of_hashFile computed, rfl⟩

/-- A report is valid if and only if its hash begins with what counts of the expected one. -/
theorem IsReport.isValid_iff {expected : String} {report : Verification}
    (made : IsReport expected report) :
  report.isValid = true
    ↔ ∃ hash, report.actual = some hash ∧ IsHash hash
      ∧ (normalExpected expected).toList <+: hash.toList
  := by
  rcases made.cases with ⟨hash, isCached, whole, rfl⟩ | ⟨fault, rfl⟩
  · rw [Verification.ofHash, satisfies_iff_isPrefix whole]
    constructor
    · intro begins
      exact ⟨hash, rfl, whole, begins⟩
    · rintro ⟨hash', same, _, begins⟩
      cases same
      apply begins
  · simp [Verification.ofFault]

/-- Every file that can be read is reported on. -/
theorem isReport_of_hashFile (host : Host) {kind : ItemKind} {path hash : String}
    (h : hashFile host.files kind path = .ok hash) (expected : String) :
  IsReport expected (.ofHash (some expected) hash false)
  := by
  refine ⟨Session.narrow, host, [], path, kind, ?_⟩
  have found : (hashFile host.files kind path).toOption = some hash := by
    rw [h]
    rfl
  rw [Session.report, Session.run, List.foldl_nil,
    HashStore.verify_empty _ (HashStore.empty Session.narrow), HashStore.verifyAnew_of_hash found]

/-! ### Expected hashes that accept every file -/

/-- The first digit of the hash that a report is on. -/
def Verification.firstDigit? (report : Verification) : Option Char :=
  report.actual.bind fun hash => hash.toList.head?

/-- Valid reports for one expected hash, of which something is left, are on hashes with the same
first digit. -/
theorem IsReport.firstDigit?_eq {expected : String} {report report' : Verification}
    (made : IsReport expected report) (made' : IsReport expected report')
    (something : normalExpected expected ≠ "") (valid : report.isValid = true)
    (valid' : report'.isValid = true) :
  report.firstDigit? = report'.firstDigit?
  := by
  obtain ⟨hash, actual, _, rest, split⟩ := made.isValid_iff.mp valid
  obtain ⟨hash', actual', _, rest', split'⟩ := made'.isValid_iff.mp valid'
  rw [Verification.firstDigit?, actual, Verification.firstDigit?, actual', Option.bind_some,
    Option.bind_some, ← split, ← split']
  rcases digits : (normalExpected expected).toList with _ | ⟨c, cs⟩
  · cases something (String.toList_eq_nil_iff.mp digits)
  · rfl

/-- Two empty entries. -/
def twoEntries : FileTree :=
  .directory [("a", .file "".toUTF8 0 false), ("b", .file "".toUTF8 0 false)]

/-- The hashes of the two entries differ in their first digit. -/
theorem exists_hash_twoEntries :
  ∃ hash hash', hashFile twoEntries .knowledge "/a" = .ok hash
    ∧ hashFile twoEntries .knowledge "/b" = .ok hash'
    ∧ hash.toList.head? = some '7' ∧ hash'.toList.head? = some '2'
  := by
  have empty : twoEntries.read "/a" = .ok "" ∧ twoEntries.read "/b" = .ok "" := by
    decide +kernel
  refine ⟨hashItem .knowledge "/a" "", hashItem .knowledge "/b" "", ?_, ?_, ?_, ?_⟩
  · rw [hashFile, empty.1]
    rfl
  · rw [hashFile, empty.2]
    rfl
  · decide +kernel
  · decide +kernel

/-- Only an expected hash of which nothing is left accepts every file that can be read. -/
theorem forall_isValid_iff (expected : String) :
  (∀ report, IsReport expected report → report.error = none → report.isValid = true)
    ↔ normalExpected expected = ""
  := by
  constructor
  · intro accepts
    obtain ⟨hash, hash', read, read', first, first'⟩ := exists_hash_twoEntries
    have made := isReport_of_hashFile ⟨twoEntries, 0, []⟩ read expected
    have made' := isReport_of_hashFile ⟨twoEntries, 0, []⟩ read' expected
    by_contra something
    have same := made.firstDigit?_eq made' something (accepts _ made rfl) (accepts _ made' rfl)
    change hash.toList.head? = hash'.toList.head? at same
    rw [first, first'] at same
    cases same
  · intro empty report made fine
    rcases made.cases with ⟨hash, isCached, whole, rfl⟩ | ⟨fault, rfl⟩
    · apply (satisfies_iff_isPrefix whole expected).mpr
      rw [empty]
      apply List.nil_prefix
    · cases fine

/-- A whole hash agrees with an expected one exactly if it begins with what counts of that, and a
report, after any run, is valid exactly if it is on such a hash.  The expected one accepts every
file that can be read exactly if it is blank or no more than the name of the digest, and otherwise
no two files whose hashes differ in their first digit. -/
theorem isValid_iff_isPrefix (expected : String) :
  (∀ hash, IsHash hash →
      (agrees expected hash = true ↔ (normalExpected expected).toList <+: hash.toList))
    ∧ (∀ report, IsReport expected report →
      (report.isValid = true ↔ ∃ hash, report.actual = some hash ∧ IsHash hash
        ∧ (normalExpected expected).toList <+: hash.toList))
    ∧ ((∀ report, IsReport expected report → report.error = none → report.isValid = true)
      ↔ Text.trim expected = "" ∨ Text.trim expected = digestName)
    ∧ (Text.trim expected ≠ "" → Text.trim expected ≠ digestName →
      ∀ report report', IsReport expected report → IsReport expected report' →
        report.isValid = true → report'.isValid = true → report.firstDigit? = report'.firstDigit?)
  := by
  refine ⟨?_, ?_, ?_, ?_⟩
  · intro hash whole
    apply agrees_iff_isPrefix whole
  · intro report made
    apply made.isValid_iff
  · rw [forall_isValid_iff, normalExpected_eq_empty_iff]
  · intro visible longer report report' made made'
    apply made.firstDigit?_eq made'
    rw [ne_eq, normalExpected_eq_empty_iff, not_or]
    use visible

/-- An expected hash of one digit accepts one of the two entries and not the other; the bare name of
the digest accepts both. -/
theorem isValid_iff_isPrefix_twoEntries :
  ∃ hash report report' bare, IsHash hash ∧ agrees " sha256:7" hash = true
    ∧ IsReport " sha256:7" report ∧ report.isValid = true
    ∧ IsReport " sha256:7" report' ∧ report'.error = none ∧ report'.isValid = false
    ∧ IsReport digestName bare ∧ bare.error = none ∧ bare.isValid = true
  := by
  obtain ⟨hash, hash', read, read', first, first'⟩ := exists_hash_twoEntries
  have whole := isHash_of_hashFile read
  have begins : (normalExpected " sha256:7").toList <+: hash.toList := by
    have digits : (normalExpected " sha256:7").toList = ['7'] := by
      decide +kernel
    obtain ⟨rest, split⟩ := List.head?_eq_some_iff.mp first
    rw [digits, split]
    apply List.prefix_append ['7'] rest
  have made := isReport_of_hashFile ⟨twoEntries, 0, []⟩ read " sha256:7"
  have made' := isReport_of_hashFile ⟨twoEntries, 0, []⟩ read' " sha256:7"
  have bare := isReport_of_hashFile ⟨twoEntries, 0, []⟩ read' digestName
  obtain ⟨agreeing, valid, _, apart⟩ := isValid_iff_isPrefix " sha256:7"
  obtain ⟨_, _, accepting, _⟩ := isValid_iff_isPrefix digestName
  have accepted := (valid _ made).mpr ⟨hash, rfl, whole, begins⟩
  refine ⟨hash, _, _, _, whole, (agreeing _ whole).mpr begins, made, accepted, made', rfl, ?_,
    bare, rfl, accepting.mpr (.inr (by decide +kernel)) _ bare rfl⟩
  rw [Bool.eq_false_iff]
  intro accepted'
  have same := apart (by decide +kernel) (by decide +kernel) _ _ made made' accepted accepted'
  change hash.toList.head? = hash'.toList.head? at same
  rw [first, first'] at same
  cases same

end Toolshed.Integrity
