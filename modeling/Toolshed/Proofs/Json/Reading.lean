import Toolshed.Proofs.Json.Numbers
import Toolshed.Proofs.Json.Strings
import Mathlib.Order.Filter.AtTopBot.Basic

/-!
# Values are read as they are written

Plain text is compact text in which every character that is not plain is escaped.  A value is read
from its plain text, if arrays and objects may be nested as deep as they are in it.  So no two
values have the same plain text.
-/

namespace Toolshed.Json

namespace Value

/-- The numbers of the value are proper, and no object has a key twice. -/
inductive IsProper : Value → Prop where
  | null : IsProper .null
  | bool (b : Bool) : IsProper (.bool b)
  | number {n : Number} (proper : n.IsProper) : IsProper (.number n)
  | string (s : String) : IsProper (.string s)
  | array {items : List Value} (each : ∀ x ∈ items, IsProper x) : IsProper (.array items)
  | object {members : List (String × Value)} (distinct : (members.map Prod.fst).Nodup)
      (each : ∀ m ∈ members, IsProper m.2) : IsProper (.object members)

/-! ### Plain texts -/

/-- The compact text of a value in plain characters. -/
def plain (v : Value) : List Char :=
  v.compact.flatMap asciiChar

/-- The text of items in plain characters. -/
def plainItems (items : List Value) : List Char :=
  (compactItems items).flatMap asciiChar

/-- The text of members in plain characters. -/
def plainMembers (members : List (String × Value)) : List Char :=
  (compactMembers members).flatMap asciiChar

/-- A string in plain characters up to the quote that ends it. -/
def plainString (s : String) : List Char :=
  s.toList.flatMap fun c => (escapeChar c).flatMap asciiChar

theorem flatMap_quote (s : String) :
  (quote s).flatMap asciiChar = '"' :: plainString s ++ ['"']
  := by
  rw [quote, List.flatMap_append, List.flatMap_cons, List.flatMap_assoc]
  rfl

theorem plain_number {n : Number} :
  (number n).plain = n.text
  := by
  apply flatMap_asciiChar
  intro c among
  apply toNat_lt_of_isNumeric
  apply isNumeric_of_mem_text n c among

theorem plain_string (s : String) :
  (string s).plain = '"' :: plainString s ++ ['"']
  := by
  apply flatMap_quote

theorem plain_array (items : List Value) :
  (array items).plain = '[' :: plainItems items ++ [']']
  := by
  rw [plain, compact, List.flatMap_append, List.flatMap_cons]
  rfl

theorem plain_object (members : List (String × Value)) :
  (object members).plain = '\x7b' :: plainMembers members ++ ['\x7d']
  := by
  rw [plain, compact, List.flatMap_append, List.flatMap_cons]
  rfl

theorem plainItems_singleton (x : Value) :
  plainItems [x] = x.plain
  := by
  rfl

theorem plainItems_cons_cons (x y : Value) (rest : List Value) :
  plainItems (x :: y :: rest) = x.plain ++ ',' :: plainItems (y :: rest)
  := by
  rw [plainItems, compactItems, List.flatMap_append, List.flatMap_cons]
  rfl

theorem plainMembers_singleton (k : String) (x : Value) :
  plainMembers [(k, x)] = '"' :: plainString k ++ '"' :: ':' :: x.plain
  := by
  rw [plainMembers, compactMembers, List.flatMap_append, List.flatMap_cons, flatMap_quote,
    List.append_assoc]
  rfl

theorem plainMembers_cons_cons (k : String) (x : Value) (m : String × Value)
    (rest : List (String × Value)) :
  plainMembers ((k, x) :: m :: rest)
    = '"' :: plainString k ++ '"' :: ':' :: x.plain ++ ',' :: plainMembers (m :: rest)
  := by
  rw [plainMembers, compactMembers, List.flatMap_append, List.flatMap_append, List.flatMap_cons,
    List.flatMap_cons, flatMap_quote]
  simp only [List.append_assoc]
  rfl

/-! ### Where a value begins -/

/-- A character with which a value begins. -/
def isOpening (c : Char) : Bool :=
  isLeading c || c = 'n' || c = 't' || c = 'f' || c = '"' || c = '[' || c = '\x7b'

theorem IsProper.exists_plain_cons {v : Value} (proper : v.IsProper) :
  ∃ c rest, v.plain = c :: rest ∧ isOpening c = true
  := by
  cases proper with
  | null => exact ⟨_, _, rfl, rfl⟩
  | bool b =>
      cases b with
      | true => exact ⟨_, _, rfl, rfl⟩
      | false => exact ⟨_, _, rfl, rfl⟩
  | number proper =>
      obtain ⟨c, rest, same, leading⟩ := exists_text_cons proper
      rw [plain_number]
      refine ⟨c, rest, same, ?_⟩
      simp [isOpening, leading]
  | string s =>
      rw [plain_string]
      exact ⟨_, _, rfl, rfl⟩
  | array each =>
      rw [plain_array]
      exact ⟨_, _, rfl, rfl⟩
  | object distinct each =>
      rw [plain_object]
      exact ⟨_, _, rfl, rfl⟩

/-- A value begins where no blank does, and where no array and no object ends. -/
theorem of_isOpening {c : Char} (opening : isOpening c = true) :
  isSpace c = false ∧ c ≠ ']'
  := by
  simp only [isOpening, Bool.or_eq_true, decide_eq_true_eq, isLeading] at opening
  rcases opening with (((((((digit | rfl) | rfl) | rfl) | rfl) | rfl) | rfl) | rfl)
  · constructor
    · simp only [isSpace, Bool.or_eq_false_iff, beq_eq_false_iff_ne]
      refine ⟨⟨⟨?_, ?_⟩, ?_⟩, ?_⟩
      all_goals
        rintro rfl
        cases digit
    · rintro rfl
      cases digit
  all_goals
    decide

theorem skipSpace_cons {c : Char} (h : isSpace c = false) (rest : List Char) :
  skipSpace (c :: rest) = c :: rest
  := by
  rw [skipSpace, List.dropWhile_cons, h]
  rfl

/-! ### Items and members -/

/-- A reader reads the plain text of a value as it, if what follows does not go on with it. -/
def IsReadBy (item : Reads Value) (v : Value) : Prop :=
  ∀ rest, Text.Stops goesOn rest → item (v.plain ++ rest) = some (v, rest)

theorem readString_plainString (s : String) (rest : List Char) {fuel : Nat}
    (enough : (plainString s ++ '"' :: rest).length ≤ fuel) :
  readString fuel (plainString s ++ '"' :: rest) = some (s.toList, rest)
  := by
  apply readString_flatMap readsChar_canonical
  have := length_le_flatMap readsChar_canonical s.toList
  rw [List.length_append, List.length_cons, plainString] at enough
  omega

section

variable {item : Reads Value}

theorem readItems_plainItems {items : List Value} (nonempty : items ≠ [])
    (reads : ∀ x ∈ items, IsReadBy item x) (rest : List Char) {fuel : Nat}
    (enough : (plainItems items ++ ']' :: rest).length ≤ fuel) :
  readItems item fuel (plainItems items ++ ']' :: rest) = some (items, rest)
  := by
  induction items generalizing fuel with
  | nil => cases nonempty rfl
  | cons x others ih =>
      have first := reads x List.mem_cons_self
      cases others with
      | nil =>
          rw [List.length_append, List.length_cons] at enough
          obtain ⟨fuel, rfl⟩ : ∃ f, fuel = f + 1 := ⟨fuel - 1, by omega⟩
          rw [plainItems_singleton, readItems, first _ (Text.stops_cons rfl)]
          rfl
      | cons y others =>
          rw [plainItems_cons_cons, List.append_assoc, List.cons_append] at enough ⊢
          rw [List.length_append, List.length_cons] at enough
          obtain ⟨fuel, rfl⟩ : ∃ f, fuel = f + 1 := ⟨fuel - 1, by omega⟩
          rw [readItems, first _ (Text.stops_cons rfl)]
          simp only [bind, Option.bind]
          rw [skipSpace_cons rfl]
          simp only
          rw [ih (List.cons_ne_nil _ _) (fun z among => reads z (List.mem_cons_of_mem _ among))
            (by omega)]
          rfl

/-- The front of a list of members is read up to what follows the first one. -/
theorem readMembers_first (k : String) {x : Value} (reads : IsReadBy item x) {rest : List Char}
    (stops : Text.Stops goesOn rest) (fuel : Nat) :
  readMembers item (fuel + 1) ('"' :: (plainString k ++ '"' :: ':' :: (x.plain ++ rest)))
    = (match skipSpace rest with
      | ',' :: cs => (readMembers item fuel cs).bind fun (xs, cs) => some ((k, x) :: xs, cs)
      | '\x7d' :: cs => some ([(k, x)], cs)
      | _ => none)
  := by
  rw [readMembers, skipSpace_cons rfl]
  simp only [bind, Option.bind]
  rw [readString_plainString k _ (Nat.le_succ _)]
  simp only
  rw [skipSpace_cons rfl]
  simp only
  rw [reads rest stops]
  simp only [String.ofList_toList]
  rfl

theorem readMembers_plainMembers {members : List (String × Value)} (nonempty : members ≠ [])
    (reads : ∀ m ∈ members, IsReadBy item m.2) (rest : List Char) {fuel : Nat}
    (enough : (plainMembers members ++ '\x7d' :: rest).length ≤ fuel) :
  readMembers item fuel (plainMembers members ++ '\x7d' :: rest) = some (members, rest)
  := by
  induction members generalizing fuel with
  | nil => cases nonempty rfl
  | cons m others ih =>
      obtain ⟨k, x⟩ := m
      have first := reads (k, x) List.mem_cons_self
      cases others with
      | nil =>
          rw [List.length_append, List.length_cons] at enough
          obtain ⟨fuel, rfl⟩ : ∃ f, fuel = f + 1 := ⟨fuel - 1, by omega⟩
          rw [plainMembers_singleton]
          simp only [List.cons_append, List.append_assoc]
          rw [readMembers_first k first (Text.stops_cons rfl), skipSpace_cons rfl]
          rfl
      | cons y others =>
          rw [plainMembers_cons_cons] at enough ⊢
          simp only [List.cons_append, List.append_assoc, List.length_cons, List.length_append]
            at enough ⊢
          obtain ⟨fuel, rfl⟩ : ∃ f, fuel = f + 1 := ⟨fuel - 1, by omega⟩
          rw [readMembers_first k first (Text.stops_cons rfl), skipSpace_cons rfl]
          simp only
          rw [ih (List.cons_ne_nil _ _) (fun z among => reads z (List.mem_cons_of_mem _ among))]
          · rfl
          · rw [List.length_append, List.length_cons]
            omega

end

/-! ### Values -/

mutual

/-- The depth at which a value is read: arrays and objects may be nested less than it. -/
def height : Value → Nat
  | .array items => heightItems items + 1
  | .object members => heightMembers members + 1
  | _ => 1

/-- The depth at which every item is read, at least one. -/
def heightItems : List Value → Nat
  | [] => 1
  | x :: rest => max (height x) (heightItems rest)

/-- The depth at which every member is read, at least one. -/
def heightMembers : List (String × Value) → Nat
  | [] => 1
  | (_, x) :: rest => max (height x) (heightMembers rest)

end

theorem heightItems_le {items : List Value} {depth : Nat} :
  heightItems items ≤ depth ↔ 0 < depth ∧ ∀ x ∈ items, x.height ≤ depth
  := by
  induction items with
  | nil => simp [heightItems, Nat.succ_le_iff]
  | cons x items ih =>
      rw [heightItems, max_le_iff, ih, List.forall_mem_cons]
      exact and_left_comm

theorem heightMembers_le {members : List (String × Value)} {depth : Nat} :
  heightMembers members ≤ depth ↔ 0 < depth ∧ ∀ m ∈ members, m.2.height ≤ depth
  := by
  induction members with
  | nil => simp [heightMembers, Nat.succ_le_iff]
  | cons m members ih =>
      rw [heightMembers, max_le_iff, ih, List.forall_mem_cons]
      exact and_left_comm

theorem isReadBy_number {n : Number} (proper : n.IsProper) (depth : Nat) :
  IsReadBy (readValueBy nearest (depth + 1)) (.number n)
  := by
  intro rest stops
  obtain ⟨c, others, same, leading⟩ := exists_text_cons proper
  have reads := readNumber_text proper stops
  have space : isSpace c = false := by
    apply (of_isOpening _).1
    simp [isOpening, leading]
  rw [plain_number]
  rw [same, List.cons_append] at reads ⊢
  rw [readValueBy, skipSpace_cons space]
  split
  case h_7 =>
    rw [reads]
    rfl
  all_goals
    next first =>
      rw [(List.cons.inj first).1] at leading
      cases leading

theorem isReadBy_string (s : String) (depth : Nat) :
  IsReadBy (readValueBy nearest (depth + 1)) (.string s)
  := by
  intro rest _
  rw [plain_string, List.append_assoc, List.cons_append, readValueBy, skipSpace_cons rfl]
  simp only [List.singleton_append, bind, Option.bind]
  rw [readString_plainString s rest (Nat.le_succ _)]
  simp only [String.ofList_toList]
  rfl

theorem exists_plainItems_cons {x : Value} (proper : x.IsProper) (others : List Value) :
  ∃ c rest, plainItems (x :: others) = c :: rest ∧ isOpening c = true
  := by
  obtain ⟨c, rest, same, opening⟩ := proper.exists_plain_cons
  cases others with
  | nil => exact ⟨c, rest, same, opening⟩
  | cons y others =>
      rw [plainItems_cons_cons, same]
      exact ⟨c, _, rfl, opening⟩

theorem isReadBy_array {items : List Value} (each : ∀ x ∈ items, x.IsProper) {depth : Nat}
    (positive : 0 < depth) (reads : ∀ x ∈ items, IsReadBy (readValueBy nearest depth) x) :
  IsReadBy (readValueBy nearest (depth + 1)) (.array items)
  := by
  intro rest _
  rw [plain_array, List.append_assoc, List.cons_append, readValueBy, skipSpace_cons rfl]
  simp only [List.singleton_append]
  rw [if_neg (Nat.ne_of_gt positive)]
  cases items with
  | nil => rfl
  | cons x others =>
      have inside := readItems_plainItems (List.cons_ne_nil x others) reads rest (Nat.le_succ _)
      obtain ⟨c, tail, same, opening⟩ :=
        exists_plainItems_cons (each x List.mem_cons_self) others
      rw [same, List.cons_append] at inside ⊢
      rw [skipSpace_cons (of_isOpening opening).1]
      split
      · next first => cases (of_isOpening opening).2 (List.cons.inj first).1
      · rw [inside]
        rfl

theorem exists_plainMembers_cons (m : String × Value) (others : List (String × Value)) :
  ∃ rest, plainMembers (m :: others) = '"' :: rest
  := by
  obtain ⟨k, x⟩ := m
  cases others with
  | nil =>
      rw [plainMembers_singleton]
      exact ⟨_, rfl⟩
  | cons y others =>
      rw [plainMembers_cons_cons]
      exact ⟨_, rfl⟩

theorem isReadBy_object {members : List (String × Value)} {depth : Nat}
    (positive : 0 < depth) (reads : ∀ m ∈ members, IsReadBy (readValueBy nearest depth) m.2) :
  IsReadBy (readValueBy nearest (depth + 1)) (.object members)
  := by
  intro rest _
  rw [plain_object, List.append_assoc, List.cons_append, readValueBy, skipSpace_cons rfl]
  simp only [List.singleton_append]
  rw [if_neg (Nat.ne_of_gt positive)]
  cases members with
  | nil => rfl
  | cons m others =>
      have inside := readMembers_plainMembers (List.cons_ne_nil m others) reads rest
        (Nat.le_succ _)
      obtain ⟨tail, same⟩ := exists_plainMembers_cons m others
      rw [same, List.cons_append] at inside ⊢
      rw [skipSpace_cons rfl]
      split
      · next first => cases (List.cons.inj first).1
      · rw [inside]
        rfl

theorem exists_eq_succ_of_height_le {v : Value} {depth : Nat} (deep : v.height ≤ depth) :
  ∃ before, depth = before + 1
  := by
  have positive : 0 < v.height := by
    unfold height
    split
    · apply Nat.succ_pos
    · apply Nat.succ_pos
    · apply Nat.one_pos
  exact ⟨depth - 1, by omega⟩

/-- A value is read from its plain text at every depth at which it fits. -/
theorem IsProper.isReadBy {v : Value} (proper : v.IsProper) {depth : Nat}
    (deep : v.height ≤ depth) :
  IsReadBy (readValueBy nearest depth) v
  := by
  induction proper generalizing depth with
  | null =>
      obtain ⟨depth, rfl⟩ := exists_eq_succ_of_height_le deep
      intro rest _
      rfl
  | bool b =>
      obtain ⟨depth, rfl⟩ := exists_eq_succ_of_height_le deep
      intro rest _
      cases b with
      | true => rfl
      | false => rfl
  | number proper =>
      obtain ⟨depth, rfl⟩ := exists_eq_succ_of_height_le deep
      apply isReadBy_number proper
  | string s =>
      obtain ⟨depth, rfl⟩ := exists_eq_succ_of_height_le deep
      apply isReadBy_string
  | array each ih =>
      obtain ⟨depth, rfl⟩ := exists_eq_succ_of_height_le deep
      obtain ⟨positive, fits⟩ := heightItems_le.mp (Nat.le_of_succ_le_succ deep)
      apply isReadBy_array each positive
      intro x among
      apply ih x among (fits x among)
  | object _ each ih =>
      obtain ⟨depth, rfl⟩ := exists_eq_succ_of_height_le deep
      obtain ⟨positive, fits⟩ := heightMembers_le.mp (Nat.le_of_succ_le_succ deep)
      apply isReadBy_object positive
      intro m among
      apply ih m among (fits m among)

/-- No two values have the same plain text. -/
theorem IsProper.eq_of_plain_eq {v w : Value} (proper : v.IsProper) (proper' : w.IsProper)
    (same : v.plain = w.plain) :
  v = w
  := by
  have readsFirst := proper.isReadBy (le_max_left v.height w.height) [] Text.stops_nil
  have readsSecond := proper'.isReadBy (le_max_right v.height w.height) [] Text.stops_nil
  rw [same, readsSecond] at readsFirst
  exact (Prod.mk.inj (Option.some.inj readsFirst)).1.symm

end Value

end Toolshed.Json
