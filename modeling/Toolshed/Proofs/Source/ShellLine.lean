import Toolshed.Source.Shell
import Toolshed.Proofs.Text.Runs

/-!
# What a line of a shell source leaves open

A balanced line closes by itself whatever it opens: quotes, expansions, parentheses and braces.  It
leaves the depth as it was, less one for each closing mark that is not set off against an opening
one.  These are the marks that close what stands directly behind a dollar sign or an expansion in
braces, since it is opened without being counted, and those that close nothing at all.
-/

namespace Toolshed.Source.Shell

open Text

/-! ### Balanced texts -/

/-- The marks that enclose a part of a line. -/
inductive Bracket where
  | round
  | curly

namespace Bracket

/-- The mark that opens a part. -/
def opening : Bracket → Char
  | round => '('
  | curly => '\x7b'

/-- The mark that closes a part. -/
def closing : Bracket → Char
  | round => ')'
  | curly => '\x7d'

end Bracket

/-- A character that opens and closes nothing, wherever it stands outside of quotes. -/
def isOrdinary (c : Char) : Bool :=
  c ∉ ['\\', '\'', '"', '$', '#', '(', ')', '\x7b', '\x7d']

/-- A text inside double quotes, its escapes being complete. -/
inductive IsQuoted : List Char → Prop where
  | nil : IsQuoted []
  | character {c : Char} {cs : List Char} (quote : c ≠ '"') (backslash : c ≠ '\\')
      (rest : IsQuoted cs) : IsQuoted (c :: cs)
  | escape {c : Char} {cs : List Char} (rest : IsQuoted cs) : IsQuoted ('\\' :: c :: cs)

/-- A text outside of quotes that leaves nothing open: given the character before it, the text ends
with the other character, and as many of its closing marks as the number says are not set off
against an opening one. -/
inductive Balanced : Char → List Char → Char → Nat → Prop where
  | nil {p : Char} : Balanced p [] p 0
  | ordinary {p c q : Char} {cs : List Char} {k : Nat} (plain : isOrdinary c = true)
      (rest : Balanced c cs q k) : Balanced p (c :: cs) q k
  | dollar {p q : Char} {cs : List Char} {k : Nat} (alone : cs.head? ≠ some '\x7b')
      (rest : Balanced '$' cs q k) : Balanced p ('$' :: cs) q k
  | hash {p q : Char} {cs : List Char} {k : Nat} (inWord : isBlank p = false)
      (rest : Balanced '#' cs q k) : Balanced p ('#' :: cs) q k
  | escape {p c q : Char} {cs : List Char} {k : Nat} (rest : Balanced '\\' cs q k) :
      Balanced p ('\\' :: c :: cs) q k
  | single {p q : Char} {text cs : List Char} {k : Nat} (inside : '\'' ∉ text)
      (rest : Balanced '\'' cs q k) : Balanced p ('\'' :: (text ++ '\'' :: cs)) q k
  | double {p q : Char} {text cs : List Char} {k : Nat} (inside : IsQuoted text)
      (rest : Balanced '"' cs q k) : Balanced p ('"' :: (text ++ '"' :: cs)) q k
  | parameter {p q : Char} {text cs : List Char} {k : Nat} (inside : '\x7d' ∉ text)
      (rest : Balanced '$' cs q k) : Balanced p ('$' :: '\x7b' :: (text ++ '\x7d' :: cs)) q k
  | group {p q r : Char} {text cs : List Char} {j k : Nat} (b : Bracket)
      (inside : Balanced b.opening text r j) (rest : Balanced b.closing cs q k) :
      Balanced p (b.opening :: (text ++ b.closing :: cs)) q (j + k + if p = '$' then 1 else 0)
  | stray {p q : Char} {cs : List Char} {k : Nat} (b : Bracket) (rest : Balanced b.closing cs q k) :
      Balanced p (b.closing :: cs) q (k + 1)

/-! ### Reading a balanced text -/

section

variable {d : Nat} {p : Char} {cs : List Char}

theorem scan_ordinary {c : Char} (plain : isOrdinary c = true) :
  scan .plain d p (c :: cs) = scan .plain d c cs
  := by
  simp only [isOrdinary, List.mem_cons, List.not_mem_nil, or_false, not_or, decide_eq_true_eq]
    at plain
  rw [scan]
  simp [plain]

theorem scan_dollar (alone : cs.head? ≠ some '\x7b') :
  scan .plain d p ('$' :: cs) = scan .plain d '$' cs
  := by
  rw [scan]
  simp [alone]

theorem scan_hash (inWord : isBlank p = false) :
  scan .plain d p ('#' :: cs) = scan .plain d '#' cs
  := by
  rw [scan]
  simp [inWord]

theorem scan_escape (c : Char) :
  scan .plain d p ('\\' :: c :: cs) = scan .plain d '\\' cs
  := by
  rw [scan]
  simp

theorem scan_apostrophe :
  scan .plain d p ('\'' :: cs) = scan .single d '\'' cs
  := by
  rw [scan]
  simp

theorem scan_quotation :
  scan .plain d p ('"' :: cs) = scan .double d '"' cs
  := by
  rw [scan]
  simp

theorem scan_single {text : List Char} (inside : '\'' ∉ text) :
  scan .single d p (text ++ '\'' :: cs) = scan .plain d '\'' cs
  := by
  induction text generalizing p with
  | nil =>
      rw [List.nil_append, scan]
      rfl
  | cons c text ih =>
      rw [List.mem_cons, not_or] at inside
      rw [List.cons_append, scan]
      rw [if_neg (Ne.symm inside.1), ih inside.2]

theorem scan_double {text : List Char} (inside : IsQuoted text) :
  scan .double d p (text ++ '"' :: cs) = scan .plain d '"' cs
  := by
  induction inside generalizing p with
  | nil =>
      rw [List.nil_append, scan]
      rfl
  | character quote backslash rest ih =>
      rw [List.cons_append, scan]
      rw [if_neg backslash, if_neg quote, ih]
  | escape rest ih =>
      rw [List.cons_append, List.cons_append, scan]
      rw [if_pos rfl]
      apply ih

theorem scan_parameter {text : List Char} (inside : '\x7d' ∉ text) :
  scan .plain d p ('$' :: '\x7b' :: (text ++ '\x7d' :: cs)) = scan .plain d '$' cs
  := by
  have passed : ∀ c ∈ '\x7b' :: text, (c != '\x7d') = true := by
    intro c among
    rw [bne_iff_ne]
    rintro rfl
    rcases List.mem_cons.mp among with same | among
    · revert same
      decide
    · apply inside among
  have skipped : (('\x7b' :: (text ++ '\x7d' :: cs)).dropWhile (· != '\x7d')).drop 1 = cs := by
    rw [← List.cons_append, dropWhile_append_stops passed (stops_cons (by decide))]
    rfl
  rw [scan, if_neg, if_neg, if_neg, if_neg, if_pos, skipped]
  all_goals simp

theorem scan_opening (b : Bracket) :
  scan .plain d p (b.opening :: cs) = scan .plain (d + if p = '$' then 0 else 1) b.opening cs
  := by
  cases b <;> by_cases h : p = '$' <;> rw [scan] <;> simp [Bracket.opening, h]

theorem scan_closing (b : Bracket) :
  scan .plain d p (b.closing :: cs) = scan .plain (d - 1) b.closing cs
  := by
  cases b <;> rw [scan] <;> simp [Bracket.closing]

end

/-- Reading a balanced text takes from the depth what is not set off. -/
theorem Balanced.scan_append {p q : Char} {text : List Char} {k : Nat}
    (balanced : Balanced p text q k) (d : Nat) {rest : List Char}
    (ends : q = '$' → rest.head? ≠ some '\x7b') :
  scan .plain d p (text ++ rest) = scan .plain (d - k) q rest
  := by
  induction balanced generalizing d rest with
  | nil => rfl
  | ordinary plain _ ih => rw [List.cons_append, scan_ordinary plain, ih d ends]
  | @dollar p q cs k alone inside ih =>
      have alone' : (cs ++ rest).head? ≠ some '\x7b' := by
        cases cs with
        | nil =>
            cases inside
            apply ends rfl
        | cons c cs => apply alone
      rw [List.cons_append, scan_dollar alone', ih d ends]
  | hash inWord _ ih => rw [List.cons_append, scan_hash inWord, ih d ends]
  | escape _ ih => rw [List.cons_append, List.cons_append, scan_escape, ih d ends]
  | single inside _ ih =>
      rw [List.cons_append, List.append_assoc, List.cons_append, scan_apostrophe,
        scan_single inside, ih d ends]
  | double inside _ ih =>
      rw [List.cons_append, List.append_assoc, List.cons_append, scan_quotation,
        scan_double inside, ih d ends]
  | parameter inside _ ih =>
      rw [List.cons_append, List.cons_append, List.append_assoc, List.cons_append,
        scan_parameter inside, ih d ends]
  | group b _ _ ihInside ih =>
      rw [List.cons_append, List.append_assoc, List.cons_append, scan_opening, ihInside,
        scan_closing, ih _ ends]
      · congr 1
        split <;> omega
      · intro _
        cases b <;> simp [Bracket.closing]
  | stray b _ ih =>
      rw [List.cons_append, scan_closing, ih _ ends]
      congr 1
      omega

/-- Ordinary characters may be put in front. -/
theorem Balanced.word {p q : Char} (text : List Char) {cs : List Char} {k : Nat}
    (plain : ∀ c ∈ text, isOrdinary c = true) (rest : Balanced (text.getLast?.getD p) cs q k) :
  Balanced p (text ++ cs) q k
  := by
  induction text generalizing p with
  | nil => apply rest
  | cons c text ih =>
      apply Balanced.ordinary (plain c List.mem_cons_self)
      apply ih
      · intro d among
        apply plain d (List.mem_cons_of_mem c among)
      · rw [List.getLast?_cons] at rest
        apply rest

/-! ### Balanced lines -/

/-- A line that leaves nothing open, as many of its closing marks as the number says not being set
off.  It may be continued on the next line, and it may end with a comment. -/
inductive IsBalancedLine : List Char → Nat → Prop where
  | bare {line : List Char} {q : Char} {k : Nat} (text : Balanced ' ' line q k) :
      IsBalancedLine line k
  | continued {line : List Char} {q : Char} {k : Nat} (text : Balanced ' ' line q k) :
      IsBalancedLine (line ++ ['\\']) k
  | commented {line : List Char} {q : Char} {k : Nat} (text : Balanced ' ' line q k)
      (blank : isBlank q = true) (comment : List Char) : IsBalancedLine (line ++ '#' :: comment) k

/-- Reading a balanced line takes from the depth what is not set off. -/
theorem IsBalancedLine.scan_eq {line : List Char} {k : Nat} (balanced : IsBalancedLine line k)
    (d : Nat) :
  scan .plain d ' ' line = (.plain, d - k)
  := by
  cases balanced with
  | bare text =>
      rw [← List.append_nil line, text.scan_append d (by simp), scan]
  | continued text =>
      rw [text.scan_append d (by simp), scan]
      simp [scan]
  | commented text blank comment =>
      rw [text.scan_append d (by simp), scan]
      simp [blank]

/-- A line has one number of closing marks that are not set off, as far as that is none or some. -/
theorem IsBalancedLine.not_zero_of_succ {line : List Char} {k : Nat}
    (inside : IsBalancedLine line (k + 1)) :
  ¬ IsBalancedLine line 0
  := by
  intro outside
  have same := (inside.scan_eq 1).symm.trans (outside.scan_eq 1)
  simp at same

end Toolshed.Source.Shell
