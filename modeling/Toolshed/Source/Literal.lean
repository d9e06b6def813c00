import Toolshed.Json.Reader

/-!
# Literals

The values of the literals that a source file assigns to its names: numbers, and strings with
backslash escapes in the two dialects that differ in what an escape may be.
-/

namespace Toolshed.Source

/-- A dialect of backslash escapes. -/
inductive Dialect where
  | python
  | javaScript
deriving DecidableEq, Inhabited

/-- The value of a digit in a base of at most 36. -/
def digitValue? (base : Nat) (c : Char) : Option Nat :=
  let value :=
    if c.isDigit then c.toNat - 48
    else if 'a' ≤ c ∧ c ≤ 'z' then c.toNat - 87
    else if 'A' ≤ c ∧ c ≤ 'Z' then c.toNat - 55
    else 36
  if value < base then some value else none

/-- The number that digits write in a base; there must be at least one. -/
def ofDigits? (base : Nat) : List Char → Option Nat
  | [] => none
  | cs => cs.foldlM (fun n c => (digitValue? base c).map (base * n + ·)) 0

/-- The digits in a base at the front of a text, at most a given number of them. -/
def takeDigits (base : Nat) : Nat → List Char → List Char × List Char
  | limit + 1, c :: cs =>
    if (digitValue? base c).isSome then
      let (digits, rest) := takeDigits base limit cs
      (c :: digits, rest)
    else ([], c :: cs)
  | _, cs => ([], cs)

/-- The character with the code that digits write, and U+FFFD when there is none. -/
def codeChar (base : Nat) (digits : List Char) : Char :=
  match ofDigits? base digits with
  | some n => if h : n.isValidChar then Char.ofNatAux n h else '\ufffd'
  | none => '\ufffd'

/-- The character of a one-letter escape that both dialects know. -/
def letterEscape? (c : Char) : Option Char :=
  match c with
  | '\\' => some '\\'
  | '\'' => some '\''
  | '"' => some '"'
  | 'n' => some '\n'
  | 't' => some '\t'
  | 'r' => some '\r'
  | 'b' => some '\x08'
  | 'f' => some '\x0c'
  | 'v' => some '\x0b'
  | _ => if c.toNat = 0x60 then some c else none

/-- The text that an escape writes, the backslash being passed, and the rest. -/
def readEscape (dialect : Dialect) : List Char → List Char × List Char
  | [] => (['\\'], [])
  | '\n' :: cs => ([], cs)
  | '\r' :: '\n' :: cs => ([], cs)
  | '\r' :: cs => ([], cs)
  | c :: cs =>
    match letterEscape? c with
    | some d => ([d], cs)
    | none =>
      if c = 'a' ∧ dialect = .python then (['\x07'], cs)
      else if '0' ≤ c ∧ c ≤ '7' ∧ dialect = .python then
        let (digits, rest) := takeDigits 8 2 cs
        ([codeChar 8 (c :: digits)], rest)
      else if c = '0' then (['\x00'], cs)
      else if c = 'x' then
        let (digits, rest) := takeDigits 16 2 cs
        ([codeChar 16 digits], rest)
      else if c = 'u' ∧ dialect = .javaScript ∧ cs.head? = some '\x7b' then
        let digits := cs.tail.takeWhile (· != '\x7d')
        ([codeChar 16 digits], (cs.tail.dropWhile (· != '\x7d')).drop 1)
      else if c = 'u' then
        let (digits, rest) := takeDigits 16 4 cs
        ([codeChar 16 digits], rest)
      else if c = 'U' ∧ dialect = .python then
        let (digits, rest) := takeDigits 16 8 cs
        ([codeChar 16 digits], rest)
      else if dialect = .python then (['\\', c], cs)
      else ([c], cs)

theorem takeDigits_length_le {base limit : Nat} {cs digits rest : List Char}
    (taken : takeDigits base limit cs = (digits, rest)) :
  rest.length ≤ cs.length
  := by
  fun_induction takeDigits base limit cs generalizing digits with
  | case1 limit c cs _ others _ takes ih =>
    cases taken
    apply Nat.le_succ_of_le (ih takes)
  | case2 | case3 =>
    cases taken
    apply Nat.le_refl

theorem readEscape_length (dialect : Dialect) (cs : List Char) :
  (readEscape dialect cs).2.length ≤ cs.length
  := by
  fun_cases readEscape dialect cs with
  | case1 => apply Nat.le_refl
  | case2 | case4 | case5 | case6 | case8 | case13 | case14 => apply Nat.le_succ
  | case3 cs => apply Nat.le_add_right cs.length 2
  | case7 | case9 | case11 | case12 =>
    -- The digits that an escape takes stand in front of the rest.
    apply Nat.le_succ_of_le
    apply takeDigits_length_le
    assumption
  | case10 c cs =>
    apply Nat.le_succ_of_le
    calc ((cs.tail.dropWhile (· != '\x7d')).drop 1).length
      _ ≤ (cs.tail.dropWhile (· != '\x7d')).length := (List.drop_sublist _ _).length_le
      _ ≤ cs.tail.length := (List.dropWhile_sublist _).length_le
      _ ≤ cs.length := (List.tail_sublist cs).length_le

/-- The text that a string literal spells between its quotes. -/
def unescape (dialect : Dialect) : List Char → List Char
  | [] => []
  | c :: cs =>
    if c = '\\' then (readEscape dialect cs).1 ++ unescape dialect (readEscape dialect cs).2
    else c :: unescape dialect cs
termination_by cs => cs.length
decreasing_by
  · have shorter := readEscape_length dialect cs
    simp only [List.length_cons]
    omega
  · simp

/-- An integer that 64 bits hold with a sign. -/
def int64? (n : Int) : Option Json.Value :=
  if -(Nat.pow 2 63 : Int) ≤ n ∧ n < Nat.pow 2 63 then some (.ofInt n) else none

/-- The digits of a number without the underscores between them, in lowercase. -/
def plainDigits (cs : List Char) : List Char :=
  (cs.filter (· != '_')).map Char.toLower

/-- The integer that a text with a base mark writes. -/
def radixInteger? : List Char → Option Json.Value
  | '0' :: 'x' :: digits => (ofDigits? 16 digits).bind (int64? ·)
  | '0' :: 'o' :: digits => (ofDigits? 8 digits).bind (int64? ·)
  | '0' :: 'b' :: digits => (ofDigits? 2 digits).bind (int64? ·)
  | _ => none

/-- The integer that decimal digits write. -/
def decimalInteger? (digits : List Char) : Option Json.Value :=
  (ofDigits? 10 digits).bind (int64? ·)

/-- The finite number that a decimal with an optional point and exponent writes. -/
def real? (cs : List Char) : Option Json.Value :=
  (Decimal.real? false cs).map fun x => .number (.real x)

/-- A number with a sign before it. -/
def signed? (sign : Char) : Json.Value → Option Json.Value
  | .number n =>
    if sign = '+' then some (.number n)
    else if sign = '-' then
      match n with
      | .int i => int64? (-i)
      | .real x => some (.number (.real x.neg))
    else none
  | _ => none

/-- A literal assigned to a name at the top level of a source file. -/
structure Assignment where
  name : String
  value : Json.Value
  /-- The literal is a single scalar, without brackets or a sign. -/
  constant : Bool
deriving Inhabited

/-- What a source file declares: its assignments in order, and its documentation. -/
structure Module where
  assignments : List Assignment
  docstring : Option String
deriving Inhabited

/-- The last value of every name. -/
def Module.values (m : Module) : Json.Fields :=
  Assoc.ofEntries (m.assignments.map fun a => (a.name, a.value))

end Toolshed.Source
