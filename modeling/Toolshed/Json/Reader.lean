import Toolshed.Json.Value
import Toolshed.Decimal.Reader

/-!
# Reading JSON

A text is read as one value with blanks around it.  Arrays and objects may be nested at most 127
deep.  An integer that fits 64 bits is kept exactly, `-0` excepted; every other number becomes a
double precision number and must not overflow.  That is not always the nearest one: digits that 64
bits do not hold are dropped, and the power of ten is applied to what has been rounded before.
`parseMembers?` keeps the members of an object as they are written; with `parse?`, a repeated key
keeps its place and takes the last value.
-/

namespace Toolshed.Json

open Decimal

/-- A reader takes a value from the front of a text and leaves the rest. -/
abbrev Reads (α : Type) := List Char → Option (α × List Char)

/-- The four blanks of JSON. -/
def isSpace (c : Char) : Bool :=
  c == ' ' || c == '\n' || c == '\t' || c == '\r'

/-- The text after leading blanks. -/
def skipSpace (cs : List Char) : List Char :=
  cs.dropWhile isSpace

/-- The value of a hexadecimal digit. -/
def hexValue? (c : Char) : Option Nat :=
  if c.isDigit then some (c.toNat - 48)
  else if 'a' ≤ c ∧ c ≤ 'f' then some (c.toNat - 87)
  else if 'A' ≤ c ∧ c ≤ 'F' then some (c.toNat - 55)
  else none

/-- Four hexadecimal digits. -/
def readUnit : Reads Nat
  | a :: b :: c :: d :: rest => do
    let a ← hexValue? a
    let b ← hexValue? b
    let c ← hexValue? c
    let d ← hexValue? d
    pure (((a * 16 + b) * 16 + c) * 16 + d, rest)
  | _ => none

/-- The character after the `\u` of an escape; a high surrogate takes the escape that follows
it, and a surrogate without its partner is refused. -/
def readUnicode (cs : List Char) : Option (Char × List Char) := do
  let (unit, rest) ← readUnit cs
  if 0xDC00 ≤ unit ∧ unit < 0xE000 then none
  else if 0xD800 ≤ unit ∧ unit < 0xDC00 then
    match rest with
    | '\\' :: 'u' :: rest =>
      let (low, rest) ← readUnit rest
      if 0xDC00 ≤ low ∧ low < 0xE000 then
        pure (Char.ofNat (0x10000 + (unit - 0xD800) * 0x400 + (low - 0xDC00)), rest)
      else none
    | _ => none
  else pure (Char.ofNat unit, rest)

/-- The character of a short escape. -/
def shortEscape? (c : Char) : Option Char :=
  match c with
  | '"' => some '"'
  | '\\' => some '\\'
  | '/' => some '/'
  | 'b' => some '\x08'
  | 'f' => some '\x0c'
  | 'n' => some '\n'
  | 'r' => some '\r'
  | 't' => some '\t'
  | _ => none

/-- The rest of a string after its opening quote; the fuel bounds the number of characters. -/
def readString : Nat → Reads (List Char)
  | 0, _ => none
  | _, [] => none
  | _ + 1, '"' :: rest => some ([], rest)
  | fuel + 1, '\\' :: 'u' :: rest => do
    let (c, rest) ← readUnicode rest
    let (cs, rest) ← readString fuel rest
    pure (c :: cs, rest)
  | fuel + 1, '\\' :: e :: rest => do
    let c ← shortEscape? e
    let (cs, rest) ← readString fuel rest
    pure (c :: cs, rest)
  | fuel + 1, c :: rest => do
    if c = '\\' ∨ c.toNat < 32 then none
    else
      let (cs, rest) ← readString fuel rest
      pure (c :: cs, rest)

/-- The digits of the whole part: a single zero, or digits that do not start with zero. -/
def readWhole (cs : List Char) : Option (List Char × List Char) := do
  let (digits, rest) ← readDigits cs
  match digits with
  | '0' :: _ :: _ => none
  | _ => pure (digits, rest)

/-- The digits after a point, none without a point. -/
def readFraction : List Char → Option (List Char × List Char)
  | '.' :: rest => readDigits rest
  | rest => some ([], rest)

/-- The integer as a number, if 64 bits hold it and it is not minus zero. -/
def exactInt? (negative : Bool) (n : Nat) : Option Number :=
  if negative then
    if 0 < n ∧ n ≤ Nat.pow 2 63 then some (.int (-(n : Int))) else none
  else if n < Nat.pow 2 64 then some (.int n) else none

/-- The sign in front of a number. -/
def readSign : List Char → Bool × List Char
  | '-' :: rest => (true, rest)
  | rest => (false, rest)

/-- The text goes on with a point. -/
def hasPoint : List Char → Bool
  | '.' :: _ => true
  | _ => false

/-- How a sign, the digits before a point and behind it, and a power of ten are converted. -/
abbrev Conversion := Bool → List Char → List Char → Int → Binary64

/-- The number that digits make as long as 64 bits hold it, and the digits that are left. -/
def takeDigits : Nat → List Char → Nat × List Char
  | n, [] => (n, [])
  | n, c :: cs =>
    let next := 10 * n + (c.toNat - 48)
    if next < Nat.pow 2 64 then takeDigits next cs else (n, c :: cs)

/-- The magnitude of a number that 64 bits hold times a power of ten.  Powers from `10 ^ -308` to
`10 ^ 308` are applied at once.  After two divisions by `10 ^ 308` nothing is left. -/
def scaled (n : Nat) (power : Int) : Nat :=
  let start := Binary64.magnitudeOfNat n
  let ten (power : Int) := Binary64.magnitudeOfNat (Nat.pow 10 power.toNat)
  if n = 0 || power < -616 then 0
  else if power < -308 then
    Binary64.quotient (Binary64.quotient start (ten 308)) (ten (-power - 308))
  else if power < 0 then Binary64.quotient start (ten (-power))
  else if power ≤ 308 then Binary64.product start (ten power)
  else Binary64.infinityBits

/-- The conversion of the digits that 64 bits hold; those before the point that are dropped count as
powers of ten. -/
def convert : Conversion := fun negative whole fraction exponent =>
  let (n, dropped) := takeDigits 0 whole
  let (n, ignored) := takeDigits n fraction
  Binary64.ofMagnitude negative
    (scaled n (exponent + dropped.length - (fraction.length - ignored.length)))

/-- The number of given parts, an integer if there is neither a point nor an exponent and 64 bits
hold it. -/
def ofParts? (convert : Conversion) (negative isReal : Bool) (whole fraction : List Char)
    (exponent : Option Int) : Option Number :=
  let exact := if isReal || exponent.isSome then none else exactInt? negative (ofDigits whole)
  match exact with
  | some n => some n
  | none =>
    let x := convert negative whole fraction (exponent.getD 0)
    if x.isFinite then some (.real x) else none

/-- A number, given how it is converted if it is not an integer. -/
def readNumber (convert : Conversion) (cs : List Char) : Option (Number × List Char) := do
  let (negative, cs) := readSign cs
  let (whole, cs) ← readWhole cs
  let isReal := hasPoint cs
  let (fraction, cs) ← readFraction cs
  let (exponent, cs) ← readExponent cs
  let n ← ofParts? convert negative isReal whole fraction exponent
  pure (n, cs)

/-- The items of an array after the opening bracket and its first item are due; the fuel bounds
their number. -/
def readItems (item : Reads Value) : Nat → Reads (List Value)
  | 0, _ => none
  | fuel + 1, cs => do
    let (x, cs) ← item cs
    match skipSpace cs with
    | ',' :: cs =>
      let (xs, cs) ← readItems item fuel cs
      pure (x :: xs, cs)
    | ']' :: cs => pure ([x], cs)
    | _ => none

/-- The members of an object when the first one is due; the fuel bounds their number. -/
def readMembers (item : Reads Value) : Nat → Reads (List (String × Value))
  | 0, _ => none
  | fuel + 1, cs => do
    match skipSpace cs with
    | '"' :: cs =>
      let (key, cs) ← readString (cs.length + 1) cs
      match skipSpace cs with
      | ':' :: cs =>
        let (x, cs) ← item cs
        match skipSpace cs with
        | ',' :: cs =>
          let (xs, cs) ← readMembers item fuel cs
          pure ((String.ofList key, x) :: xs, cs)
        | '\x7d' :: cs => pure ([(String.ofList key, x)], cs)
        | _ => none
      | _ => none
    | _ => none

/-- A value with blanks before it, with arrays and objects nested less than a given depth. -/
def readValueBy (convert : Conversion) : Nat → Reads Value
  | 0, _ => none
  | depth + 1, cs =>
    match skipSpace cs with
    | 'n' :: 'u' :: 'l' :: 'l' :: rest => some (.null, rest)
    | 't' :: 'r' :: 'u' :: 'e' :: rest => some (.bool true, rest)
    | 'f' :: 'a' :: 'l' :: 's' :: 'e' :: rest => some (.bool false, rest)
    | '"' :: rest => do
      let (s, rest) ← readString (rest.length + 1) rest
      pure (.string (String.ofList s), rest)
    | '[' :: rest =>
      if depth = 0 then none
      else match skipSpace rest with
        | ']' :: rest => some (.array [], rest)
        | rest => do
          let (xs, rest) ← readItems (readValueBy convert depth) (rest.length + 1) rest
          pure (.array xs, rest)
    | '\x7b' :: rest =>
      if depth = 0 then none
      else match skipSpace rest with
        | '\x7d' :: rest => some (.object [], rest)
        | rest => do
          let (xs, rest) ← readMembers (readValueBy convert depth) (rest.length + 1) rest
          pure (.object xs, rest)
    | rest => do
      let (n, rest) ← readNumber convert rest
      pure (.number n, rest)

/-- A value whose numbers are converted by the digits that 64 bits hold. -/
def readValue (depth : Nat) : Reads Value :=
  readValueBy convert depth

/-- The value of a text, repeated keys being kept. -/
def parseMembers? (cs : List Char) : Option Value := do
  let (v, rest) ← readValue 128 cs
  if (skipSpace rest).isEmpty then pure v else none

/-- The value of a text. -/
def parse? (cs : List Char) : Option Value :=
  (parseMembers? cs).map Value.merged

end Toolshed.Json
