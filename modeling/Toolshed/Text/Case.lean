import Toolshed.Text.CaseTable

/-!
# Lowercase text

Every character is replaced by its lowercase letters, by the Unicode default mapping.  A
capital sigma is written `ς` at the end of a word and `σ` elsewhere.
-/

namespace Toolshed.Text

/-- The single lowercase letter of a character, itself when it has none. -/
def lowerChar (c : Char) : Char :=
  if c.toNat < 128 then c.toLower
  else match lowerRuns.find? fun (first, last, step, _) =>
      first ≤ c.toNat && c.toNat ≤ last && (c.toNat - first) % step == 0 with
    | some (_, _, _, shift) => Char.ofNat (c.toNat + shift).toNat
    | none => c

/-- The lowercase letters of a character outside any context. -/
def lowerLetters (c : Char) : List Char :=
  if c = 'İ' then ['i', '\u0307'] else [lowerChar c]

/-- After the characters that do not count comes one that has a case. -/
def casedFollows (cs : List Char) : Bool :=
  match cs.dropWhile caseIgnorableTable.holds with
  | [] => false
  | c :: _ => casedTable.holds c

/-- The lowercase letters of a character between the text before it, given backwards, and the
text after it. -/
def lowerIn (before after : List Char) (c : Char) : List Char :=
  if c = 'Σ' then
    if casedFollows before && !casedFollows after then ['ς'] else ['σ']
  else lowerLetters c

/-- Text in lowercase. -/
def lowerChars (cs : List Char) : List Char :=
  go [] cs
where
  /-- The rest of a text in lowercase, after a part given backwards. -/
  go (before : List Char) : List Char → List Char
    | [] => []
    | c :: rest => lowerIn before rest c ++ go (c :: before) rest

/-- A string in lowercase. -/
def lower (s : String) : String :=
  String.ofList (lowerChars s.toList)

end Toolshed.Text
