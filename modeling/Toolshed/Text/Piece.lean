import Toolshed.Text.Blank

/-!
# Pieces of text

Finding, cutting and replacing pieces of a text.
-/

namespace Toolshed.Text

/-- The rest of a text after a given beginning. -/
def afterStart? : List Char → List Char → Option (List Char)
  | [], rest => some rest
  | _ :: _, [] => none
  | p :: ps, c :: cs => if p = c then afterStart? ps cs else none

/-- The rest of a string after a given beginning. -/
def stripStart? (start s : String) : Option String :=
  (afterStart? start.toList s.toList).map String.ofList

/-- A piece occurs in a text. -/
def occursIn (piece : List Char) : List Char → Bool
  | [] => piece.isEmpty
  | c :: cs => piece.isPrefixOf (c :: cs) || occursIn piece cs

/-- A text cut at the first occurrence of a character. -/
def cutAt? (mark : Char) : List Char → Option (List Char × List Char)
  | [] => none
  | c :: cs =>
    if c = mark then some ([], cs)
    else (cutAt? mark cs).map fun (before, after) => (c :: before, after)

theorem cutAt?_length {mark : Char} {cs before rest : List Char}
    (h : cutAt? mark cs = some (before, rest)) :
  rest.length < cs.length
  := by
  induction cs generalizing before with
  | nil => simp [cutAt?] at h
  | cons c cs ih =>
    simp only [cutAt?] at h
    split at h
    · cases h
      simp
    · obtain ⟨⟨before', rest'⟩, h', e⟩ := Option.map_eq_some_iff.mp h
      cases e
      have shorter := ih h'
      simp only at shorter ⊢
      simp only [List.length_cons]
      omega

/-- A text cut at every occurrence of a character. -/
def cutAll (mark : Char) : List Char → List (List Char)
  | [] => [[]]
  | c :: cs =>
    match cutAll mark cs with
    | [] => [[]]
    | first :: others => if c = mark then [] :: first :: others else (c :: first) :: others

/-- The lines of a text; a line ends at a line feed, with an optional carriage return before
it, and a last line without text does not count. -/
def lines (cs : List Char) : List (List Char) :=
  let parts := cutAll '\n' cs
  let closed := parts.dropLast.map fun line =>
    match line.getLast? with
    | some '\r' => line.dropLast
    | _ => line
  match parts.getLast? with
  | some (c :: rest) => closed ++ [c :: rest]
  | _ => closed

/-- The lines of a text, each with the line feed that ends it. -/
def wholeLines : List Char → List (List Char)
  | [] => []
  | c :: cs =>
    if c = '\n' then [c] :: wholeLines cs
    else match wholeLines cs with
      | [] => [[c]]
      | line :: others => (c :: line) :: others

/-- The last part of a text cut at every occurrence of a character. -/
def lastPart (mark : Char) (cs : List Char) : List Char :=
  (cutAll mark cs).getLast?.getD []

/-- The decimal text of a number. -/
def natText (n : Nat) : List Char :=
  Nat.toDigits 10 n

end Toolshed.Text
