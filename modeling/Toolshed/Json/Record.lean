import Toolshed.Json.Value

/-!
# Records in JSON

A record is read from an object by the names of its fields, or from an array by their order.
Fields that are absent take their defaults, and unknown ones are passed over.
-/

namespace Toolshed.Json

/-- The fields of a record, by name, or in order from an array that is not too long. -/
def recordFields? (names : List String) : Value → Option Fields
  | .object members => some members
  | .array items => if items.length ≤ names.length then some (names.zip items) else none
  | _ => none

/-- The fields of a record none of which may be given twice. -/
def distinctFields? (names : List String) (v : Value) : Option Fields :=
  (recordFields? names v).filter fun fields =>
    names.all fun name => (fields.filter fun (key, _) => key = name).length ≤ 1

/-- A field that must be present, read in a given way. -/
def required? {α : Type} (fields : Fields) (name : String) (read : Value → Option α) : Option α :=
  (Assoc.get? name fields).bind read

/-- A field read in a given way, or its default when it is absent. -/
def field? {α : Type} (fields : Fields) (name : String) (default : α)
    (read : Value → Option α) : Option α :=
  match Assoc.get? name fields with
  | some v => read v
  | none => some default

/-- A value that may be null. -/
def nullable? {α : Type} (read : Value → Option α) : Value → Option (Option α)
  | .null => some none
  | v => (read v).map some

/-- A truth value. -/
def Value.bool? : Value → Option Bool
  | .bool b => some b
  | _ => none

/-- An integer that is not negative. -/
def Value.natural? : Value → Option Nat
  | .number (.int n) => if n < 0 then none else some n.toNat
  | _ => none

/-- A list of strings. -/
def Value.texts? : Value → Option (List String)
  | .array items => items.mapM Value.string?
  | _ => none

/-- A constant known by its name, written as a string or as the only member of an object, with
null as its value. -/
def named? {α : Type} (ofName? : String → Option α) : Value → Option α
  | .string s => ofName? s
  | .object [(s, .null)] => ofName? s
  | _ => none

end Toolshed.Json
