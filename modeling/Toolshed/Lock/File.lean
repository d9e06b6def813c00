import Toolshed.Json.Printer
import Toolshed.Json.Reader
import Toolshed.Json.Record
import Toolshed.Lock.Name

/-!
# Lockfiles

A lockfile pins a version of a tool to its hash and to the chain that it ran through.  It is kept
as JSON.
-/

namespace Toolshed.Lock

open Json

/-- What a lockfile holds. -/
structure Lockfile where
  formatVersion : Nat
  generatedAt : String
  pin : Pin
  integrity : String
  chain : List Value
deriving Inhabited

namespace Lockfile

/-- The version of the format. -/
def currentFormat : Nat := 1

/-- A lockfile of the current format. -/
def create (generatedAt : String) (pin : Pin) (integrity : String) (chain : List Value) :
    Lockfile :=
  ⟨currentFormat, generatedAt, pin, integrity, chain⟩

/-- The value that describes a lockfile. -/
def toJson (l : Lockfile) : Value :=
  .object [("lockfile_version", .ofInt l.formatVersion),
    ("generated_at", .string l.generatedAt),
    ("root", .object [("tool_id", .string l.pin.tool), ("version", .string l.pin.version),
      ("integrity", .string l.integrity)]),
    ("resolved_chain", .array l.chain)]

/-- The text of a lockfile. -/
def text (l : Lockfile) : String :=
  String.ofList (l.toJson.pretty 0)

/-- An integer of at most 32 bits that is not negative. -/
def word? (v : Value) : Option Nat :=
  v.natural?.filter fun n => n < Nat.pow 2 32

/-- The values of a list. -/
def values? : Value → Option (List Value)
  | .array items => some (items.map Value.merged)
  | _ => none

/-- What the root of a lockfile pins, and to which hash. -/
def rootOfJson? (v : Value) : Option (Pin × String) := do
  let fields ← distinctFields? ["tool_id", "version", "integrity"] v
  let tool ← required? fields "tool_id" Value.string?
  let version ← required? fields "version" Value.string?
  let integrity ← required? fields "integrity" Value.string?
  pure (⟨tool, version⟩, integrity)

/-- The lockfile that a value describes, in which repeated keys are kept. -/
def ofJson? (v : Value) : Option Lockfile := do
  let fields ← distinctFields? ["lockfile_version", "generated_at", "root", "resolved_chain"] v
  let formatVersion ← required? fields "lockfile_version" word?
  let generatedAt ← required? fields "generated_at" Value.string?
  let (pin, integrity) ← required? fields "root" rootOfJson?
  let chain ← field? fields "resolved_chain" [] values?
  pure ⟨formatVersion, generatedAt, pin, integrity, chain⟩

/-- The lockfile that a text holds. -/
def parse? (text : String) : Option Lockfile :=
  (parseMembers? text.toList).bind ofJson?

end Lockfile

end Toolshed.Lock
