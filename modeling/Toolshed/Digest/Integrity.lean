import Toolshed.Digest.Sha256
import Toolshed.Json.Canonical
import Toolshed.Text.Case
import Toolshed.Text.Blank

/-!
# Integrity hashes

The hash of an item is the digest of the canonical text of what identifies it, so the order of
members does not count.  An expected hash may be shortened to its first digits.
-/

namespace Toolshed.Integrity

open Json

/-- The digest of the canonical text of a value. -/
def hashOf (payload : Value) : String :=
  Digest.sha256Text (String.ofList payload.canonical)

/-- The hash of a tool. -/
def hashTool (id version : String) (manifest : Value) (files : List Value) : String :=
  hashOf (.object [("tool_id", .string id), ("version", .string version), ("manifest", manifest),
    ("files", .array files)])

/-- The hash of a directive. -/
def hashDirective (name version content : String) (metadata : Option Value) : String :=
  hashOf (.object [("name", .string name), ("version", .string version),
    ("xml_content", .string content), ("metadata", metadata.getD (.object []))])

/-- The hash of a knowledge entry. -/
def hashKnowledge (id version content : String) (metadata : Option Value) : String :=
  hashOf (.object [("id", .string id), ("version", .string version),
    ("content", .string content), ("metadata", metadata.getD (.object []))])

/-- The number of digits of a whole hash. -/
def hashLength : Nat := 64

/-- An expected hash without blanks and the name of the digest, in lowercase. -/
def normalExpected (expected : String) : String :=
  let text := Text.trim expected
  Text.lower ((Text.stripStart? "sha256:" text).getD text)

/-- A hash is the expected one, or starts with it if that is shortened. -/
def agrees (expected actual : String) : Bool :=
  let expected := normalExpected expected
  let actual := Text.lower actual
  if expected.utf8ByteSize < hashLength then expected.toList.isPrefixOf actual.toList
  else actual = expected

/-- A hash satisfies an expectation; none, and a blank one, are always satisfied. -/
def satisfies (expected : Option String) (actual : String) : Bool :=
  match expected with
  | some expected => if Text.trim expected = "" then true else agrees (Text.trim expected) actual
  | none => true

end Toolshed.Integrity
