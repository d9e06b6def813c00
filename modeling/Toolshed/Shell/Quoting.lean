import Toolshed.Text.Blank

/-!
# Quoting for a shell

A value that a shell would not take as it stands is put between single quotes.  Single quotes and
exclamation marks inside it are written outside of them, after a backslash.
-/

namespace Toolshed.Shell

/-- The characters that mean something to a shell. -/
def isMeta (c : Char) : Bool :=
  c ∈ ['$', ';', '|', '&', '<', '>', '(', ')', '\x7b', '\x7d', '[', ']', '\'', '"', '\\', '*', '?',
    '!', '#', '~'] || c.toNat = 0x60

/-- A shell would not take the value as it stands. -/
def needsQuoting (value : List Char) : Bool :=
  value.any fun c => Text.isBlank c || isMeta c

/-- A character between single quotes. -/
def quoteChar (c : Char) : List Char :=
  if c = '\'' ∨ c = '!' then ['\'', '\\', c, '\''] else [c]

/-- A value between single quotes. -/
def quote (value : List Char) : List Char :=
  '\'' :: value.flatMap quoteChar ++ ['\'']

/-- A value quoted if need be. -/
def quoteIfUnsafe (value : List Char) : List Char :=
  if needsQuoting value then quote value else value

end Toolshed.Shell
