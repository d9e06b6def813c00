import Toolshed.Json.Printer

/-!
# Failures

Everything that can go wrong, by its cause, with the text that reports it.
-/

namespace Toolshed

/-- The cause of an invalid input. -/
inductive InputFault where
  | unknownSpace (name : String)
  | unknownKind (name : String)
  | unsupportedFile (path : String)
deriving DecidableEq, Inhabited

/-- The text that reports an invalid input. -/
def InputFault.message : InputFault → String
  | .unknownSpace name => "unknown space: " ++ name
  | .unknownKind name => "unknown item type: " ++ name
  | .unsupportedFile path => "unsupported tool file: " ++ path

/-- The cause of a refused source or manifest. -/
inductive SourceFault where
  | brokenSyntax
  | manifestNotMapping
  | frontmatterNotMapping (found : Json.Value)

/-- The text that reports a refused source or manifest. -/
def SourceFault.message : SourceFault → String
  | .brokenSyntax => "source has syntax errors"
  | .manifestNotMapping => "tool manifest must be a mapping"
  | .frontmatterNotMapping found =>
    "frontmatter must be a mapping, got " ++ String.ofList found.compact

/-- The cause of a refused lockfile operation. -/
inductive LockFault where
  | readOnlySpace (space : String)
  | noSuchSpace (space : String)
deriving DecidableEq, Inhabited

/-- The text that reports a refused lockfile operation. -/
def LockFault.message : LockFault → String
  | .readOnlySpace space => "cannot write lockfiles to the " ++ space ++ " space"
  | .noSuchSpace space => "no " ++ space ++ " space configured for lockfiles"

/-- The cause of a failed access to a file. -/
inductive FileFault where
  | notFound
  | exists
  | notDirectory
  | isDirectory
  | nameTooLong
  | tooManyLinks
  | nulInPath
  | notUtf8
deriving DecidableEq, Inhabited

/-- The text that reports a failed access to a file. -/
def FileFault.message : FileFault → String
  | .notFound => "No such file or directory (os error 2)"
  | .exists => "File exists (os error 17)"
  | .notDirectory => "Not a directory (os error 20)"
  | .isDirectory => "Is a directory (os error 21)"
  | .nameTooLong => "File name too long (os error 36)"
  | .tooManyLinks => "Too many levels of symbolic links (os error 40)"
  | .nulInPath => "file name contained an unexpected NUL byte"
  | .notUtf8 => "stream did not contain valid UTF-8"

/-- The cause of a failure. -/
inductive Failure where
  | chainTooDeep (item : String) (limit : Nat)
  | circularDependency (item : String) (chain : List String)
  | input (fault : InputFault)
  | source (fault : SourceFault)
  | lock (fault : LockFault)
  | file (fault : FileFault)
  | json
  | yaml
  | envFile

/-- The text that reports a failure; a format that a text does not follow has no text of its
own. -/
def Failure.message? : Failure → Option String
  | .chainTooDeep item limit =>
    some ("Chain too deep (max " ++ toString limit ++ "): " ++ item ++
      ". Possible circular dependency or excessive nesting.")
  | .circularDependency item chain =>
    some ("Circular dependency detected: " ++ item ++ " (chain: " ++ " -> ".intercalate chain ++
      ")")
  | .input fault => some ("Invalid input: " ++ fault.message)
  | .source fault => some ("Parse error: " ++ fault.message)
  | .lock fault => some ("Lockfile error: " ++ fault.message)
  | .file fault => some ("IO error: " ++ fault.message)
  | .json => none
  | .yaml => none
  | .envFile => none

end Toolshed
