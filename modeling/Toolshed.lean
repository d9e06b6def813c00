import Toolshed.Assoc
import Toolshed.Cache
import Toolshed.Chain.Builder
import Toolshed.Chain.Execution
import Toolshed.Chain.Link
import Toolshed.Chain.Resolution
import Toolshed.Chain.Validation
import Toolshed.Decimal.Binary64
import Toolshed.Decimal.Reader
import Toolshed.Decimal.Shortest
import Toolshed.Digest.Identity
import Toolshed.Digest.Integrity
import Toolshed.Digest.Sha256
import Toolshed.Digest.Verification
import Toolshed.Directive
import Toolshed.Environment.EnvFile
import Toolshed.Environment.Expansion
import Toolshed.Environment.Layers
import Toolshed.Failure
import Toolshed.Files.Tree
import Toolshed.Files.TypeDirectory
import Toolshed.Files.Walk
import Toolshed.Format
import Toolshed.Frontmatter
import Toolshed.Host
import Toolshed.Interpreter
import Toolshed.Interpreter.Locator
import Toolshed.Item
import Toolshed.Json.Canonical
import Toolshed.Json.Printer
import Toolshed.Json.Reader
import Toolshed.Json.Record
import Toolshed.Json.Value
import Toolshed.Lock.File
import Toolshed.Lock.Name
import Toolshed.Lock.Store
import Toolshed.Manifest
import Toolshed.Manifest.File
import Toolshed.Path
import Toolshed.Proofs.Assoc
import Toolshed.Proofs.Cache.Entries
import Toolshed.Proofs.Cache.Ledger
import Toolshed.Proofs.Chain.Candidates
import Toolshed.Proofs.Chain.Declarations
import Toolshed.Proofs.Chain.Dispatch
import Toolshed.Proofs.Chain.Execution
import Toolshed.Proofs.Chain.Freshness
import Toolshed.Proofs.Chain.Keeping
import Toolshed.Proofs.Chain.Legality
import Toolshed.Proofs.Chain.Links
import Toolshed.Proofs.Chain.Precedence
import Toolshed.Proofs.Chain.Reach
import Toolshed.Proofs.Chain.Reading
import Toolshed.Proofs.Chain.Session
import Toolshed.Proofs.Chain.Spaces
import Toolshed.Proofs.Chain.Variables
import Toolshed.Proofs.Chain.Walk
import Toolshed.Proofs.Decimal.Digits
import Toolshed.Proofs.Decimal.Exact
import Toolshed.Proofs.Decimal.Rounding
import Toolshed.Proofs.Decimal.Shortest
import Toolshed.Proofs.Digest.Agreement
import Toolshed.Proofs.Digest.Expectations
import Toolshed.Proofs.Digest.Identity
import Toolshed.Proofs.Digest.Session
import Toolshed.Proofs.Digest.Tampering
import Toolshed.Proofs.Digest.Verification
import Toolshed.Proofs.Directive.Assignments
import Toolshed.Proofs.Directive.Attributes
import Toolshed.Proofs.Directive.Declaration
import Toolshed.Proofs.Directive.Identity
import Toolshed.Proofs.Environment.Layering
import Toolshed.Proofs.Environment.Order
import Toolshed.Proofs.Environment.References
import Toolshed.Proofs.Files.Allotment
import Toolshed.Proofs.Files.Changes
import Toolshed.Proofs.Files.Fingerprints
import Toolshed.Proofs.Files.Links
import Toolshed.Proofs.Files.Lookup
import Toolshed.Proofs.Files.Making
import Toolshed.Proofs.Files.Names
import Toolshed.Proofs.Files.Reaching
import Toolshed.Proofs.Files.Surface
import Toolshed.Proofs.Files.Writing
import Toolshed.Proofs.Frontmatter.Fences
import Toolshed.Proofs.Frontmatter.Identity
import Toolshed.Proofs.Frontmatter.LooseBlock
import Toolshed.Proofs.Json.Canonical
import Toolshed.Proofs.Json.Conversion
import Toolshed.Proofs.Json.Members
import Toolshed.Proofs.Json.Numbers
import Toolshed.Proofs.Json.Proper
import Toolshed.Proofs.Json.Reading
import Toolshed.Proofs.Json.Strings
import Toolshed.Proofs.Lock.Changes
import Toolshed.Proofs.Lock.History
import Toolshed.Proofs.Lock.Levels
import Toolshed.Proofs.Lock.Names
import Toolshed.Proofs.Lock.Observations
import Toolshed.Proofs.Path
import Toolshed.Proofs.Path.Inside
import Toolshed.Proofs.Query.Cursor
import Toolshed.Proofs.Query.Distance
import Toolshed.Proofs.Query.Fuzziness
import Toolshed.Proofs.Query.Globs
import Toolshed.Proofs.Query.Juxtaposition
import Toolshed.Proofs.Query.Keywords
import Toolshed.Proofs.Query.LetterCase
import Toolshed.Proofs.Query.Lookahead
import Toolshed.Proofs.Query.Printing
import Toolshed.Proofs.Query.Progress
import Toolshed.Proofs.Query.Regex
import Toolshed.Proofs.Search.Answers
import Toolshed.Proofs.Search.Dates
import Toolshed.Proofs.Search.Filters
import Toolshed.Proofs.Search.Hits
import Toolshed.Proofs.Search.Layout
import Toolshed.Proofs.Search.Pages
import Toolshed.Proofs.Search.Session
import Toolshed.Proofs.Shell.Lexer
import Toolshed.Proofs.Shell.Words
import Toolshed.Proofs.Source.ShellComment
import Toolshed.Proofs.Source.ShellFunction
import Toolshed.Proofs.Source.ShellLine
import Toolshed.Proofs.Source.Spelling
import Toolshed.Proofs.Template.Configuration
import Toolshed.Proofs.Template.Expansion
import Toolshed.Proofs.Template.Injection
import Toolshed.Proofs.Template.Pieces
import Toolshed.Proofs.Template.Segments
import Toolshed.Proofs.Text.Blanks
import Toolshed.Proofs.Text.Letters
import Toolshed.Proofs.Text.Runs
import Toolshed.Proofs.Timestamp.Calendar
import Toolshed.Proofs.Timestamp.Writing
import Toolshed.Proofs.Version.Bounds
import Toolshed.Proofs.Version.Front
import Toolshed.Proofs.Version.Numbers
import Toolshed.Proofs.Version.Order
import Toolshed.Proofs.Yaml.Proper
import Toolshed.Query.Basic
import Toolshed.Query.Distance
import Toolshed.Query.Glob
import Toolshed.Query.Reader
import Toolshed.Query.Regex
import Toolshed.Search.Engine
import Toolshed.Search.Filter
import Toolshed.Search.Hit
import Toolshed.Search.Options
import Toolshed.Search.Score
import Toolshed.Settings
import Toolshed.Shell.Quoting
import Toolshed.Source.JavaScript
import Toolshed.Source.JavaScript.Grammar
import Toolshed.Source.JavaScript.Lexeme
import Toolshed.Source.JavaScript.Statement
import Toolshed.Source.JavaScript.Tree
import Toolshed.Source.JavaScript.TypeExpression
import Toolshed.Source.Literal
import Toolshed.Source.Python
import Toolshed.Source.Python.Grammar
import Toolshed.Source.Python.Layout
import Toolshed.Source.Python.Statement
import Toolshed.Source.Python.Token
import Toolshed.Source.Python.Tree
import Toolshed.Source.Shell
import Toolshed.Space
import Toolshed.Template
import Toolshed.Text.Blank
import Toolshed.Text.Case
import Toolshed.Text.CaseTable
import Toolshed.Text.Class
import Toolshed.Text.IdentifierTable
import Toolshed.Text.LetterTable
import Toolshed.Text.Piece
import Toolshed.Text.Word
import Toolshed.Text.WordTable
import Toolshed.Timestamp
import Toolshed.Version
import Toolshed.Yaml.Cursor
import Toolshed.Yaml.Node
import Toolshed.Yaml.Reader
import Toolshed.Yaml.Scalar
import Toolshed.Yaml.Token
