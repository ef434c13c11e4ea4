import SeedCoverage.Catalog
import SeedCoverage.CommandLine.Arguments
import SeedCoverage.CommandLine.Options
import SeedCoverage.CommandLine.Program
import SeedCoverage.Config.Basic
import SeedCoverage.Config.Reader
import SeedCoverage.Config.Sources
import SeedCoverage.Corpus.Discovery
import SeedCoverage.Corpus.Scan
import SeedCoverage.Coverage.Percent
import SeedCoverage.Coverage.Report
import SeedCoverage.Coverage.Tally
import SeedCoverage.Failure
import SeedCoverage.Files.Path
import SeedCoverage.Files.Tree
import SeedCoverage.Files.Walk
import SeedCoverage.Json.Basic
import SeedCoverage.Json.Number
import SeedCoverage.Json.Reader
import SeedCoverage.Main
import SeedCoverage.Number.Decimal
import SeedCoverage.Number.Fraction
import SeedCoverage.Remote.Collect
import SeedCoverage.Remote.Fault
import SeedCoverage.Remote.Fetch
import SeedCoverage.Remote.Reply
import SeedCoverage.Remote.Request
import SeedCoverage.Remote.Session
import SeedCoverage.Remote.Status
import SeedCoverage.Remote.Store
import SeedCoverage.Render.Data
import SeedCoverage.Render.Format
import SeedCoverage.Render.Markdown
import SeedCoverage.Render.Samples
import SeedCoverage.Render.Style
import SeedCoverage.Render.Terminal
import SeedCoverage.Run.Report
import SeedCoverage.Sql.Comment
import SeedCoverage.Sql.Insert
import SeedCoverage.Sql.Literal
import SeedCoverage.Sql.Scan
import SeedCoverage.Sql.Search
import SeedCoverage.Sql.Split
import SeedCoverage.Sql.State
import SeedCoverage.Sql.Statement
import SeedCoverage.Sql.TableName
import SeedCoverage.Text.Basic
import SeedCoverage.Text.Blank
import SeedCoverage.Text.Digits
import SeedCoverage.Text.Offset
import SeedCoverage.Text.Utf8
import SeedCoverage.Toml.Basic
import SeedCoverage.Toml.Quoted
import SeedCoverage.Toml.Reader
import SeedCoverage.Toml.Scalar
import SeedCoverage.Toml.Table
import SeedCoverage.Unicode.Composition
import SeedCoverage.Unicode.Direction
import SeedCoverage.Unicode.Joining
import SeedCoverage.Unicode.Mapping
import SeedCoverage.Unicode.Table
import SeedCoverage.Url.Basic
import SeedCoverage.Url.Host
import SeedCoverage.Url.Login
import SeedCoverage.Url.Name
import SeedCoverage.Url.Percent
import SeedCoverage.Url.Punycode
import SeedCoverage.Yaml.Printer
import SeedCoverage.Yaml.Scalar
import SeedCoverage.Proofs.Catalog.Lookup
import SeedCoverage.Proofs.Corpus.Conflict
import SeedCoverage.Proofs.Corpus.Dataset
import SeedCoverage.Proofs.Corpus.Seam
import SeedCoverage.Proofs.Coverage.Counts
import SeedCoverage.Proofs.Coverage.LiteralSelect
import SeedCoverage.Proofs.Coverage.Order
import SeedCoverage.Proofs.Coverage.Verdicts
import SeedCoverage.Proofs.Reading.Balanced
import SeedCoverage.Proofs.Reading.Identifier
import SeedCoverage.Proofs.Reading.Join
import SeedCoverage.Proofs.Reading.Literal
import SeedCoverage.Proofs.Reading.Place
import SeedCoverage.Proofs.Reading.Seam
import SeedCoverage.Proofs.Script.Carving
import SeedCoverage.Proofs.Script.Extract
import SeedCoverage.Proofs.Script.Sealed
import SeedCoverage.Proofs.Script.Spacing
import SeedCoverage.Proofs.Script.Strip
import SeedCoverage.Proofs.Search.Phrase
import SeedCoverage.Proofs.Search.Skip
import SeedCoverage.Proofs.Split.Cells
import SeedCoverage.Proofs.Split.Union
import SeedCoverage.Proofs.Statement.Align
import SeedCoverage.Proofs.Statement.Head
import SeedCoverage.Proofs.Statement.Record
import SeedCoverage.Proofs.Statement.Select
import SeedCoverage.Proofs.Statement.Value
import SeedCoverage.Proofs.Statement.Values
import SeedCoverage.Proofs.Text.Trim
import SeedCoverage.Proofs.Coverage.Fold
import SeedCoverage.Proofs.Coverage.Gaps
import SeedCoverage.Proofs.Coverage.Balance
import SeedCoverage.Proofs.Coverage.Ledger
import SeedCoverage.Proofs.Coverage.Growth
import SeedCoverage.Proofs.Coverage.Room
import SeedCoverage.Proofs.Remote.Page
import SeedCoverage.Proofs.Remote.Attempts
import SeedCoverage.Proofs.Remote.Course
import SeedCoverage.Proofs.Remote.Paging
import SeedCoverage.Proofs.Remote.Arrival
import SeedCoverage.Proofs.Remote.Agreement
import SeedCoverage.Proofs.Text.Includes
import SeedCoverage.Proofs.Script.Whitespace
import SeedCoverage.Proofs.Run.Fallback
import SeedCoverage.Proofs.Text.Case
import SeedCoverage.Proofs.Case.Reading
import SeedCoverage.Proofs.Case.Statement
import SeedCoverage.Proofs.Case.Coverage
import SeedCoverage.Proofs.Bytes.Octets
import SeedCoverage.Proofs.Bytes.Cut
import SeedCoverage.Proofs.Bytes.Reading
import SeedCoverage.Proofs.Bytes.Search
import SeedCoverage.Proofs.Bytes.Split
import SeedCoverage.Proofs.Bytes.Script
import SeedCoverage.Proofs.Bytes.Rows
import SeedCoverage.Proofs.Bytes.Statement
import SeedCoverage.Proofs.Bytes.Coverage
import SeedCoverage.Proofs.Coverage.Bulk
import SeedCoverage.Proofs.Coverage.Places
import SeedCoverage.Proofs.Coverage.TailClause
import SeedCoverage.Proofs.Script.Automaton
import SeedCoverage.Proofs.Statement.Tail
import SeedCoverage.Proofs.Reading.Lexical
import SeedCoverage.Proofs.Script.Uncommented
import SeedCoverage.Proofs.Split.Stable
import SeedCoverage.Proofs.Script.Extraction
import SeedCoverage.Proofs.Coverage.Accounting
import SeedCoverage.Proofs.Statement.Groups
import SeedCoverage.Proofs.Statement.Literal
import SeedCoverage.Proofs.Remote.Passing
import SeedCoverage.Proofs.Remote.Waits
import SeedCoverage.Proofs.Number.Rounding
import SeedCoverage.Proofs.Coverage.Gate
import SeedCoverage.Proofs.Result
import SeedCoverage.Proofs.Search.Closing
import SeedCoverage.Proofs.Split.Occurrences
import SeedCoverage.Proofs.Catalog.Consistent
import SeedCoverage.Proofs.Files.Order
import SeedCoverage.Proofs.Files.Plain
import SeedCoverage.Proofs.Files.Join
import SeedCoverage.Proofs.Files.Walk
import SeedCoverage.Proofs.Corpus.Discovery
import SeedCoverage.Proofs.Corpus.Overlap
import SeedCoverage.Proofs.Text.Pieces
import SeedCoverage.Proofs.Corpus.Sampling
import SeedCoverage.Proofs.Corpus.Losses
import SeedCoverage.Proofs.Files.Spelling
import SeedCoverage.Proofs.Files.Below
import SeedCoverage.Proofs.Corpus.Selection
import SeedCoverage.Proofs.Render.Table
import SeedCoverage.Proofs.Statement.Reference
import SeedCoverage.Proofs.Config.Precedence
import SeedCoverage.Proofs.Render.Plain
import SeedCoverage.Proofs.Render.Structured
import SeedCoverage.Proofs.Render.Colour
