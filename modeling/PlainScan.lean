import PlainScan.Acquisition.Acquire
import PlainScan.Acquisition.Basic
import PlainScan.Acquisition.Download
import PlainScan.Acquisition.Listing
import PlainScan.Analysis.Accessibility
import PlainScan.Analysis.Analyzer
import PlainScan.Analysis.Audit
import PlainScan.Analysis.Basic
import PlainScan.Analysis.Headings
import PlainScan.Analysis.Lint
import PlainScan.Analysis.Secrets
import PlainScan.Analysis.Tool
import PlainScan.CommandLine.Arguments
import PlainScan.CommandLine.Invocation
import PlainScan.CommandLine.Run
import PlainScan.Config.Basic
import PlainScan.Config.Document
import PlainScan.Config.Settings
import PlainScan.Console.ConstantToken
import PlainScan.Console.Emoji
import PlainScan.Console.EmojiTable
import PlainScan.Console.Handler
import PlainScan.Console.Markup
import PlainScan.Console.Style
import PlainScan.Console.Table
import PlainScan.Console.Wrap
import PlainScan.FileKind
import PlainScan.FilePath
import PlainScan.FileTree.Basic
import PlainScan.FileTree.RealPath
import PlainScan.FileTree.Standpoint
import PlainScan.FileTree.Walk
import PlainScan.Finding.Basic
import PlainScan.Finding.Identity
import PlainScan.Hash.Sha256
import PlainScan.Host
import PlainScan.Json.Basic
import PlainScan.Json.Display
import PlainScan.Json.Printer
import PlainScan.Json.Reader
import PlainScan.Main
import PlainScan.Number.Basic
import PlainScan.Number.Binary64
import PlainScan.Number.Decimal
import PlainScan.Panel
import PlainScan.Pattern.Basic
import PlainScan.Pattern.Build
import PlainScan.Proofs.Acquisition.Address
import PlainScan.Proofs.Acquisition.Area
import PlainScan.Proofs.Acquisition.Confinement
import PlainScan.Proofs.Acquisition.Exact
import PlainScan.Proofs.Acquisition.FileAddress
import PlainScan.Proofs.Acquisition.Plain
import PlainScan.Proofs.Acquisition.Requests
import PlainScan.Proofs.Acquisition.Selection
import PlainScan.Proofs.Acquisition.Spelling
import PlainScan.Proofs.Acquisition.Written
import PlainScan.Proofs.Analysis.Attributes
import PlainScan.Proofs.Analysis.Collecting
import PlainScan.Proofs.Analysis.Confidential
import PlainScan.Proofs.Analysis.Coverage
import PlainScan.Proofs.Analysis.EmptyElements
import PlainScan.Proofs.Analysis.FailedTools
import PlainScan.Proofs.Analysis.HeadingOrder
import PlainScan.Proofs.Analysis.Hits
import PlainScan.Proofs.Analysis.Identifiers
import PlainScan.Proofs.Analysis.Issues
import PlainScan.Proofs.Analysis.LineNumbers
import PlainScan.Proofs.Analysis.Relocation
import PlainScan.Proofs.Analysis.Reports
import PlainScan.Proofs.Analysis.Searching
import PlainScan.Proofs.Analysis.SecretTexts
import PlainScan.Proofs.Analysis.Tags
import PlainScan.Proofs.Analysis.Timeouts
import PlainScan.Proofs.Analysis.Transcription
import PlainScan.Proofs.Analysis.Unrooted
import PlainScan.Proofs.Analysis.Whereabouts
import PlainScan.Proofs.Config.Independence
import PlainScan.Proofs.Config.Keys
import PlainScan.Proofs.Config.Outcome
import PlainScan.Proofs.Config.Soundness
import PlainScan.Proofs.FileTree.Alike
import PlainScan.Proofs.FileTree.Contents
import PlainScan.Proofs.FileTree.Graft
import PlainScan.Proofs.FileTree.Listing
import PlainScan.Proofs.FileTree.Lookup
import PlainScan.Proofs.FileTree.Names
import PlainScan.Proofs.FileTree.Stack
import PlainScan.Proofs.FileTree.Stored
import PlainScan.Proofs.FileTree.Timeouts
import PlainScan.Proofs.FileTree.Visits
import PlainScan.Proofs.Finding.Encodable
import PlainScan.Proofs.Finding.Identity
import PlainScan.Proofs.Json.Equality
import PlainScan.Proofs.Json.Grammar
import PlainScan.Proofs.Json.Limits
import PlainScan.Proofs.Json.Plain
import PlainScan.Proofs.Json.Scalar
import PlainScan.Proofs.Number.Rounding
import PlainScan.Proofs.Pattern.Language
import PlainScan.Proofs.Pattern.Letters
import PlainScan.Proofs.Pattern.Search
import PlainScan.Proofs.Quota.Calls
import PlainScan.Proofs.Quota.Daily
import PlainScan.Proofs.Quota.Independence
import PlainScan.Proofs.Quota.Refusal
import PlainScan.Proofs.Quota.Usage
import PlainScan.Proofs.Reply.Array
import PlainScan.Proofs.Reply.Balance
import PlainScan.Proofs.Reply.Braces
import PlainScan.Proofs.Reply.CutOff
import PlainScan.Proofs.Reply.Envelope
import PlainScan.Proofs.Reply.Prose
import PlainScan.Proofs.Reply.Scattered
import PlainScan.Proofs.Reply.Surrounded
import PlainScan.Proofs.Scan.Admitted
import PlainScan.Proofs.Scan.Carried
import PlainScan.Proofs.Scan.Cleared
import PlainScan.Proofs.Scan.Coherence
import PlainScan.Proofs.Scan.Rationed
import PlainScan.Proofs.Scan.Reported
import PlainScan.Proofs.Scan.Repository
import PlainScan.Proofs.Scan.Stages
import PlainScan.Proofs.Text.Blank
import PlainScan.Proofs.Text.Lines
import PlainScan.Proofs.Text.LowerCase
import PlainScan.Proofs.Text.Surrogate
import PlainScan.Proofs.Time.Calendar
import PlainScan.Proofs.Translation.Accounts
import PlainScan.Proofs.Translation.Capping
import PlainScan.Proofs.Translation.Disposition
import PlainScan.Proofs.Translation.Good
import PlainScan.Proofs.Translation.Matching
import PlainScan.Proofs.Translation.Pairing
import PlainScan.Proofs.Translation.Preference
import PlainScan.Proofs.Translation.Shown
import PlainScan.Quota
import PlainScan.RepoUrl
import PlainScan.Report.Basic
import PlainScan.Report.Panels
import PlainScan.Report.Table
import PlainScan.Scan.Basic
import PlainScan.Scan.Run
import PlainScan.Scan.Services
import PlainScan.Scan.Stages
import PlainScan.Severity
import PlainScan.Text.Blank
import PlainScan.Text.Cells
import PlainScan.Text.CharTable
import PlainScan.Text.Clusters
import PlainScan.Text.Digit
import PlainScan.Text.Lines
import PlainScan.Text.LowerCase
import PlainScan.Text.Pieces
import PlainScan.Text.Printable
import PlainScan.Text.Similarity
import PlainScan.Text.Surrogate
import PlainScan.Text.Utf8
import PlainScan.Text.Word
import PlainScan.Time.Calendar
import PlainScan.Time.Instant
import PlainScan.Translation.Basic
import PlainScan.Translation.Candidates
import PlainScan.Translation.Prompt
import PlainScan.Translation.Validation
import PlainScan.WorkingArea
import PlainScan.Yaml.Basic
import PlainScan.Yaml.Composer
import PlainScan.Yaml.Document
import PlainScan.Yaml.Fault
import PlainScan.Yaml.Form
import PlainScan.Yaml.Lexer.Basic
import PlainScan.Yaml.Lexer.Block
import PlainScan.Yaml.Lexer.Name
import PlainScan.Yaml.Lexer.Plain
import PlainScan.Yaml.Lexer.Quoted
import PlainScan.Yaml.Lexer.Run
import PlainScan.Yaml.Merge
import PlainScan.Yaml.Moment
import PlainScan.Yaml.Numeral
import PlainScan.Yaml.Reader
import PlainScan.Yaml.Scalar
import PlainScan.Yaml.Survey
import PlainScan.Yaml.Tag
import PlainScan.Yaml.Token
