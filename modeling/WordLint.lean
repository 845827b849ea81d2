import WordLint.Automation.Sessions
import WordLint.Automation.Versions
import WordLint.Config.Files
import WordLint.Config.Names
import WordLint.Config.Rules
import WordLint.Config.Template
import WordLint.Decimal.Double
import WordLint.Decimal.Places
import WordLint.Decimal.Shortest
import WordLint.Diagnostic.Basic
import WordLint.Diagnostic.Journal
import WordLint.Diagnostic.Log
import WordLint.File.Tree
import WordLint.Lint.Host
import WordLint.Lint.Listener
import WordLint.Lint.Message
import WordLint.Lint.Recorded
import WordLint.Lint.Session
import WordLint.Lint.Step
import WordLint.Markup.Document
import WordLint.Markup.Event
import WordLint.Markup.Fault
import WordLint.Markup.Parser
import WordLint.Markup.Piece
import WordLint.Markup.Reference.Basic
import WordLint.Markup.Reference.CapitalNames
import WordLint.Markup.Reference.SmallNames
import WordLint.Markup.Subscriptions
import WordLint.Markup.Tag
import WordLint.Pattern.Basic
import WordLint.Pattern.Cache
import WordLint.Pattern.SlashForm
import WordLint.Proofs.Automation.Listing
import WordLint.Proofs.Automation.Naming
import WordLint.Proofs.Automation.Supported
import WordLint.Proofs.Config.Descriptions
import WordLint.Proofs.Config.Faults
import WordLint.Proofs.Config.Nearest
import WordLint.Proofs.Config.SearchFaults
import WordLint.Proofs.Config.Template
import WordLint.Proofs.Diagnostic.History
import WordLint.Proofs.Lint.Additive
import WordLint.Proofs.Lint.Cases
import WordLint.Proofs.Lint.Completed
import WordLint.Proofs.Lint.Endings
import WordLint.Proofs.Lint.Findings
import WordLint.Proofs.Lint.Hosting
import WordLint.Proofs.Lint.Isolation
import WordLint.Proofs.Lint.Outcomes
import WordLint.Proofs.Lint.Refusals
import WordLint.Proofs.Lint.Rendering
import WordLint.Proofs.Lint.Runs
import WordLint.Proofs.Lint.Shares
import WordLint.Proofs.Lint.SmallEvents
import WordLint.Proofs.Lint.Steps
import WordLint.Proofs.Lint.Stopping
import WordLint.Proofs.Lint.Yields
import WordLint.Proofs.Markup.Closing
import WordLint.Proofs.Markup.Delivery
import WordLint.Proofs.Markup.Dispatch
import WordLint.Proofs.Markup.ElementEnd
import WordLint.Proofs.Markup.ElementName
import WordLint.Proofs.Markup.Extent
import WordLint.Proofs.Markup.Hearing
import WordLint.Proofs.Markup.Parts
import WordLint.Proofs.Markup.Place
import WordLint.Proofs.Markup.RawContent
import WordLint.Proofs.Markup.Reference
import WordLint.Proofs.Markup.Reports
import WordLint.Proofs.Markup.Reuse
import WordLint.Proofs.Markup.RoundTrip
import WordLint.Proofs.Markup.Scanning
import WordLint.Proofs.Markup.TextRuns
import WordLint.Proofs.Markup.Tiling
import WordLint.Proofs.Markup.Token
import WordLint.Proofs.Pattern.Delimiting
import WordLint.Proofs.Pattern.Escaping
import WordLint.Proofs.Pattern.Meaning
import WordLint.Proofs.Pattern.PlainSearch
import WordLint.Proofs.Pattern.Remembering
import WordLint.Proofs.Pattern.SmallForms
import WordLint.Proofs.Pattern.Spans
import WordLint.Proofs.Pattern.Words
import WordLint.Proofs.Regex.Comments
import WordLint.Proofs.Regex.Following
import WordLint.Proofs.Regex.FollowingGroups
import WordLint.Proofs.Regex.FollowingItems
import WordLint.Proofs.Regex.FollowingPatterns
import WordLint.Proofs.Regex.Forward
import WordLint.Proofs.Regex.Plain
import WordLint.Proofs.Regex.Respelling
import WordLint.Proofs.Regex.RespellingGroups
import WordLint.Proofs.Regex.RespellingItems
import WordLint.Proofs.Regex.RespellingNames
import WordLint.Proofs.Regex.RespellingPatterns
import WordLint.Proofs.Regex.Rounds
import WordLint.Proofs.Regex.Scan
import WordLint.Proofs.Regex.Shape
import WordLint.Proofs.Rule.Admission
import WordLint.Proofs.Rule.Groups
import WordLint.Proofs.Text.Characters
import WordLint.Proofs.Text.Cuts
import WordLint.Proofs.Text.Digits
import WordLint.Proofs.Text.LetterCase
import WordLint.Proofs.Text.OneLine
import WordLint.Proofs.Text.SmallLetters
import WordLint.Proofs.Toml.Arrays
import WordLint.Proofs.Toml.Contracts
import WordLint.Proofs.Toml.Escapes
import WordLint.Proofs.Toml.LineByLine
import WordLint.Proofs.Toml.Lines
import WordLint.Proofs.Toml.Names
import WordLint.Proofs.Toml.Passing
import WordLint.Proofs.Toml.Tables
import WordLint.Proofs.Toml.Writing
import WordLint.Proofs.Trace.Layouts
import WordLint.Proofs.Trace.Openings
import WordLint.Proofs.Trace.Readings
import WordLint.Proofs.Trace.Reporting
import WordLint.Proofs.Trace.SetUp
import WordLint.Proofs.Trace.Settings
import WordLint.Proofs.Value.Compact
import WordLint.Proofs.Value.JsonReader
import WordLint.Proofs.Value.OneLine
import WordLint.Proofs.Value.Oversized
import WordLint.Proofs.Value.ReadBack
import WordLint.Proofs.Value.Shown
import WordLint.Regex.Failure
import WordLint.Regex.Matching
import WordLint.Regex.Reader
import WordLint.Regex.Search
import WordLint.Regex.Syntax
import WordLint.Regex.Token
import WordLint.Rule.Catalogue
import WordLint.Rule.Options
import WordLint.Rule.Schema
import WordLint.Text.Blank
import WordLint.Text.CaseTable
import WordLint.Text.Cut
import WordLint.Text.Digit
import WordLint.Text.Identifier
import WordLint.Text.Letter
import WordLint.Text.LetterCase
import WordLint.Text.Numeral
import WordLint.Text.Printable
import WordLint.Text.Quoted
import WordLint.Text.Ranges
import WordLint.Text.Utf8
import WordLint.Toml.Document
import WordLint.Toml.Draft
import WordLint.Toml.Name
import WordLint.Toml.Pass
import WordLint.Toml.Piece
import WordLint.Toml.Quote
import WordLint.Toml.ReadError
import WordLint.Toml.Scalar
import WordLint.Toml.Table
import WordLint.Toml.Written
import WordLint.Trace.Colour
import WordLint.Trace.Layout
import WordLint.Trace.Level
import WordLint.Trace.Note
import WordLint.Trace.Placeholder
import WordLint.Trace.Root
import WordLint.Value.Basic
import WordLint.Value.Calendar
import WordLint.Value.Display
import WordLint.Value.Json
import WordLint.Value.Place
