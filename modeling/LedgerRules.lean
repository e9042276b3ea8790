import LedgerRules.Calendar.Date
import LedgerRules.Calendar.IsoDate
import LedgerRules.Calendar.MailDate
import LedgerRules.Calendar.Moment
import LedgerRules.Calendar.Timestamp
import LedgerRules.CommandLine.Arguments
import LedgerRules.CommandLine.Program
import LedgerRules.CommandLine.Usage
import LedgerRules.Digest.Base64
import LedgerRules.Digest.Sha256
import LedgerRules.Document.Basic
import LedgerRules.Document.Canonical
import LedgerRules.Document.Literal
import LedgerRules.Files.Basic
import LedgerRules.Files.Path
import LedgerRules.Json.Basic
import LedgerRules.Json.Reader
import LedgerRules.Json.Writer
import LedgerRules.Ledger.Catalog
import LedgerRules.Ledger.Entry
import LedgerRules.Ledger.Field
import LedgerRules.Ledger.Record
import LedgerRules.Log
import LedgerRules.Main
import LedgerRules.Number.Arithmetic
import LedgerRules.Number.Double
import LedgerRules.Number.Reader
import LedgerRules.Number.Shortest
import LedgerRules.Number.Text
import LedgerRules.Pattern.Character
import LedgerRules.Pattern.Fault
import LedgerRules.Pattern.Node
import LedgerRules.Pattern.Reader
import LedgerRules.Pattern.Scanner
import LedgerRules.Pattern.Search
import LedgerRules.Platform
import LedgerRules.Proofs.Calendar.DateText
import LedgerRules.Proofs.Calendar.IsoNotation
import LedgerRules.Proofs.Calendar.MailMoment
import LedgerRules.Proofs.CommandLine.Exit
import LedgerRules.Proofs.CommandLine.Unreported
import LedgerRules.Proofs.Document.Alike
import LedgerRules.Proofs.Document.Canonical
import LedgerRules.Proofs.Document.KeyOrder
import LedgerRules.Proofs.Document.Scalar
import LedgerRules.Proofs.Document.Shape
import LedgerRules.Proofs.Document.Written
import LedgerRules.Proofs.Files.Admission
import LedgerRules.Proofs.Files.Again
import LedgerRules.Proofs.Files.Node
import LedgerRules.Proofs.Files.Replace
import LedgerRules.Proofs.Json.AsciiString
import LedgerRules.Proofs.Json.WholeNumbers
import LedgerRules.Proofs.Ledger.Checked
import LedgerRules.Proofs.Ledger.Keys
import LedgerRules.Proofs.Ledger.Naming
import LedgerRules.Proofs.Ledger.Records
import LedgerRules.Proofs.Ledger.Rewriting
import LedgerRules.Proofs.Ledger.RoundTrip
import LedgerRules.Proofs.Ledger.Stamps
import LedgerRules.Proofs.Ledger.Update
import LedgerRules.Proofs.Ledger.WrittenBack
import LedgerRules.Proofs.Number.Digits
import LedgerRules.Proofs.Number.Interval
import LedgerRules.Proofs.Number.Layout
import LedgerRules.Proofs.Number.Numeral
import LedgerRules.Proofs.Number.Shortest
import LedgerRules.Proofs.Outcome
import LedgerRules.Proofs.Pattern.Excess
import LedgerRules.Proofs.Pattern.Reading
import LedgerRules.Proofs.Rules.Acceptance
import LedgerRules.Proofs.Rules.Alike
import LedgerRules.Proofs.Rules.AmountForm
import LedgerRules.Proofs.Rules.Appearance
import LedgerRules.Proofs.Rules.Changes
import LedgerRules.Proofs.Rules.Compliance
import LedgerRules.Proofs.Rules.Ended
import LedgerRules.Proofs.Rules.FirstMatch
import LedgerRules.Proofs.Rules.Grammar
import LedgerRules.Proofs.Rules.Independence
import LedgerRules.Proofs.Rules.Pending
import LedgerRules.Proofs.Rules.Reapply
import LedgerRules.Proofs.Rules.Refused
import LedgerRules.Proofs.Service.FirstPage
import LedgerRules.Proofs.Service.FirstRequest
import LedgerRules.Proofs.Service.Followed
import LedgerRules.Proofs.Service.Following
import LedgerRules.Proofs.Service.Form
import LedgerRules.Proofs.Service.LastModified
import LedgerRules.Proofs.Service.LinkHeader
import LedgerRules.Proofs.Service.LinkParameter
import LedgerRules.Proofs.Service.LinkValues
import LedgerRules.Proofs.Service.NextLink
import LedgerRules.Proofs.Service.Origins
import LedgerRules.Proofs.Service.Pages
import LedgerRules.Proofs.Service.RecordAddress
import LedgerRules.Proofs.Service.Relation
import LedgerRules.Proofs.Service.Segment
import LedgerRules.Proofs.Service.WebUrl
import LedgerRules.Proofs.Sync.Archive
import LedgerRules.Proofs.Sync.AskedCursor
import LedgerRules.Proofs.Sync.Causes
import LedgerRules.Proofs.Sync.Completed
import LedgerRules.Proofs.Sync.Coverage
import LedgerRules.Proofs.Sync.Errors
import LedgerRules.Proofs.Sync.InOrder
import LedgerRules.Proofs.Sync.Inversion
import LedgerRules.Proofs.Sync.KeptCursor
import LedgerRules.Proofs.Sync.Phases
import LedgerRules.Proofs.Sync.Planned
import LedgerRules.Proofs.Sync.Preparing
import LedgerRules.Proofs.Sync.Preview
import LedgerRules.Proofs.Sync.Provenance
import LedgerRules.Proofs.Sync.Recording
import LedgerRules.Proofs.Sync.Reread
import LedgerRules.Proofs.Sync.Retry
import LedgerRules.Proofs.Sync.SavedState
import LedgerRules.Proofs.Sync.SecondRun
import LedgerRules.Proofs.Sync.Shelf
import LedgerRules.Proofs.Sync.Stages
import LedgerRules.Proofs.Sync.StateFile
import LedgerRules.Proofs.Sync.StateText
import LedgerRules.Proofs.Sync.Trace
import LedgerRules.Proofs.Sync.Updates
import LedgerRules.Proofs.Text.LineBreak
import LedgerRules.Proofs.Text.Split
import LedgerRules.Proofs.Text.Utf8
import LedgerRules.Rules.AmountFilter
import LedgerRules.Rules.Compile
import LedgerRules.Rules.Diff
import LedgerRules.Rules.Error
import LedgerRules.Rules.File
import LedgerRules.Rules.Rule
import LedgerRules.Rules.Run
import LedgerRules.Service.Client
import LedgerRules.Service.Config
import LedgerRules.Service.Host
import LedgerRules.Service.Link
import LedgerRules.Service.Request
import LedgerRules.Service.Transport
import LedgerRules.Service.Url
import LedgerRules.Sync.Run
import LedgerRules.Sync.Service
import LedgerRules.Sync.State
import LedgerRules.Text.Blank
import LedgerRules.Text.Case
import LedgerRules.Text.CodeRanges
import LedgerRules.Text.Digit
import LedgerRules.Text.Identifier
import LedgerRules.Text.Letter
import LedgerRules.Text.LineBreak
import LedgerRules.Text.Printable
import LedgerRules.Text.Quoted
import LedgerRules.Text.Split
import LedgerRules.Text.Utf8
import LedgerRules.Yaml.BlockScalar
import LedgerRules.Yaml.Fault
import LedgerRules.Yaml.FlowScalar
import LedgerRules.Yaml.Node
import LedgerRules.Yaml.Number
import LedgerRules.Yaml.Plain
import LedgerRules.Yaml.Source
import LedgerRules.Yaml.Tag
import LedgerRules.Yaml.Time
import LedgerRules.Yaml.Token
import LedgerRules.Yaml.Value
