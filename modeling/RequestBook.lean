import RequestBook.Calendar.Date
import RequestBook.Calendar.Directive
import RequestBook.Calendar.Instant
import RequestBook.Calendar.Pattern
import RequestBook.CommandLine
import RequestBook.Decimal.Binary64
import RequestBook.Decimal.Shortest
import RequestBook.Document.Basic
import RequestBook.Document.Dependency
import RequestBook.Document.Diagnostic
import RequestBook.Document.Encoding
import RequestBook.Document.Line
import RequestBook.Document.Method
import RequestBook.Document.Reading
import RequestBook.Exchange.Basic
import RequestBook.Exchange.Store
import RequestBook.Json.Codec
import RequestBook.Json.Path
import RequestBook.Json.Printer
import RequestBook.Json.Reader
import RequestBook.Json.Token
import RequestBook.Json.Value
import RequestBook.Main
import RequestBook.Markup.Attribute
import RequestBook.Markup.Element
import RequestBook.Markup.Event
import RequestBook.Markup.Query
import RequestBook.Path
import RequestBook.Placeholder.Argument
import RequestBook.Placeholder.Generator
import RequestBook.Placeholder.Group
import RequestBook.Placeholder.Reference
import RequestBook.Proofs.Acceptance
import RequestBook.Proofs.Attribution
import RequestBook.Proofs.BlockReading
import RequestBook.Proofs.Blocks
import RequestBook.Proofs.Bytes
import RequestBook.Proofs.CaseFolding
import RequestBook.Proofs.Circle
import RequestBook.Proofs.Decoding
import RequestBook.Proofs.Dependency
import RequestBook.Proofs.DocumentOrder
import RequestBook.Proofs.ElementPlaces
import RequestBook.Proofs.Execution
import RequestBook.Proofs.Finality
import RequestBook.Proofs.Grammar
import RequestBook.Proofs.Groupwise
import RequestBook.Proofs.History
import RequestBook.Proofs.Independence
import RequestBook.Proofs.Isolation
import RequestBook.Proofs.JsonNesting
import RequestBook.Proofs.JsonPath
import RequestBook.Proofs.JsonRelay
import RequestBook.Proofs.JsonSorted
import RequestBook.Proofs.JsonText
import RequestBook.Proofs.Locality
import RequestBook.Proofs.Nesting
import RequestBook.Proofs.Occurrence
import RequestBook.Proofs.Positions
import RequestBook.Proofs.RequestForm
import RequestBook.Proofs.Roster
import RequestBook.Proofs.RoundTrip
import RequestBook.Proofs.Schedule
import RequestBook.Proofs.Selection
import RequestBook.Proofs.SourceOrder
import RequestBook.Proofs.Tidy
import RequestBook.Proofs.WellFormed
import RequestBook.Roster
import RequestBook.Schedule
import RequestBook.Session
import RequestBook.Settings
import RequestBook.Template
import RequestBook.Text.Blank
import RequestBook.Text.Case
import RequestBook.Text.CaseTable
import RequestBook.Text.Composition
import RequestBook.Text.CompositionTable
import RequestBook.Text.Cut
import RequestBook.Text.Digit
import RequestBook.Text.Identifier
import RequestBook.Text.MarkTable
import RequestBook.Text.Utf8
import RequestBook.Url.Address
import RequestBook.Url.Basic
import RequestBook.Url.Domain
import RequestBook.Url.DomainTable
import RequestBook.Url.Label
import RequestBook.Url.LabelTable
import RequestBook.Url.Punycode
import RequestBook.Proofs.SelectionOrder
import RequestBook.Proofs.TagNesting
import RequestBook.Proofs.PieceReading
import RequestBook.Proofs.EmptyTags
import RequestBook.Proofs.References
import RequestBook.Proofs.WalkSelection
import RequestBook.Proofs.CharacterSpelling
import RequestBook.Proofs.WrittenQuery
import RequestBook.Proofs.Dates
import RequestBook.Proofs.Months
import RequestBook.Proofs.Arguments
import RequestBook.Proofs.Offsets
import RequestBook.Proofs.Patterns
import RequestBook.Proofs.LineEnds
import RequestBook.Proofs.HeaderHistory
import RequestBook.Proofs.Settings
import RequestBook.Proofs.StandardDates
