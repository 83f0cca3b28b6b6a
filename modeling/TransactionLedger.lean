import TransactionLedger.CommandLine.Arguments
import TransactionLedger.CommandLine.FileTree
import TransactionLedger.CommandLine.Run
import TransactionLedger.Config.Document
import TransactionLedger.Config.Environment
import TransactionLedger.Config.Search
import TransactionLedger.Config.Settings
import TransactionLedger.Config.Template
import TransactionLedger.Decimal.Binary64
import TransactionLedger.Decimal.Extended
import TransactionLedger.Decimal.Rounding
import TransactionLedger.Decimal.Shortest
import TransactionLedger.Filter.Basic
import TransactionLedger.Filter.BindValue
import TransactionLedger.Filter.Column
import TransactionLedger.Filter.Condition
import TransactionLedger.Http.Body
import TransactionLedger.Http.Error
import TransactionLedger.Http.Exchange
import TransactionLedger.Http.MediaType
import TransactionLedger.Http.Message
import TransactionLedger.Http.Route
import TransactionLedger.Http.Target
import TransactionLedger.Json.Basic
import TransactionLedger.Json.Lexer
import TransactionLedger.Json.Node
import TransactionLedger.Json.Numeral
import TransactionLedger.Json.Printer
import TransactionLedger.Json.RelaxedLexer
import TransactionLedger.Json.RelaxedSpelling
import TransactionLedger.Json.Shape
import TransactionLedger.Json.Spelling
import TransactionLedger.Json.Token
import TransactionLedger.Main
import TransactionLedger.Proofs.Config.Document
import TransactionLedger.Proofs.Config.Environment
import TransactionLedger.Proofs.Config.Pool
import TransactionLedger.Proofs.Config.Precedence
import TransactionLedger.Proofs.Config.Setting
import TransactionLedger.Proofs.Config.Template
import TransactionLedger.Proofs.Decimal.Binary64
import TransactionLedger.Proofs.Decimal.Drift
import TransactionLedger.Proofs.Decimal.Nearest
import TransactionLedger.Proofs.Decimal.Order
import TransactionLedger.Proofs.Decimal.Rounding
import TransactionLedger.Proofs.Decimal.SeventeenDigits
import TransactionLedger.Proofs.Decimal.Shortest
import TransactionLedger.Proofs.Filter.Binding
import TransactionLedger.Proofs.Filter.Compilation
import TransactionLedger.Proofs.Filter.Criteria
import TransactionLedger.Proofs.Filter.Leaf
import TransactionLedger.Proofs.Filter.Naming
import TransactionLedger.Proofs.Filter.Noninterference
import TransactionLedger.Proofs.Filter.Placeholder
import TransactionLedger.Proofs.Http.AppendOnly
import TransactionLedger.Proofs.Http.History
import TransactionLedger.Proofs.Http.Plan
import TransactionLedger.Proofs.Http.RequestId
import TransactionLedger.Proofs.Http.SearchAnswers
import TransactionLedger.Proofs.Http.Target
import TransactionLedger.Proofs.Json.Building
import TransactionLedger.Proofs.Json.LegibleNumber
import TransactionLedger.Proofs.Json.Lexer
import TransactionLedger.Proofs.Json.Numeral
import TransactionLedger.Proofs.Json.NumeralError
import TransactionLedger.Proofs.Json.NumeralValue
import TransactionLedger.Proofs.Json.PrintedNumber
import TransactionLedger.Proofs.Json.PrintedRecord
import TransactionLedger.Proofs.Json.Reading
import TransactionLedger.Proofs.Json.RelaxedDocument
import TransactionLedger.Proofs.Json.RelaxedLexer
import TransactionLedger.Proofs.Json.RereadNumber
import TransactionLedger.Proofs.Json.Roundtrip
import TransactionLedger.Proofs.Json.Shape
import TransactionLedger.Proofs.Outcome
import TransactionLedger.Proofs.Query.Checking
import TransactionLedger.Proofs.Query.Construction
import TransactionLedger.Proofs.Query.FieldPath
import TransactionLedger.Proofs.Query.PathLanguage
import TransactionLedger.Proofs.Query.PrintedDraft
import TransactionLedger.Proofs.Record.Chronology
import TransactionLedger.Proofs.Record.Conversion
import TransactionLedger.Proofs.Record.Ledger
import TransactionLedger.Proofs.Record.PrintedDocuments
import TransactionLedger.Proofs.Record.RecordDocument
import TransactionLedger.Proofs.Record.ReturnedTimes
import TransactionLedger.Proofs.Record.StoredNumbers
import TransactionLedger.Proofs.Sql.Fragment
import TransactionLedger.Proofs.Sql.Grammar
import TransactionLedger.Proofs.Sql.KindOrder
import TransactionLedger.Proofs.Sql.Lexeme
import TransactionLedger.Proofs.Sql.Limits
import TransactionLedger.Proofs.Sql.Payload
import TransactionLedger.Proofs.Sql.Position
import TransactionLedger.Proofs.Sql.Reading
import TransactionLedger.Proofs.Sql.Scalar
import TransactionLedger.Proofs.Sql.Scope
import TransactionLedger.Proofs.Sql.StoredPath
import TransactionLedger.Proofs.Sql.Truth
import TransactionLedger.Proofs.Store.Conjunction
import TransactionLedger.Proofs.Store.Failure
import TransactionLedger.Proofs.Store.Fragment
import TransactionLedger.Proofs.Store.Growth
import TransactionLedger.Proofs.Store.Judging
import TransactionLedger.Proofs.Store.Leaf
import TransactionLedger.Proofs.Store.Planner
import TransactionLedger.Proofs.Store.Range
import TransactionLedger.Proofs.Store.Readiness
import TransactionLedger.Proofs.Store.Recall
import TransactionLedger.Proofs.Store.Selection
import TransactionLedger.Proofs.Store.Site
import TransactionLedger.Proofs.Store.Startup
import TransactionLedger.Proofs.Text.Blank
import TransactionLedger.Proofs.Text.ByteOrder
import TransactionLedger.Proofs.Text.Digits
import TransactionLedger.Proofs.Text.Utf8
import TransactionLedger.Proofs.Timestamp.Calendar
import TransactionLedger.Proofs.Timestamp.Order
import TransactionLedger.Proofs.Timestamp.Reading
import TransactionLedger.Proofs.Timestamp.StoredBytes
import TransactionLedger.Proofs.Timestamp.Unambiguous
import TransactionLedger.Proofs.Timestamp.Validity
import TransactionLedger.Proofs.Timestamp.WrittenForms
import TransactionLedger.Proofs.Toml.Distinct
import TransactionLedger.Proofs.Toml.Lines
import TransactionLedger.Proofs.Toml.Quoted
import TransactionLedger.Proofs.Toml.Sections
import TransactionLedger.Query.Draft
import TransactionLedger.Query.DraftReader
import TransactionLedger.Query.Error
import TransactionLedger.Query.Expression
import TransactionLedger.Query.FieldPath
import TransactionLedger.Query.Operator
import TransactionLedger.Query.Search
import TransactionLedger.Record.Operations
import TransactionLedger.Record.RecordDocument
import TransactionLedger.Record.SearchDocument
import TransactionLedger.Sql.Error
import TransactionLedger.Sql.Evaluation
import TransactionLedger.Sql.Number
import TransactionLedger.Sql.Pattern
import TransactionLedger.Sql.Payload
import TransactionLedger.Sql.Statement
import TransactionLedger.Sql.Value
import TransactionLedger.Store.Database
import TransactionLedger.Store.Entry
import TransactionLedger.Store.Error
import TransactionLedger.Store.Planner
import TransactionLedger.Store.Selection
import TransactionLedger.Store.Startup
import TransactionLedger.Store.Table
import TransactionLedger.Text.Blank
import TransactionLedger.Text.Capital
import TransactionLedger.Text.Digits
import TransactionLedger.Text.Printable
import TransactionLedger.Text.Quoted
import TransactionLedger.Text.Utf8
import TransactionLedger.Timestamp.Calendar
import TransactionLedger.Timestamp.Instant
import TransactionLedger.Timestamp.Parser
import TransactionLedger.Timestamp.Printer
import TransactionLedger.Toml.Assembly
import TransactionLedger.Toml.Basic
import TransactionLedger.Toml.Number
import TransactionLedger.Toml.Parser
import TransactionLedger.Toml.Printer
import TransactionLedger.Toml.Quoted
import TransactionLedger.Toml.Scan
