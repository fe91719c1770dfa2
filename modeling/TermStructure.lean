import TermStructure.Calendar.Basic
import TermStructure.Calendar.Convention
import TermStructure.Calendar.HolidayText
import TermStructure.Calendar.Registry
import TermStructure.Command.Arguments
import TermStructure.Command.Curve
import TermStructure.Command.Error
import TermStructure.Command.LogFilter
import TermStructure.Command.Run
import TermStructure.Command.Settings
import TermStructure.Command.Table
import TermStructure.Currency
import TermStructure.Curve.Input
import TermStructure.Curve.Nodes
import TermStructure.Curve.Quotes
import TermStructure.Date.Basic
import TermStructure.Date.Civil
import TermStructure.Date.Reader
import TermStructure.Date.Shift
import TermStructure.DayCount.Basic
import TermStructure.DayCount.YearFraction
import TermStructure.Document.Decode
import TermStructure.Document.Encode
import TermStructure.Document.Format
import TermStructure.Document.Parse
import TermStructure.Document.Tree
import TermStructure.Document.Values
import TermStructure.Error
import TermStructure.File.Error
import TermStructure.File.Load
import TermStructure.File.Store
import TermStructure.Identifier
import TermStructure.Json.Lexer
import TermStructure.Json.Number
import TermStructure.Json.Place
import TermStructure.Json.Reader
import TermStructure.Json.Writer
import TermStructure.Main
import TermStructure.Number.Decimal
import TermStructure.Number.FloatText
import TermStructure.Number.Power
import TermStructure.Number.Shortest
import TermStructure.Pattern.Basic
import TermStructure.Pattern.CharSet
import TermStructure.Pattern.Escape
import TermStructure.Pattern.Reader
import TermStructure.Proofs.Calendar.Adjust
import TermStructure.Proofs.Calendar.Registry
import TermStructure.Proofs.Curve.Draft
import TermStructure.Proofs.Curve.Input
import TermStructure.Proofs.Curve.Maturities
import TermStructure.Proofs.Curve.Nodes
import TermStructure.Proofs.Date.Order
import TermStructure.Proofs.Date.Shift
import TermStructure.Proofs.Document.Messages
import TermStructure.Proofs.Document.Outcome
import TermStructure.Proofs.Document.Records
import TermStructure.Proofs.Document.Segments
import TermStructure.Proofs.FirstOf
import TermStructure.Proofs.Json.Documents
import TermStructure.Proofs.Json.Tokens
import TermStructure.Proofs.Table.Boundaries
import TermStructure.Proofs.Table.Building
import TermStructure.Proofs.Table.Construction
import TermStructure.Proofs.Table.Defect
import TermStructure.Proofs.Table.Lookup
import TermStructure.Proofs.Table.Run
import TermStructure.Proofs.Table.Tiling
import TermStructure.Proofs.Tenor.Order
import TermStructure.Proofs.Tenor.Text
import TermStructure.Report.Commas
import TermStructure.Report.Grid
import TermStructure.Report.Output
import TermStructure.Report.Sheet
import TermStructure.Table.Basic
import TermStructure.Table.Builder
import TermStructure.Table.Error
import TermStructure.Table.Interval
import TermStructure.Table.Search
import TermStructure.Table.Volatility
import TermStructure.Tenor.Basic
import TermStructure.Tenor.Order
import TermStructure.Tenor.Reader
import TermStructure.Text.Alphanumeric
import TermStructure.Text.Blank
import TermStructure.Text.Bytes
import TermStructure.Text.Capital
import TermStructure.Text.CharWidth
import TermStructure.Text.Emoji
import TermStructure.Text.EmojiSequence
import TermStructure.Text.Invisible
import TermStructure.Text.Ligature
import TermStructure.Text.Numeral
import TermStructure.Text.Quoted
import TermStructure.Text.Ranges
import TermStructure.Text.Scan
import TermStructure.Text.Width
import TermStructure.Toml.Moment
import TermStructure.Toml.Node
import TermStructure.Toml.Number
import TermStructure.Toml.Reader
import TermStructure.Toml.Text
import TermStructure.Proofs.Calendar.Months
import TermStructure.Proofs.Document.Restored
import TermStructure.Proofs.Table.Documents
import TermStructure.Proofs.Curve.Documents
import TermStructure.Proofs.Date.Words
import TermStructure.Proofs.DayCount.Words
import TermStructure.Proofs.Curve.Words
import TermStructure.Proofs.Calendar.Reach
import TermStructure.Proofs.Table.Editing
import TermStructure.Proofs.Table.Removal
import TermStructure.Proofs.Table.Position
import TermStructure.Proofs.Date.Months
import TermStructure.Proofs.Date.Tenors
import TermStructure.Proofs.DayCount.ThirtyDays
import TermStructure.Proofs.Number.Rounding
import TermStructure.Proofs.DayCount.Passes
import TermStructure.Proofs.DayCount.Accuracy
import TermStructure.Proofs.Tenor.Grammar
import TermStructure.Proofs.DayCount.WholeMonths
import TermStructure.Proofs.Calendar.Monotone
import TermStructure.Proofs.Curve.Quotes
import TermStructure.Proofs.Date.Readers
import TermStructure.Proofs.Calendar.HolidayText
import TermStructure.Proofs.Document.MemberOrder
import TermStructure.Proofs.Document.Rearranged
import TermStructure.Proofs.Tenor.Words
import TermStructure.Proofs.Table.Interval
import TermStructure.Proofs.Toml.Keys
import TermStructure.Proofs.Command.Settings
import TermStructure.Proofs.Command.Calendars
import TermStructure.Proofs.Command.CurveNodes
