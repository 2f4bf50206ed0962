import Timephrase.Calendar.Date
import Timephrase.Calendar.Grain
import Timephrase.Calendar.LocalTime
import Timephrase.Calendar.Moment
import Timephrase.Calendar.Rfc3339
import Timephrase.Calendar.Shift
import Timephrase.Captures
import Timephrase.Catalog
import Timephrase.CommandLine.Arguments
import Timephrase.CommandLine.Elapsed
import Timephrase.CommandLine.Report
import Timephrase.CommandLine.Run
import Timephrase.Context
import Timephrase.Description
import Timephrase.Duration
import Timephrase.Duration.Text
import Timephrase.English.AtTime
import Timephrase.English.Catalog
import Timephrase.English.DatePhrase
import Timephrase.English.DayWord
import Timephrase.English.ForPhrase
import Timephrase.English.InPhrase
import Timephrase.English.Vocabulary
import Timephrase.English.ZonePhrase
import Timephrase.Failure
import Timephrase.Features
import Timephrase.Main
import Timephrase.Number.Binary64
import Timephrase.Number.Decimal
import Timephrase.Number.Integer
import Timephrase.Parser
import Timephrase.Pattern.Basic
import Timephrase.Pattern.Bracket
import Timephrase.Pattern.CharSet
import Timephrase.Pattern.Compose
import Timephrase.Pattern.Escape
import Timephrase.Pattern.Fault
import Timephrase.Pattern.Match
import Timephrase.Pattern.Places
import Timephrase.Pattern.Reader
import Timephrase.Pattern.Size
import Timephrase.Pattern.Spelling
import Timephrase.Proofs.Calendar.Carry
import Timephrase.Proofs.Calendar.DayCount
import Timephrase.Proofs.Calendar.DayStart
import Timephrase.Proofs.Calendar.Fields
import Timephrase.Proofs.Calendar.Fraction
import Timephrase.Proofs.Calendar.MonthShift
import Timephrase.Proofs.Calendar.Move
import Timephrase.Proofs.Calendar.Radix
import Timephrase.Proofs.Calendar.Range
import Timephrase.Proofs.Calendar.Rollover
import Timephrase.Proofs.Calendar.ShiftSum
import Timephrase.Proofs.Calendar.Sum
import Timephrase.Proofs.Calendar.Timestamp
import Timephrase.Proofs.Calendar.WholeAmount
import Timephrase.Proofs.Calendar.WordShift
import Timephrase.Proofs.Captures
import Timephrase.Proofs.Catalog.History
import Timephrase.Proofs.CommandLine.Argument
import Timephrase.Proofs.CommandLine.Color
import Timephrase.Proofs.CommandLine.Options
import Timephrase.Proofs.CommandLine.Run
import Timephrase.Proofs.Duration.Text
import Timephrase.Proofs.English.Amount
import Timephrase.Proofs.English.Appointment
import Timephrase.Proofs.English.AsciiCase
import Timephrase.Proofs.English.AtTime
import Timephrase.Proofs.English.Catalog
import Timephrase.Proofs.English.Clock
import Timephrase.Proofs.English.ClockFound
import Timephrase.Proofs.English.DateFields
import Timephrase.Proofs.English.DatePhrase
import Timephrase.Proofs.English.DayShape
import Timephrase.Proofs.English.Failing
import Timephrase.Proofs.English.Gating
import Timephrase.Proofs.English.Length
import Timephrase.Proofs.English.LengthSum
import Timephrase.Proofs.English.LongestCode
import Timephrase.Proofs.English.Margin
import Timephrase.Proofs.English.Month
import Timephrase.Proofs.English.Node
import Timephrase.Proofs.English.PrintedTime
import Timephrase.Proofs.English.Seam
import Timephrase.Proofs.English.ShiftFailure
import Timephrase.Proofs.English.UnitWord
import Timephrase.Proofs.English.WallClock
import Timephrase.Proofs.English.WordEdge
import Timephrase.Proofs.English.Wording
import Timephrase.Proofs.English.ZoneCode
import Timephrase.Proofs.English.ZoneOnClock
import Timephrase.Proofs.English.ZoneRange
import Timephrase.Proofs.Number.Decimal
import Timephrase.Proofs.Number.Rounding
import Timephrase.Proofs.Number.Whole
import Timephrase.Proofs.Pattern.Caseless
import Timephrase.Proofs.Pattern.Edge
import Timephrase.Proofs.Pattern.Elsewhere
import Timephrase.Proofs.Pattern.Finding
import Timephrase.Proofs.Pattern.Group
import Timephrase.Proofs.Pattern.Need
import Timephrase.Proofs.Pattern.Order
import Timephrase.Proofs.Pattern.Outline
import Timephrase.Proofs.Pattern.Place
import Timephrase.Proofs.Pattern.Reading
import Timephrase.Proofs.Pattern.Recoding
import Timephrase.Proofs.Pattern.Row
import Timephrase.Proofs.Pattern.Way
import Timephrase.Proofs.Pattern.Yield
import Timephrase.Proofs.Residual
import Timephrase.Proofs.Residual.Torn
import Timephrase.Proofs.Residual.Words
import Timephrase.Proofs.Result
import Timephrase.Proofs.Run.Account
import Timephrase.Proofs.Run.Again
import Timephrase.Proofs.Run.Calls
import Timephrase.Proofs.Run.First
import Timephrase.Proofs.Run.Gate
import Timephrase.Proofs.Run.Halves
import Timephrase.Proofs.Run.Reach
import Timephrase.Proofs.Run.Removal
import Timephrase.Proofs.Run.Sequence
import Timephrase.Proofs.Run.Slice
import Timephrase.Proofs.Run.Trace
import Timephrase.Proofs.Text.AsciiCase
import Timephrase.Proofs.Text.Blank
import Timephrase.Proofs.Text.Decoding
import Timephrase.Proofs.Text.Kind
import Timephrase.Proofs.Text.Numeral
import Timephrase.Proofs.Text.Utf8
import Timephrase.Proofs.Text.Words
import Timephrase.Proofs.Zone.Showing
import Timephrase.Property.Basic
import Timephrase.Property.Lookup
import Timephrase.Property.Table.Age
import Timephrase.Property.Table.Binary
import Timephrase.Property.Table.Break
import Timephrase.Property.Table.Category
import Timephrase.Property.Table.Script
import Timephrase.Property.Table.ScriptExtension
import Timephrase.Residual
import Timephrase.Rule
import Timephrase.Run.Calls
import Timephrase.Run.Fold
import Timephrase.Run.Trace
import Timephrase.Span
import Timephrase.Text.Blank
import Timephrase.Text.CaseRun
import Timephrase.Text.Digits
import Timephrase.Text.Folding
import Timephrase.Text.Letter
import Timephrase.Text.Lowercase
import Timephrase.Text.Quoted
import Timephrase.Text.Ranges
import Timephrase.Text.Utf8
import Timephrase.Text.Word
import Timephrase.Zone.Basic
import Timephrase.Zone.Code
import Timephrase.Zone.Table.Africa
import Timephrase.Zone.Table.America
import Timephrase.Zone.Table.Asia
import Timephrase.Zone.Table.Australasia
import Timephrase.Zone.Table.Europe
import Timephrase.Zone.Table.Fixed
