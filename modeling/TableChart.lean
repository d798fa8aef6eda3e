import TableChart.Main
import TableChart.CommandLine.Written
import TableChart.Csv.Plain
import TableChart.Csv.Written
import TableChart.Proofs.Decimal.Canonical
import TableChart.Proofs.Decimal.ReadBack
import TableChart.Proofs.Filter.LongSymbols
import TableChart.Proofs.Filter.RoundTrip
import TableChart.Proofs.Filter.Selection
import TableChart.Proofs.Session.Choices
import TableChart.Proofs.Session.Derived
import TableChart.Proofs.Session.Loading
import TableChart.Proofs.Session.Loads
import TableChart.Proofs.Session.Points
import TableChart.Proofs.Session.Proposed
import TableChart.Proofs.Session.Reset
import TableChart.Proofs.Csv.WrittenRows
import TableChart.Proofs.Csv.RoundTrip
import TableChart.Proofs.Csv.Between
import TableChart.Proofs.Csv.Texts
import TableChart.Proofs.Binary64.Units
import TableChart.Proofs.Table.Limits
import TableChart.Proofs.CommandLine.Kept
import TableChart.Proofs.Report.Stages
import TableChart.Proofs.Report.Bars
import TableChart.Proofs.Report.ExitStatus
import TableChart.Proofs.Report.Rows
import TableChart.Proofs.Csv.Seams
import TableChart.Proofs.Decimal.Spelling
import TableChart.Proofs.Decimal.Value
import TableChart.Proofs.Filter.Consistency
import TableChart.Proofs.Filter.Comparison
import TableChart.Proofs.Session.Replaced
import TableChart.Proofs.Filter.ExactOrder
import TableChart.Proofs.Binary64.Nearest
import TableChart.Proofs.Csv.Unquoted
import TableChart.Proofs.Decimal.NearestNumber
import TableChart.Proofs.Table.Records
import TableChart.Proofs.Decimal.Fewest
import TableChart.Proofs.Decimal.ShortestDigits
import TableChart.Proofs.Table.NumericColumns
import TableChart.Proofs.CommandLine.ReadBack
import TableChart.Proofs.File.Trailing
import TableChart.Proofs.Decimal.Grouped
import TableChart.Proofs.Report.BarLengths
