import TypedFormat.Main
import TypedFormat.Proofs.Directive.Reading
import TypedFormat.Proofs.Supply.Drawing
import TypedFormat.Proofs.Supply.Pairing
import TypedFormat.Proofs.Supply.Substitution
import TypedFormat.Proofs.Directive.Continuation
import TypedFormat.Proofs.Format.Rendition
import TypedFormat.Proofs.Format.Concatenation
import TypedFormat.Proofs.Format.Leniency
import TypedFormat.Proofs.Conformance.Judging
import TypedFormat.Proofs.Format.Demand
import TypedFormat.Proofs.Format.Segmentation
import TypedFormat.Proofs.Format.Tiling
import TypedFormat.Proofs.Format.Localisation
import TypedFormat.Proofs.Outlet.Delivering
import TypedFormat.Proofs.Outlet.Exchanges
import TypedFormat.Proofs.Outlet.ConsoleLines
import TypedFormat.Proofs.Format.DrawnSizes
import TypedFormat.Proofs.Number.Numerals
import TypedFormat.Proofs.Number.Rounding
import TypedFormat.Proofs.Json.Spelling
import TypedFormat.Proofs.Json.Parsing
import TypedFormat.Proofs.Json.Reading
import TypedFormat.Proofs.Command.Judgment
import TypedFormat.Proofs.Command.Parts
import TypedFormat.Proofs.Conformance.SuiteText
import TypedFormat.Proofs.Json.Compact
import TypedFormat.Proofs.Json.FreeValues
import TypedFormat.Proofs.RunLog.EntryText
import TypedFormat.Proofs.RunLog.Numbering
import TypedFormat.Proofs.RunLog.Recording
import TypedFormat.Proofs.Command.Stages
import TypedFormat.Proofs.RunLog.CheckedLines
import TypedFormat.Proofs.Command.Loading
import TypedFormat.Proofs.Command.Outputs
import TypedFormat.Proofs.Conformance.Applying
import TypedFormat.Proofs.Supply.Ledger
import TypedFormat.Proofs.Supply.Serving
import TypedFormat.Proofs.Conformance.ReportText
import TypedFormat.Proofs.Number.Increment
import TypedFormat.Proofs.Number.HalfAway
import TypedFormat.Proofs.Files.Alike
import TypedFormat.Proofs.Command.Endings
import TypedFormat.Proofs.Command.Independence
import TypedFormat.Proofs.Directive.Viability
import TypedFormat.Proofs.Checked.Slicing
import TypedFormat.Proofs.Checked.Parsing
import TypedFormat.Proofs.Checked.Drawing
import TypedFormat.Proofs.Checked.Digits
import TypedFormat.Proofs.Checked.Rendering
import TypedFormat.Proofs.Checked.Formatting
import TypedFormat.Proofs.Layout.Widening
import TypedFormat.Proofs.Supply.Requirements
import TypedFormat.Proofs.Layout.Integers
import TypedFormat.Proofs.Text.Quoting
import TypedFormat.Proofs.Conformance.Hunks
import TypedFormat.Proofs.RunLog.Reencoding
import TypedFormat.Proofs.Number.Exactness
import TypedFormat.Proofs.Format.WrittenSizes
import TypedFormat.Proofs.Format.Fallback
import TypedFormat.Proofs.Format.Agreement
import TypedFormat.Proofs.Format.Escaping
import TypedFormat.Proofs.Format.Truncation
import TypedFormat.Proofs.Conformance.TaggedValues
import TypedFormat.Proofs.Calendar.Dates
import TypedFormat.Proofs.Calendar.Moments
import TypedFormat.Proofs.Number.Carrying
import TypedFormat.Proofs.Number.Ties
import TypedFormat.Proofs.Conformance.Markdown
import TypedFormat.Proofs.Files.Extensions
import TypedFormat.Proofs.Command.Reports
