import RowBinding.Main
import RowBinding.Proofs.Text.Runs
import RowBinding.Proofs.Text.Trim
import RowBinding.Proofs.Declaration.Grammar
import RowBinding.Proofs.Declaration.Acceptance
import RowBinding.Proofs.Binding.Numbering
import RowBinding.Proofs.Json.Strings
import RowBinding.Proofs.Json.Nested
import RowBinding.Proofs.Config.RoundTrip
import RowBinding.Proofs.Declaration.Layout
import RowBinding.Proofs.Request.Joined
import RowBinding.Proofs.Reading.Standard
import RowBinding.Proofs.Binding.Standard
import RowBinding.Proofs.Request.SameObject
import RowBinding.Proofs.Letter.Case
import RowBinding.Proofs.Letter.Forms
import RowBinding.Proofs.Column.Characters
import RowBinding.Proofs.Column.Joined
import RowBinding.Proofs.Column.Literals
import RowBinding.Proofs.Text.Lines
import RowBinding.Proofs.Request.LineStructure
import RowBinding.Proofs.Letter.Ascii
import RowBinding.Proofs.Text.Closed
import RowBinding.Proofs.Text.Printable
import RowBinding.Proofs.Request.ClosedLines
import RowBinding.Proofs.CommandLine.Agreement
import RowBinding.Proofs.CommandLine.Effects
import RowBinding.Proofs.CommandLine.Rearranged
import RowBinding.Proofs.CommandLine.Overrides
import RowBinding.Proofs.Config.Shape
import RowBinding.Proofs.Config.Policies
import RowBinding.Proofs.Config.NestedPolicy
import RowBinding.Proofs.Config.Positional
import RowBinding.Proofs.Request.Outcome
import RowBinding.Proofs.Request.Skipped
import RowBinding.Proofs.Column.Renewed
import RowBinding.Proofs.Request.Registered
import RowBinding.Proofs.Declaration.Message
