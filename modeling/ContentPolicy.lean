import ContentPolicy.Sorted.Map
import ContentPolicy.Text.Characters
import ContentPolicy.Text.Cut
import ContentPolicy.Text.LowerCase
import ContentPolicy.Text.Quoted
import ContentPolicy.Percent
import ContentPolicy.Scheme
import ContentPolicy.Uri.Parser
import ContentPolicy.Source
import ContentPolicy.Policy.Parser
import ContentPolicy.Json.Reader
import ContentPolicy.Json.Writer
import ContentPolicy.Directive.Violation
import ContentPolicy.LogEntry.Parser
import ContentPolicy.Toml.Reader
import ContentPolicy.Settings.Resolution
import ContentPolicy.File.Tree
import ContentPolicy.Main
import ContentPolicy.Proofs.Sorted.Map
import ContentPolicy.Proofs.Text.Characters
import ContentPolicy.Proofs.Text.Pieces
import ContentPolicy.Proofs.Text.LowerCase
import ContentPolicy.Proofs.Percent.RoundTrip
import ContentPolicy.Proofs.Percent.Segments
import ContentPolicy.Proofs.File.Lines
import ContentPolicy.Proofs.Uri.Cuts
import ContentPolicy.Proofs.Uri.Parts
import ContentPolicy.Proofs.Uri.Authority
import ContentPolicy.Proofs.Uri.Reference
import ContentPolicy.Proofs.Uri.Reading
import ContentPolicy.Proofs.Uri.Rereading
import ContentPolicy.Proofs.Source.Reading
import ContentPolicy.Proofs.Source.Matching
import ContentPolicy.Proofs.Source.Written
import ContentPolicy.Proofs.Source.Rereading
import ContentPolicy.Proofs.Source.Widening
import ContentPolicy.Proofs.Source.Injectivity
import ContentPolicy.Proofs.Directive.Reading
import ContentPolicy.Proofs.Directive.Rereading
import ContentPolicy.Proofs.Directive.Violation
import ContentPolicy.Proofs.Policy.Segments
import ContentPolicy.Proofs.Policy.Reading
import ContentPolicy.Proofs.Policy.Expansion
import ContentPolicy.Proofs.Policy.Rereading
import ContentPolicy.Proofs.Policy.Printable
import ContentPolicy.Proofs.Policy.RoundTrip
import ContentPolicy.Proofs.Policy.Basics
import ContentPolicy.Proofs.Policy.Combination
import ContentPolicy.Proofs.Policy.Stripping
import ContentPolicy.Proofs.Policy.Strictness
import ContentPolicy.Proofs.Report.Reading
import ContentPolicy.Proofs.Report.Strictness
import ContentPolicy.Proofs.Report.Rereading
import ContentPolicy.Proofs.Settings.Standard
import ContentPolicy.Proofs.Settings.Loading
import ContentPolicy.Proofs.Policy.Comparison
import ContentPolicy.Proofs.Task.Comparison
import ContentPolicy.Proofs.Generation.Violations
import ContentPolicy.Proofs.Generation.Union
import ContentPolicy.Proofs.Generation.Allowance
import ContentPolicy.Proofs.Generation.Events
import ContentPolicy.Proofs.Generation.Segments
import ContentPolicy.Proofs.Policy.Matching
import ContentPolicy.Proofs.Report.Fields
import ContentPolicy.Proofs.Policy.Table
import ContentPolicy.Proofs.Settings.Agreement
import ContentPolicy.Proofs.Policy.Made
import ContentPolicy.Proofs.Policy.Verdict
import ContentPolicy.Proofs.Source.Origin
import ContentPolicy.Proofs.Policy.Invariance
import ContentPolicy.Proofs.Policy.Recombination
import ContentPolicy.Proofs.Policy.Precedence
import ContentPolicy.Proofs.Uri.Grammar
import ContentPolicy.Proofs.Source.Acceptance
import ContentPolicy.Proofs.Report.Document
import ContentPolicy.Proofs.Uri.Data
import ContentPolicy.Proofs.Settings.Soundness
import ContentPolicy.Proofs.Settings.Confinement
import ContentPolicy.Proofs.Runs
import ContentPolicy.Proofs.Json.Compact
import ContentPolicy.Proofs.File.Tree
import ContentPolicy.Proofs.File.Storage
import ContentPolicy.Proofs.Percent.Written
