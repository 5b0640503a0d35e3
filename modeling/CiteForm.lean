import CiteForm.Text.Blank
import CiteForm.Text.Digits
import CiteForm.Text.Printable
import CiteForm.Text.Quoted
import CiteForm.Text.Lower
import CiteForm.Text.Surrogate
import CiteForm.Text.Utf8
import CiteForm.Template.Token
import CiteForm.Template.Statement
import CiteForm.Template.Render
import CiteForm.Template.Placeholder
import CiteForm.Template.Format
import CiteForm.Analysis.Nesting
import CiteForm.Analysis.Lint
import CiteForm.Analysis.Markers
import CiteForm.Analysis.Balance
import CiteForm.Analysis.Labels
import CiteForm.Variants
import CiteForm.Decimal.Shortest
import CiteForm.Decimal.Layout
import CiteForm.Decimal.Read
import CiteForm.Document.Calendar
import CiteForm.Document.Bytes
import CiteForm.Document.Value
import CiteForm.Suite.Basic
import CiteForm.Suite.Validate
import CiteForm.Suite.Run
import CiteForm.Suite.Values
import CiteForm.Suite.Load
import CiteForm.Yaml.Mark
import CiteForm.Yaml.Token
import CiteForm.Yaml.Cursor
import CiteForm.Yaml.Token.Scan
import CiteForm.Yaml.Event
import CiteForm.Yaml.Event.Parse
import CiteForm.Yaml.Schema
import CiteForm.Yaml.Node
import CiteForm.Yaml.Value
import CiteForm.Yaml.Store
import CiteForm.Yaml.Load
import CiteForm.CommandLine.Grammar
import CiteForm.CommandLine.Help
import CiteForm.CommandLine.Parse
import CiteForm.Tool.Options
import CiteForm.Tool.Fields
import CiteForm.Tool.Holds
import CiteForm.Tool.Run
import CiteForm.Main
import CiteForm.Proofs.Traversal
import CiteForm.Proofs.Template.Tree
import CiteForm.Proofs.Template.Cut
import CiteForm.Proofs.Template.Evaluation
import CiteForm.Proofs.Template.Grammar
import CiteForm.Proofs.Analysis.Nesting
import CiteForm.Proofs.Analysis.Cancellation
import CiteForm.Proofs.Analysis.Markers
import CiteForm.Proofs.Analysis.Balance
import CiteForm.Proofs.Analysis.Labels
import CiteForm.Proofs.Template.Placeholder
import CiteForm.Proofs.Template.Folds
import CiteForm.Proofs.Template.Substitution
import CiteForm.Proofs.Variants
import CiteForm.Proofs.Subsets
import CiteForm.Proofs.Tool.Nulls
import CiteForm.Proofs.Template.WellNested
import CiteForm.Proofs.Template.Shrinking
import CiteForm.Proofs.Template.Fields
import CiteForm.Proofs.Template.Deletion
import CiteForm.Proofs.Template.Splitting
import CiteForm.Proofs.Suite.Checking
import CiteForm.Proofs.Suite.Schema
import CiteForm.Proofs.Suite.Cases
import CiteForm.Proofs.Suite.Acceptance
