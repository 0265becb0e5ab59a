import TargetFeatures.Catalog.AliasTable
import TargetFeatures.Catalog.Architecture
import TargetFeatures.Catalog.Build
import TargetFeatures.Catalog.Bundled
import TargetFeatures.Catalog.Error
import TargetFeatures.Catalog.Extensions
import TargetFeatures.Catalog.Mask
import TargetFeatures.Catalog.Models
import TargetFeatures.Catalog.Record
import TargetFeatures.Catalog.Source
import TargetFeatures.Command.Configure
import TargetFeatures.Command.Options
import TargetFeatures.Command.Outcome
import TargetFeatures.Command.Report
import TargetFeatures.Command.Resolve
import TargetFeatures.Command.Run
import TargetFeatures.Command.Validate
import TargetFeatures.Data.Scalar
import TargetFeatures.Data.Value
import TargetFeatures.Graph.TopologicalSort
import TargetFeatures.Json.Reader
import TargetFeatures.Json.Writer
import TargetFeatures.Main
import TargetFeatures.Numeral.Binary64
import TargetFeatures.Numeral.Digits
import TargetFeatures.Numeral.LenientInteger
import TargetFeatures.Numeral.Shortest
import TargetFeatures.Proofs.Catalog.Acceptance
import TargetFeatures.Proofs.Catalog.Adjacency
import TargetFeatures.Proofs.Catalog.AliasTargets
import TargetFeatures.Proofs.Catalog.AlternateNames
import TargetFeatures.Proofs.Catalog.Building
import TargetFeatures.Proofs.Catalog.Dependency
import TargetFeatures.Proofs.Catalog.Description
import TargetFeatures.Proofs.Catalog.Encoding
import TargetFeatures.Proofs.Catalog.Inheritance
import TargetFeatures.Proofs.Catalog.Mask
import TargetFeatures.Proofs.Catalog.Naming
import TargetFeatures.Proofs.Catalog.Order
import TargetFeatures.Proofs.Catalog.Views
import TargetFeatures.Proofs.Command.Assignment
import TargetFeatures.Proofs.Command.Modes
import TargetFeatures.Proofs.Command.Reporting
import TargetFeatures.Proofs.Command.Verdict
import TargetFeatures.Proofs.Data.Document
import TargetFeatures.Proofs.Data.Failure
import TargetFeatures.Proofs.Graph.Acyclic
import TargetFeatures.Proofs.Graph.Placement
import TargetFeatures.Proofs.Graph.Preference
import TargetFeatures.Proofs.Json.Limits
import TargetFeatures.Proofs.Json.Reading
import TargetFeatures.Proofs.Json.Strings
import TargetFeatures.Proofs.Json.Writing
import TargetFeatures.Proofs.Session.Coherence
import TargetFeatures.Proofs.Session.Encoding
import TargetFeatures.Proofs.Session.ForeignNumbers
import TargetFeatures.Proofs.Session.LastDecision
import TargetFeatures.Proofs.Session.LeastChange
import TargetFeatures.Proofs.Session.Messages
import TargetFeatures.Proofs.Session.Modifiers
import TargetFeatures.Proofs.Session.Monotonicity
import TargetFeatures.Proofs.Session.OwnNames
import TargetFeatures.Proofs.Session.Propagation
import TargetFeatures.Proofs.Session.Rearrangement
import TargetFeatures.Proofs.Session.Replay
import TargetFeatures.Proofs.Session.Resolution
import TargetFeatures.Proofs.Session.Run
import TargetFeatures.Proofs.Session.Seeding
import TargetFeatures.Proofs.Session.Tidying
import TargetFeatures.Proofs.Session.Visits
import TargetFeatures.Proofs.Settings.Hindrance
import TargetFeatures.Proofs.Settings.Layering
import TargetFeatures.Proofs.Settings.Saving
import TargetFeatures.Proofs.Spec.Consistency
import TargetFeatures.Proofs.Spec.Cycles
import TargetFeatures.Proofs.Spec.Passes
import TargetFeatures.Proofs.Spec.Saving
import TargetFeatures.Proofs.Text.Pairs
import TargetFeatures.Proofs.Workspace.Writing
import TargetFeatures.Session.Resolve
import TargetFeatures.Session.Resolver
import TargetFeatures.Session.State
import TargetFeatures.Settings.Basic
import TargetFeatures.Settings.Layers
import TargetFeatures.Settings.Reserved
import TargetFeatures.Settings.Store
import TargetFeatures.Spec.Basic
import TargetFeatures.Spec.Decode
import TargetFeatures.Spec.Defect
import TargetFeatures.Spec.Field
import TargetFeatures.Spec.Finding
import TargetFeatures.Spec.Validate
import TargetFeatures.Text.Blank
import TargetFeatures.Text.CodeRange
import TargetFeatures.Text.DecimalDigit
import TargetFeatures.Text.Lines
import TargetFeatures.Text.Lowercase
import TargetFeatures.Text.Octets
import TargetFeatures.Text.Printable
import TargetFeatures.Text.Quoted
import TargetFeatures.Text.Surrogate
import TargetFeatures.Text.Terminal
import TargetFeatures.Text.Uppercase
import TargetFeatures.Text.Width
import TargetFeatures.Workspace.Basic
import TargetFeatures.Workspace.Path
import TargetFeatures.Yaml.Conversion
import TargetFeatures.Yaml.Cursor
import TargetFeatures.Yaml.Document
import TargetFeatures.Yaml.Error
import TargetFeatures.Yaml.Grammar
import TargetFeatures.Yaml.Merge
import TargetFeatures.Yaml.Node
import TargetFeatures.Yaml.ScalarStyle
import TargetFeatures.Yaml.Shape
import TargetFeatures.Yaml.Tag
import TargetFeatures.Yaml.Token
import TargetFeatures.Yaml.Token.BlockScalar
import TargetFeatures.Yaml.Token.Lexer
import TargetFeatures.Yaml.Token.PlainScalar
import TargetFeatures.Yaml.Token.QuotedScalar
import TargetFeatures.Yaml.Token.Word
import TargetFeatures.Yaml.Writer
