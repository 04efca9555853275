import TemplateDeps.CommandLine.Basic
import TemplateDeps.CommandLine.Reading
import TemplateDeps.Compilation
import TemplateDeps.Declaration
import TemplateDeps.Engine.Basic
import TemplateDeps.Engine.History
import TemplateDeps.Engine.Render
import TemplateDeps.Event
import TemplateDeps.Fault
import TemplateDeps.FilePath
import TemplateDeps.FileTree
import TemplateDeps.Graph.Basic
import TemplateDeps.Graph.Client
import TemplateDeps.Graph.Edge
import TemplateDeps.Graph.Operation
import TemplateDeps.Graph.StaticView
import TemplateDeps.Graph.Template
import TemplateDeps.Kind
import TemplateDeps.Level
import TemplateDeps.Main
import TemplateDeps.Manifest.Basic
import TemplateDeps.Manifest.Decode
import TemplateDeps.Manifest.EdgeSpec
import TemplateDeps.Manifest.Selection
import TemplateDeps.Manifest.TargetRef
import TemplateDeps.Manifest.Walk
import TemplateDeps.NameMap
import TemplateDeps.Program
import TemplateDeps.Proofs.CommandLine.Assignments
import TemplateDeps.Proofs.Compilation
import TemplateDeps.Proofs.DeclarationFields
import TemplateDeps.Proofs.Declarations
import TemplateDeps.Proofs.Engine.Bindings
import TemplateDeps.Proofs.Engine.Declared
import TemplateDeps.Proofs.Engine.Depth
import TemplateDeps.Proofs.Engine.Described
import TemplateDeps.Proofs.Engine.Invalidation
import TemplateDeps.Proofs.Engine.Justified
import TemplateDeps.Proofs.Engine.Refinement
import TemplateDeps.Proofs.Engine.ReverseQueries
import TemplateDeps.Proofs.Engine.Soundness
import TemplateDeps.Proofs.Engine.Structure
import TemplateDeps.Proofs.Engine.Watch
import TemplateDeps.Proofs.Graph.Access
import TemplateDeps.Proofs.Graph.Affected
import TemplateDeps.Proofs.Graph.Answers
import TemplateDeps.Proofs.Graph.Arcs
import TemplateDeps.Proofs.Graph.Clients
import TemplateDeps.Proofs.Graph.Coherence
import TemplateDeps.Proofs.Graph.Growth
import TemplateDeps.Proofs.Graph.OperationLog
import TemplateDeps.Proofs.Graph.Outline
import TemplateDeps.Proofs.Graph.Positions
import TemplateDeps.Proofs.Graph.ReverseQueries
import TemplateDeps.Proofs.Graph.Views
import TemplateDeps.Proofs.Listing
import TemplateDeps.Proofs.Manifest.Check
import TemplateDeps.Proofs.Manifest.Nesting
import TemplateDeps.Proofs.Manifest.Selection
import TemplateDeps.Proofs.Manifest.Walks
import TemplateDeps.Proofs.Manifest.WrittenTargets
import TemplateDeps.Proofs.Naming
import TemplateDeps.Proofs.Phases
import TemplateDeps.Proofs.Recompilation
import TemplateDeps.Proofs.RenderReport
import TemplateDeps.Proofs.RoundTrips
import TemplateDeps.Proofs.StoppedCompilation
import TemplateDeps.Proofs.Text.BrokenPieces
import TemplateDeps.Proofs.Text.ByteOrder
import TemplateDeps.Proofs.Text.Codes
import TemplateDeps.Proofs.Text.Quoting
import TemplateDeps.Proofs.Text.Trimming
import TemplateDeps.Proofs.Validation
import TemplateDeps.RenderMode
import TemplateDeps.Report
import TemplateDeps.Target
import TemplateDeps.Text.Blank
import TemplateDeps.Text.CaseTable
import TemplateDeps.Text.CharSet
import TemplateDeps.Text.Lowercase
import TemplateDeps.Text.Quoted
import TemplateDeps.Text.Utf8
import TemplateDeps.Text.Visible
import TemplateDeps.Toml.Document
import TemplateDeps.Toml.Grammar
import TemplateDeps.Toml.Scalar
import TemplateDeps.Toml.Table
import TemplateDeps.Toml.Text
import TemplateDeps.Toml.Value
