import SierraCasm.Ap.Analysis
import SierraCasm.Ap.Fault
import SierraCasm.Ap.State
import SierraCasm.Ascending
import SierraCasm.Casm.Instruction
import SierraCasm.Casm.Program
import SierraCasm.Check
import SierraCasm.CommandLine.Command
import SierraCasm.CommandLine.Flag
import SierraCasm.CommandLine.Run
import SierraCasm.Compile
import SierraCasm.Concrete.Fault
import SierraCasm.Concrete.Libfunc
import SierraCasm.Concrete.Type
import SierraCasm.Document.Basic
import SierraCasm.Document.Checker
import SierraCasm.Document.Key
import SierraCasm.Document.Load
import SierraCasm.Document.Number
import SierraCasm.Document.Read
import SierraCasm.Document.Schema
import SierraCasm.Document.Unification
import SierraCasm.Document.Write
import SierraCasm.Failure.Basic
import SierraCasm.Failure.Kind
import SierraCasm.Felt
import SierraCasm.Gas.Check
import SierraCasm.Gas.Graph
import SierraCasm.Host.Basic
import SierraCasm.Host.FileSystem
import SierraCasm.Json.Basic
import SierraCasm.Json.Lexer
import SierraCasm.Json.Parser
import SierraCasm.Json.Spelling
import SierraCasm.Log
import SierraCasm.Lowering.Code
import SierraCasm.Lowering.Env
import SierraCasm.Lowering.Fault
import SierraCasm.Lowering.Invocation
import SierraCasm.Lowering.Reference
import SierraCasm.Lowering.Statement
import SierraCasm.Lowering.Value
import SierraCasm.Main
import SierraCasm.Path
import SierraCasm.Pipeline.Stages
import SierraCasm.Proofs.Ap.Course
import SierraCasm.Proofs.Ap.Completion
import SierraCasm.Proofs.Ap.Fixpoint
import SierraCasm.Proofs.Ap.Invariant
import SierraCasm.Proofs.Ap.Logged
import SierraCasm.Proofs.Ap.Progress
import SierraCasm.Proofs.Ap.Revisits
import SierraCasm.Proofs.Ap.Runs
import SierraCasm.Proofs.Ap.Termination
import SierraCasm.Proofs.Casm.Assembly
import SierraCasm.Proofs.Casm.Field
import SierraCasm.Proofs.Casm.Machine
import SierraCasm.Proofs.Gas.Components
import SierraCasm.Proofs.Gas.Execution
import SierraCasm.Proofs.Lowering.Arrival
import SierraCasm.Proofs.Lowering.Bindings
import SierraCasm.Proofs.Lowering.Blocks
import SierraCasm.Proofs.Lowering.Calls
import SierraCasm.Proofs.Lowering.Denotation
import SierraCasm.Proofs.Lowering.Encoding
import SierraCasm.Proofs.Lowering.Epochs
import SierraCasm.Proofs.Lowering.Flow
import SierraCasm.Proofs.Lowering.Frames
import SierraCasm.Proofs.Lowering.Invocation
import SierraCasm.Proofs.Lowering.Defects
import SierraCasm.Proofs.Lowering.Layout
import SierraCasm.Proofs.Lowering.Linearity
import SierraCasm.Proofs.Lowering.Relocation
import SierraCasm.Proofs.Lowering.Reopening
import SierraCasm.Proofs.Lowering.Safety
import SierraCasm.Proofs.Lowering.Shapes
import SierraCasm.Proofs.Lowering.Simulation
import SierraCasm.Proofs.Lowering.Stores
import SierraCasm.Proofs.Registry.Measure
import SierraCasm.Proofs.Registry.Specialization
import SierraCasm.Proofs.Registry.Specialized
import SierraCasm.Proofs.Registry.Types
import SierraCasm.Proofs.Registry.Valid
import SierraCasm.Proofs.Registry.WellFormed
import SierraCasm.Proofs.Sierra.Execution
import SierraCasm.Proofs.Sierra.Unnamed
import SierraCasm.Registry.Basic
import SierraCasm.Registry.Violation
import SierraCasm.Report.Format
import SierraCasm.Sierra.Ident
import SierraCasm.Sierra.Key
import SierraCasm.Sierra.Program
import SierraCasm.Sierra.Render
import SierraCasm.Sizes
import SierraCasm.Text.Canonical
import SierraCasm.Text.Composed
import SierraCasm.Text.Decimal
import SierraCasm.Text.Grouped
import SierraCasm.Text.Letter
import SierraCasm.Text.Printable
import SierraCasm.Text.Quoted
import SierraCasm.Text.Ranges
import SierraCasm.Yaml.Implicit
import SierraCasm.Yaml.Scalar
import SierraCasm.Yaml.Timestamp
import SierraCasm.Proofs.Registry.TypeRules
import SierraCasm.Proofs.Registry.LibfuncRules
import SierraCasm.Proofs.Registry.Acceptance
import SierraCasm.Proofs.Unnamed.Analysis
import SierraCasm.Proofs.Unnamed.Compile
import SierraCasm.Proofs.Appended.Compile
import SierraCasm.Proofs.Host.Paths
import SierraCasm.Proofs.Host.Effects
import SierraCasm.Proofs.Pipeline.Commands
import SierraCasm.Proofs.Document.Insertion
import SierraCasm.Proofs.Document.Keys
import SierraCasm.Proofs.Document.Lawful
import SierraCasm.Proofs.Document.Loading
import SierraCasm.Proofs.Document.Views
import SierraCasm.Proofs.Document.Unification
import SierraCasm.Proofs.Document.UnknownMembers
import SierraCasm.Proofs.Json.Scanning
import SierraCasm.Proofs.Json.Parsing
import SierraCasm.Proofs.Document.Objects
import SierraCasm.Proofs.Json.Numbers
import SierraCasm.Proofs.Document.Written
import SierraCasm.Proofs.Document.Records
import SierraCasm.Proofs.Document.Reloaded
import SierraCasm.Proofs.Ap.Paths
import SierraCasm.Proofs.Ap.Reachability
import SierraCasm.Proofs.Ap.Returns
import SierraCasm.Proofs.Ap.Joins
import SierraCasm.Proofs.Gas.Connected
import SierraCasm.Proofs.Gas.Cycles
import SierraCasm.Proofs.Lowering.Evaluation
import SierraCasm.Proofs.Lowering.Constants
import SierraCasm.Proofs.Registry.Sizes
import SierraCasm.Proofs.Registry.ZeroSized
import SierraCasm.Proofs.Lowering.VariableTypes
import SierraCasm.Proofs.Lowering.Unreachable
import SierraCasm.Proofs.Document.RoundTrip
import SierraCasm.Proofs.Text.Decimal
import SierraCasm.Proofs.Sierra.Keys
import SierraCasm.Proofs.Registry.LookUp
import SierraCasm.Proofs.Lowering.LiveVariables
