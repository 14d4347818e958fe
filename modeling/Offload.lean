import Offload.Annotator
import Offload.Attempt
import Offload.Batch
import Offload.Call.Binding
import Offload.Call.Signature
import Offload.DType
import Offload.Decimal.Shortest
import Offload.Decimal.Style
import Offload.Dict
import Offload.Double
import Offload.Error
import Offload.Executor.Basic
import Offload.Executor.Call
import Offload.Executor.Compile
import Offload.Executor.Subject
import Offload.Executor.Wrappers
import Offload.Json
import Offload.Layer
import Offload.Layout.Basic
import Offload.Layout.Odometer
import Offload.Notice
import Offload.Number.Format
import Offload.Number.PowerOfTwo
import Offload.Optimizer.Descriptor
import Offload.Optimizer.Host
import Offload.Options.Basic
import Offload.Options.Codes
import Offload.Options.Configure
import Offload.Options.Kind
import Offload.Options.Store
import Offload.Options.Table
import Offload.Platform.Basic
import Offload.Platform.Capture
import Offload.Promotion
import Offload.Proofs.Aligned
import Offload.Proofs.Alike
import Offload.Proofs.Attempt
import Offload.Proofs.Dict
import Offload.Proofs.Executor.Compiling
import Offload.Proofs.Executor.Telling
import Offload.Proofs.Journal.Basic
import Offload.Proofs.Journal.Growth
import Offload.Proofs.Journal.Transparency
import Offload.Proofs.Precision.Calm
import Offload.Proofs.Precision.Capture
import Offload.Proofs.Precision.Host
import Offload.Proofs.Precision.Keeping
import Offload.Proofs.Precision.Types
import Offload.Proofs.Session.Question
import Offload.Proofs.Session.Step
import Offload.Proofs.Weights.Balance
import Offload.Proofs.Weights.Call
import Offload.Proofs.Weights.Fleet
import Offload.Proofs.Weights.Freshness
import Offload.Proofs.Weights.Ledger
import Offload.Proofs.Weights.Movement
import Offload.Proofs.Weights.Recruit
import Offload.Proofs.Weights.Refresh
import Offload.Proofs.Weights.Wrapper
import Offload.Rehearsal.Model
import Offload.Rehearsal.Platform
import Offload.Rehearsal.World
import Offload.Scalar
import Offload.Session.Basic
import Offload.Session.Device
import Offload.Session.Handle
import Offload.Session.Store
import Offload.Shape
import Offload.Shape.Lookup
import Offload.Tensor.Basic
import Offload.Tensor.Buffer
import Offload.Tensor.Derivation
import Offload.Text.Printable
import Offload.Text.Quoted
import Offload.Tree
import Offload.Verbosity
import Offload.Proofs.Executor.Views
import Offload.Proofs.Sparing
import Offload.Proofs.Session.Errand
import Offload.Proofs.Executor.Preparing
import Offload.Proofs.Executor.Deed
import Offload.Proofs.Batch
import Offload.Proofs.Layout.Odometer
import Offload.Proofs.Leaves
import Offload.Proofs.Executor.Record
import Offload.Proofs.Precision.Contract
import Offload.Proofs.Precision.Tracing
import Offload.Proofs.Precision.Views
import Offload.Proofs.Optimizer.Equality
import Offload.Proofs.Executor.Work
import Offload.Proofs.Workshop.Basic
import Offload.Proofs.Workshop.Trace
import Offload.Proofs.Workshop.Orderly
import Offload.Proofs.Workshop.Sound
import Offload.Proofs.Rehearsal
import Offload.Proofs.Workshop.Lifecycle
import Offload.Proofs.Workshop.Account
import Offload.Proofs.Workshop.Updates
import Offload.Proofs.Retry.Standing
import Offload.Proofs.Retry.Contract
import Offload.Proofs.Retry.Attending
import Offload.Proofs.Retry.Tending
import Offload.Proofs.Retry.Call
import Offload.Proofs.Retry.Again
import Offload.Proofs.Journal.Since
import Offload.Proofs.Weights.Thrift
import Offload.Proofs.Weights.Need
import Offload.Proofs.Workshop.Candor
import Offload.Proofs.Workshop.Staleness
import Offload.Proofs.Workshop.Team
import Offload.Proofs.Call.Acceptance
import Offload.Proofs.Layout.Bounds
import Offload.Proofs.Layout.Contiguity
import Offload.Proofs.Tensor.Contents
import Offload.Proofs.Inputs.Dense
import Offload.Proofs.Executor.Course
import Offload.Proofs.Executor.Turns
import Offload.Proofs.Inputs.Tidy
import Offload.Proofs.Inputs.Warning
import Offload.Proofs.Inputs.Early
import Offload.Proofs.Contents.Layouts
import Offload.Proofs.Call.Placement
import Offload.Proofs.Call.Interchange
import Offload.Proofs.Layout.Distinct
import Offload.Proofs.Tensor.Reads
import Offload.Proofs.Options.Kinds
import Offload.Proofs.Options.Locked
import Offload.Proofs.Options.Flattening
import Offload.Proofs.Options.Anchoring
import Offload.Proofs.Layout.Indices
import Offload.Proofs.Layout.Views
import Offload.Proofs.Tensor.Views
import Offload.Proofs.Tensor.Blocks
import Offload.Proofs.Number.Value
import Offload.Proofs.Number.Words
import Offload.Proofs.Number.Cells
import Offload.Proofs.Tensor.Densifying
import Offload.Proofs.Tensor.Equality
import Offload.Proofs.Tensor.Conversion
import Offload.Proofs.Traversal
import Offload.Proofs.Inputs.Division
import Offload.Proofs.Inputs.Preparation
import Offload.Proofs.Call.Transforms
import Offload.Proofs.Precision.Grouping
import Offload.Proofs.Optimizer.Distinction
import Offload.Proofs.Optimizer.Conversion
import Offload.Proofs.Chronicle.Transparency
import Offload.Proofs.Chronicle.Course
import Offload.Proofs.Layout.Enumeration
import Offload.Proofs.Json
import Offload.Proofs.Options.Reading
