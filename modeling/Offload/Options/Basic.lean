/-
# Options

The configuration of one wrapped model: a table of top-level options, the settings of capture
and of training, and options passed to the back end as they are. Nine top-level options are
declared from the start; some more are declared when first used. Before a model is compiled
everything but the capture settings is flattened into one table.
-/

import Offload.Options.Codes
import Offload.Options.Table

namespace Offload

/-- The configuration of a wrapped model. -/
structure Options where
  /-- Device, batching and anchoring options. -/
  table : OptionTable
  /-- Models are captured by running them, rather than from their definition. -/
  traceModel : Bool
  /-- Micro-batches per weight update. -/
  gradientAccumulation : Nat
  /-- Options for the back end, in no fixed form. -/
  backend : OptionTable
  deriving Inhabited

namespace Options

/-- The top-level options declared from the start. -/
def declared : OptionTable := Dict.ofList [
  ("replication_factor", .int 1),
  ("device_iterations", .int 1),
  ("log_dir", .str "."),
  ("profile", .bool false),
  ("anchor_mode", .int AnchorMode.default.code),
  ("anchor_return_period", .int 1),
  ("use_model", .bool false),
  ("connection_type", .int ConnectionType.always.code),
  ("sync_pattern", .int SyncPattern.full.code)]

/-- The configuration everything starts from. -/
def initial : Options where
  table := declared
  traceModel := true
  gradientAccumulation := 1
  backend := Dict.empty

/-- Iterations on the device per execution. -/
def deviceIterations (options : Options) : Int := options.table.intAt "device_iterations"

/-- Copies of the model that run side by side. -/
def replicationFactor (options : Options) : Int := options.table.intAt "replication_factor"

/-- The anchor mode, unless its code stands for none. -/
def anchorMode? (options : Options) : Option AnchorMode :=
  AnchorMode.ofCode? (options.table.intAt "anchor_mode")

/-- Batches from one anchored result to the next. -/
def anchorReturnPeriod (options : Options) : Int := options.table.intAt "anchor_return_period"

/-- No anchor mode was picked yet. -/
def isDefaultAnchorMode (options : Options) : Bool := options.anchorMode? == some .default

/-- The connection type, unless its code stands for none. -/
def connectionType? (options : Options) : Option ConnectionType :=
  ConnectionType.ofCode? (options.table.intAt "connection_type")

/-- The synchronisation pattern, unless its code stands for none. -/
def syncPattern? (options : Options) : Option SyncPattern :=
  SyncPattern.ofCode? (options.table.intAt "sync_pattern")

/-- A simulator takes the place of the device. -/
def usesSimulator (options : Options) : Bool := options.table.boolAt "use_model"

/-- The settings of capture as a table. -/
def captureTable (options : Options) : OptionTable :=
  Dict.ofList [("trace_model", .bool options.traceModel)]

/-- The settings of training as a table. -/
def trainingTable (options : Options) : OptionTable :=
  Dict.ofList [("gradient_accumulation", .int options.gradientAccumulation)]

/-- Equality of configurations, floating-point values by value. -/
def equal (left right : Options) : Bool :=
  left.table.equal right.table && left.traceModel == right.traceModel &&
    left.gradientAccumulation == right.gradientAccumulation &&
    left.backend.equal right.backend

/-- Give a top-level option a value of the kind it was declared with. -/
def put (options : Options) (option : String) (value : OptionValue) : Options :=
  { options with table := options.table.insert option value }

/-- The period an anchor mode is stored with. Anchoring every so many batches needs a positive
one; any other mode ignores it. -/
def storedPeriod (mode : AnchorMode) (period : Option Nat) : Result Nat :=
  match mode, period with
  | .everyN, some (count + 1) => .ok (count + 1)
  | .everyN, _ => .error .invalidAnchorReturnPeriod
  | _, _ => .ok 1

/-- Pick an anchor mode. -/
def setAnchorMode (options : Options) (mode : AnchorMode) (period : Option Nat) :
    Result Options :=
  (storedPeriod mode period).map fun stored =>
    (options.put "anchor_mode" (.int mode.code)).put "anchor_return_period" (.int stored)

/-- Pick an anchor mode unless one was picked. -/
def resolveAnchorMode (options : Options) (mode : AnchorMode) : Result Options :=
  if options.isDefaultAnchorMode then options.setAnchorMode mode none else .ok options

/-- All options but those of capture in one table. An anchor mode must have been picked, and no
option may stand in two groups. -/
def flatten (options : Options) : Result OptionTable := do
  if options.isDefaultAnchorMode then throw .unresolvedAnchorMode
  let general ← OptionTable.merge options.backend options.table
  OptionTable.merge general options.trainingTable

end Options

end Offload
