/-
# Options while they are made

While a configuration is made its groups stand side by side as tables, and each change writes them
in place. Options declared from the start are put without a look at what is there, and so are the
settings of capture and of training: changes by name keep the kind of what is there, so none of
them can be in the way. Options that are not declared from the start are declared by their first
value and keep its kind.
-/

import Offload.Options.Basic

namespace Offload

/-- One change of a configuration. -/
inductive Options.Change where
  | set (option : String) (value : OptionValue)
  | createOrSet (option : String) (value : OptionValue)
  | anchorMode (mode : AnchorMode) (period : Option Nat)
  | deviceIterations (count : Nat)
  | replicationFactor (count : Nat)
  | gradientAccumulation (count : Nat)
  | logDir (path : String)
  | profile (enabled : Bool)
  | simulator (enabled : Bool)
  | connectionType (type : ConnectionType)
  | syncPattern (pattern : SyncPattern)
  | ipuId (id : Nat)
  /-- Compile for a device of a version that is not there, and never connect. -/
  | offlineTarget (version : Nat)
  | pipelining (enabled : Bool)
  | randomSeed (seed : Nat)
  | traceModel (enabled : Bool)
  | backend (option : String) (value : OptionValue)
  deriving Repr

/-- The groups of options as tables. -/
structure OptionStore where
  /-- Device, batching and anchoring options. -/
  general : OptionTable
  /-- The settings of capture. -/
  capture : OptionTable
  /-- The settings of training. -/
  training : OptionTable
  /-- Options for the back end, in no fixed form. -/
  backend : OptionTable
  deriving DecidableEq

namespace OptionStore

/-- What every configuration is made from. -/
def initial : OptionStore where
  general := Options.declared
  capture := Dict.ofList [("trace_model", .bool true)]
  training := Dict.ofList [("gradient_accumulation", .int 1)]
  backend := Dict.empty

instance : Inhabited OptionStore := ⟨initial⟩

/-- The configuration that is read from the groups. -/
def options (store : OptionStore) : Options where
  table := store.general
  traceModel := store.capture.boolAt "trace_model"
  gradientAccumulation := (store.training.intAt "gradient_accumulation").toNat
  backend := store.backend

theorem options_initial : initial.options = Options.initial := rfl

section Writing

/-- Run a step on the top-level options. -/
def onGeneral (step : Attempt OptionTable Unit) : Attempt OptionStore Unit :=
  Attempt.within ⟨general, fun table store => { store with general := table }⟩ step

/-- Give a top-level option a value of the kind it was declared with. -/
def put (option : String) (value : OptionValue) : Attempt OptionStore Unit :=
  onGeneral (OptionTable.put option value)

/-- Give a present top-level option another value of its kind. -/
def set (option : String) (value : OptionValue) : Attempt OptionStore Unit :=
  onGeneral (OptionTable.set option value)

/-- Declare a top-level option, or set it if it is present. -/
def createOrSet (option : String) (value : OptionValue) : Attempt OptionStore Unit :=
  onGeneral (OptionTable.createOrSet option value)

/-- Pick an anchor mode. The period is looked at before anything is written. -/
def setAnchorMode (mode : AnchorMode) (period : Option Nat) : Attempt OptionStore Unit := do
  let stored ← Attempt.ofResult (Options.storedPeriod mode period)
  put "anchor_mode" (.int mode.code)
  put "anchor_return_period" (.int stored)

/-- Picking an anchor mode while a configuration is made is picking it for the configuration. -/
theorem options_setAnchorMode (store : OptionStore) (mode : AnchorMode) (period : Option Nat) :
    (((setAnchorMode mode period).perform store).1.map fun _ =>
        ((setAnchorMode mode period).perform store).2.options) =
      store.options.setAnchorMode mode period := by
  rw [setAnchorMode, Attempt.perform_bind, Attempt.perform_ofResult, Options.setAnchorMode]
  cases Options.storedPeriod mode period with
  | error cause => rfl
  | ok stored => rfl

/-- Attach to the device as a connection type says. -/
def setConnectionType (type : ConnectionType) : Attempt OptionStore Unit :=
  put "connection_type" (.int type.code)

/-- Capture models by running them, or from their definition. -/
def setTraceModel (enabled : Bool) : Attempt OptionStore Unit :=
  Attempt.within ⟨capture, fun table store => { store with capture := table }⟩
    (OptionTable.put "trace_model" (.bool enabled))

/-- Make so many micro-batches a weight update. -/
def setGradientAccumulation (count : Nat) : Attempt OptionStore Unit :=
  Attempt.within ⟨training, fun table store => { store with training := table }⟩
    (OptionTable.put "gradient_accumulation" (.int count))

/-- Give the back end an option. -/
def putBackend (option : String) (value : OptionValue) : Attempt OptionStore Unit :=
  Attempt.within ⟨backend, fun table store => { store with backend := table }⟩
    (OptionTable.put option value)

/-- Make one change. Only an offline target is refused after something was written, and it is
set in a copy. -/
def change : Options.Change → Attempt OptionStore Unit
  | .set option value => set option value
  | .createOrSet option value => createOrSet option value
  | .anchorMode mode period => setAnchorMode mode period
  | .deviceIterations count => put "device_iterations" (.int count)
  | .replicationFactor count => put "replication_factor" (.int count)
  | .gradientAccumulation count => setGradientAccumulation count
  | .logDir path => put "log_dir" (.str path)
  | .profile enabled => put "profile" (.bool enabled)
  | .simulator enabled => put "use_model" (.bool enabled)
  | .connectionType type => setConnectionType type
  | .syncPattern pattern => put "sync_pattern" (.int pattern.code)
  | .ipuId id => createOrSet "ipu_id" (.int id)
  | .offlineTarget version => Attempt.onCopy do
      setConnectionType .never
      createOrSet "ipu_version" (.int version)
  | .pipelining enabled => createOrSet "enable_pipelining" (.bool enabled)
  | .randomSeed seed => createOrSet "random_seed" (.int seed)
  | .traceModel enabled => setTraceModel enabled
  | .backend option value => putBackend option value

end Writing

end OptionStore

end Offload
