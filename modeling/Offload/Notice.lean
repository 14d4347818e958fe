/-
# Notices

What the library tells an application while it works, each with its level. A notice is data; its
wording is one function.
-/

import Offload.Attempt
import Offload.DType
import Offload.Error
import Offload.Options.Codes
import Offload.Options.Table

namespace Offload

/-- How important a notice is. -/
inductive Level where
  | debug
  | info
  | warn
  deriving DecidableEq, Repr, Inhabited

/-- The name of a level. -/
def Level.name : Level → String
  | debug => "DEBUG"
  | info => "INFO"
  | warn => "WARN"

/-- Something the library tells the application. -/
inductive Notice where
  /-- A return period was given with a mode that has none. -/
  | periodIgnored (mode : AnchorMode)
  /-- Host weights were stale and are fetched from the device. -/
  | fetchingWeights
  /-- Host weights were refreshed and are sent to the device. -/
  | sendingRefreshedWeights
  /-- Host weights were modified by hand and are sent to the device. -/
  | sendingModifiedWeights
  /-- An input had to be densified. -/
  | stridedInput
  /-- Compilation begins. -/
  | compiling (deviceIterations : Int) (training : Bool)
  /-- The model is captured by running it. -/
  | tracing
  /-- The model is captured from its definition. -/
  | scripting
  /-- A layer of reduced precision is promoted for capture. -/
  | promotingLayer (layer : String) (dtype : DType)
  /-- The wrapper never connects, so the call ends after compilation. -/
  | notConnecting
  /-- A placement block was dropped and could not be closed. -/
  | blockNotClosed (cause : Error)
  deriving DecidableEq, Repr

namespace Notice

/-- The level of a notice. -/
def level : Notice → Level
  | fetchingWeights | sendingRefreshedWeights | sendingModifiedWeights => .debug
  | promotingLayer _ _ => .debug
  | periodIgnored _ | compiling _ _ | tracing | scripting | notConnecting => .info
  | stridedInput | blockNotClosed _ => .warn

/-- The wording of a notice. -/
def message : Notice → String
  | periodIgnored mode =>
      s!"Anchor return period argument ignored with anchor_mode set to {mode.name}"
  | fetchingWeights => "Implicit copyWeightsToHost()"
  | sendingRefreshedWeights => "Implicit copyWeightsToDevice()"
  | sendingModifiedWeights => "Host weights modified: copyWeightsToDevice()"
  | stridedInput =>
      "At least one input tensor is not contiguous: non-contiguous tensors will be converted."
  | compiling _ _ => "First call to the model: compiling"
  | tracing => "Compiling the model using tracing"
  | scripting => "Compiling the model using scripting"
  | promotingLayer layer dtype =>
      s!"Casting layer {layer} from {dtype.name} to {DType.f32.name} for tracing"
  | notConnecting => "Compilation complete and ConnectionType::Never selected: returning"
  | blockNotClosed cause => s!"failed to close IPU block: {cause.message}"

/-- What a notice tells besides its wording, by name. -/
def fields : Notice → List (String × OptionValue)
  | compiling deviceIterations training =>
      [("device_iterations", .int deviceIterations), ("training", .bool training)]
  | _ => []

end Notice

/-- What picking an anchor mode has to tell: a period that will not be used. -/
def AnchorMode.notices (mode : AnchorMode) (period : Option Nat) : List Notice :=
  match mode, period with
  | .everyN, _ => []
  | _, some (_ + 1) => [.periodIgnored mode]
  | _, _ => []

end Offload
