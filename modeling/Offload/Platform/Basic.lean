/-
# Platforms

Everything the library does not do itself: running a model on the host, capturing it as a graph,
compiling the graph, executing it and moving weights. A platform is given by its operations over
a world of its own; the library's state lies outside that world, so no operation can change it
behind the library's back.
-/

import Offload.Optimizer.Descriptor
import Offload.Options.Basic
import Offload.Platform.Capture

namespace Offload

/-- What can be asked of a model, and done to it. -/
structure ModelInterface (World Model : Type) where
  /-- The declared parameters of the forward function. -/
  signature : Model → Signature
  /-- Run the model on the host. -/
  forward : Model → List Tree → Attempt World Tree
  /-- The parameters by path. -/
  parameters : Model → Attempt World (List NamedParameter)
  /-- The layers; without a model's own answer, its parameters grouped by path. -/
  layers : Model → Attempt World (List LayerInfo) := fun model => do
    return LayerInfo.ofParameters (← parameters model)
  /-- Cast all parameters of a layer; a model that cannot cast knows no layer. -/
  castLayer : String → DType → Attempt (Model × World) Unit := fun layer _ =>
    throw (.unknownLayer layer)

/-- What is compiled along with a graph. -/
structure CompileRequest where
  /-- The leaves whose types become the input contract of the executable. -/
  inputs : List Value
  options : OptionTable
  training : Bool
  optimizer : Option Descriptor

/-- The operations of a platform. -/
structure Platform where
  World : Type
  Model : Type
  Graph : Type
  Executable : Type
  /-- Something outside that can refresh host weights. -/
  Hook : Type
  model : ModelInterface World Model
  /-- A model to stand where none was put. -/
  blankModel : Model
  /-- Capture a model by running it on inputs. -/
  trace : List Tree → Capture World Graph
  /-- Capture a model from its definition. -/
  script : Capture World Graph
  /-- The number of inputs of a graph. The first input of a scripted graph is the model. -/
  inputCount : Graph → Nat
  /-- Tell a graph the type and shape of an input by a sample. -/
  inferInput : Nat → Tensor → Attempt (Graph × World) Unit
  /-- Cast a layer in a graph. -/
  castGraphLayer : String → DType → Attempt (Graph × World) Unit
  /-- Propagate the shapes of the inputs through a graph. -/
  propagateShapes : Attempt (Graph × World) Unit
  /-- Compile a graph captured by running the model. -/
  compileTraced : Graph → CompileRequest → Attempt World Executable
  /-- Compile a graph captured from the definition of the model. -/
  compileScripted : Graph → CompileRequest → Attempt World Executable
  /-- Run one step; a descriptor is given only when the optimizer on the device must change. -/
  execute : Executable → List Value → Option Descriptor → Attempt World (List Tree)
  /-- Fetch the weights from the device. -/
  copyToHost : Executable → Attempt World Unit
  /-- Send the weights to the device. -/
  copyToDevice : Executable → Attempt World Unit
  /-- The program of an executable as text; not every platform can print it. -/
  programText : Executable → Attempt World String := fun _ => throw .irUnavailable
  /-- A device is attached to this host. -/
  hardwareAvailable : Bool
  /-- Let something outside refresh host weights; says whether it did. -/
  refresh : Hook → Attempt World Bool

namespace Platform

variable (P : Platform)

/-- Tell a graph the inputs that are tensors, counting from a position on and stopping at the
number of inputs it has. -/
def annotateInputs (count : Nat) : Nat → List (Option Tensor) → Attempt (P.Graph × P.World) Unit
  | _, [] => pure ()
  | position, none :: later => annotateInputs count (position + 1) later
  | position, some sample :: later => do
      if position < count then P.inferInput position sample
      annotateInputs count (position + 1) later

/-- Tell a graph its inputs by some example leaves and propagate their shapes. -/
def propagateInputShapes (examples : List Value) : Attempt (P.Graph × P.World) Unit := do
  let count := P.inputCount (← get).1
  P.annotateInputs count 0 (examples.map Value.tensor?)
  P.propagateShapes

end Platform

end Offload
