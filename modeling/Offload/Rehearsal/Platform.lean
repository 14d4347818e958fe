/-
# The platform of a rehearsal

Capturing a model asks for its layers and runs it; a scripted graph has one input for the model
and one for each parameter. Copies of weights are recorded and move nothing.
-/

import Offload.Rehearsal.Model

namespace Offload.Rehearsal

/-- Capture a model by asking for its layers and running it. -/
def trace (inputs : List Tree) : Capture World Graph := do
  Capture.ofAttempt (perform (.trace inputs) "trace")
  let layers ← Capture.askLayers
  Capture.ofAttempt (record (.layers layers))
  let output ← Capture.askForward inputs
  Capture.ofAttempt (record (.traced output))
  return .ofInputs inputs.length

/-- Capture a model by its signature. -/
def script : Capture World Graph := do
  Capture.ofAttempt (perform .script "script")
  let signature ← Capture.askSignature
  let world ← Capture.ofAttempt get
  return .ofInputs (world.scriptInputs.getD (signature.size + 1))

/-- Infer an input of a graph. -/
def inferInput (position : Nat) (sample : Tensor) : Attempt (Graph × World) Unit := do
  Attempt.onRest (perform (.infer position sample) "infer")
  modify fun state => (state.1.infer position, state.2)

/-- Cast a layer in a graph. -/
def castGraphLayer (layer : String) (dtype : DType) : Attempt (Graph × World) Unit := do
  Attempt.onRest (perform (.graphCast layer dtype) "graph_cast")
  modify fun state => (state.1.cast layer dtype, state.2)

/-- Propagate the shapes of the inputs through a graph. -/
def propagateShapes : Attempt (Graph × World) Unit := do
  let graph := (← get).1
  Attempt.onRest (perform (.propagate graph.inferred) "propagate")

/-- Compile a graph. A failure uses up no number. -/
def compile (frontend : Frontend) (graph : Graph) (request : CompileRequest) :
    Attempt World Executable := do
  perform (.compile frontend request graph) "compile"
  let world ← get
  set { world with nextExecutable := world.nextExecutable + 1 }
  return ⟨world.nextExecutable, request.training⟩

/-- Execute. -/
def execute (executable : Executable) (inputs : List Value) (optimizer : Option Descriptor) :
    Attempt World (List Tree) := do
  perform (.execute executable inputs optimizer) "execute"
  return (← get).outputs.getD (inputs.map .leaf)

/-- Find out whether weights are stale through a hook, which is then once less so. -/
def refresh (hook : Nat) : Attempt World Bool := do
  let left := (← get).hooks.getD hook 0
  perform (.hook left) "hook"
  modify fun world => { world with hooks := world.hooks.set hook (left - 1) }
  return 0 < left

/-- The program of an executable as text. -/
def programText (executable : Executable) : Attempt World String := do
  check "debug_ir"
  return s!"ir exe={executable.number} training={executable.training}"

/-- The platform of a rehearsal, which may or may not be able to print programs. -/
@[reducible]
def platform (printsPrograms : Bool) : Platform where
  World := World
  Model := Model
  Graph := Graph
  Executable := Executable
  Hook := Nat
  model := modelInterface
  blankModel := default
  trace := trace
  script := script
  inputCount := Graph.inputCount
  inferInput := inferInput
  castGraphLayer := castGraphLayer
  propagateShapes := propagateShapes
  compileTraced := compile .trace
  compileScripted := compile .script
  execute := execute
  copyToHost executable := perform (.toHost executable) "to_host"
  copyToDevice executable := perform (.toDevice executable) "to_device"
  programText := if printsPrograms then programText else fun _ => throw .irUnavailable
  hardwareAvailable := false
  refresh := refresh

end Offload.Rehearsal
