/-
# Compilation

The first call compiles. The bound inputs are narrowed to the trace view and promoted to full
precision; then the model is captured, by running it on the promoted view or from its
definition, and the graph is compiled. When the model is run its layers are promoted before and
restored after, on the model even if the capture failed. If an input was promoted, the graph is
compiled against the view before promotion, which has the types of the inputs to come.
-/

import Offload.Executor.Basic

namespace Offload.Executor

variable {P : Platform}

/-- How the subject answers the questions of a capture. -/
def answers : ModelAnswers (Running P) where
  signature running := running.executor.subject.signature running.session
  layers := do onSession (← get).executor.subject.layers
  parameters := do onSession (← get).executor.subject.parameters
  forward inputs := do onSession ((← get).executor.subject.forward inputs)

/-- Capture the subject. -/
def capture (dialogue : Capture P.World P.Graph) : Attempt (Running P) P.Graph :=
  dialogue.run answers worldFocus

/-- Cast a layer of the subject. -/
def castLayer (layer : String) (dtype : DType) : Attempt (Running P) Unit :=
  Attempt.within subjectFocus (Subject.castLayer layer dtype)

/-- What a promotion needs of the subject. -/
def layerAccess : LayerAccess (Running P) where
  layers := answers.layers
  cast := castLayer
  report := notify

/-- The views of a binding that compilation works on. -/
structure Views where
  /-- Narrowed to one micro-batch. -/
  narrowed : Binding
  /-- Narrowed and promoted to full precision. -/
  promoted : Binding
  /-- An input was promoted. -/
  promotion : Promotion

/-- The views of a binding. -/
def viewsOf (options : Options) (binding : Binding) : Attempt (Running P) Views := do
  let ((), narrowed) ← Attempt.withOwn binding (Batch.ofOptions options).traceView
  let (((), promotion), promoted) ←
    Attempt.withOwn narrowed (Attempt.withOwn Promotion.none Promotion.promoteInputs)
  return ⟨narrowed, promoted, promotion⟩

/-- What a graph is compiled with. -/
def request (options : OptionTable) (inputs : Binding) : Attempt (Running P) CompileRequest := do
  let executor := (← get).executor
  return ⟨inputs.leaves, options, executor.training, executor.optimizer⟩

/-- Capture the subject by running it, and compile the graph. -/
def compileByTracing (options : OptionTable) (views : Views) :
    Attempt (Running P) P.Executable := do
  notify .tracing
  let ((), promotion) ←
    Attempt.withOwn views.promotion (Promotion.promoteModel layerAccess)
  let captured ← (capture (P.trace views.promoted.arguments)).observe
  promotion.restore castLayer
  let graph ← Attempt.ofResult captured
  let ((), graph) ← Attempt.withOwn graph
    (promotion.restore fun layer dtype => onGraph (P.castGraphLayer layer dtype))
  let inputs := if promotion.anyInput then views.narrowed else views.promoted
  onWorld (P.compileTraced graph (← request options inputs))

/-- Capture the subject from its definition, tell the graph the inputs that are tensors, and
compile it. -/
def compileByScripting (options : OptionTable) (views : Views) :
    Attempt (Running P) P.Executable := do
  notify .scripting
  let graph ← capture P.script
  let samples := views.promoted.arguments.map Tree.tensor?
  let ((), graph) ← Attempt.withOwn graph
    (onGraph (P.annotateInputs (P.inputCount graph) 1 samples))
  onWorld (P.compileScripted graph (← request options views.promoted))

/-- The refreshes of the model that the device follows, if it follows one. -/
def followedRefreshes? (running : Running P) : Option Nat :=
  running.executor.subject.followed?.map fun handle => (running.session.cell handle).refreshes

/-- Take note that the device has the present weights of the host. -/
def noteRefreshes : Attempt (Running P) Unit := do
  match followedRefreshes? (← get) with
  | some refreshes => update fun executor => { executor with refreshesSeen := refreshes }
  | none => pure ()

/-- Compile for bound inputs. Compilation sends the present weights of the host along. -/
def compileBinding (binding : Binding) : Attempt (Running P) Unit := do
  let executor := (← get).executor
  let options ← Attempt.ofResult executor.options.flatten
  notify (.compiling executor.options.deviceIterations executor.training)
  let views ← viewsOf executor.options binding
  let executable ←
    if executor.options.traceModel then compileByTracing options views
    else compileByScripting options views
  onSession (Session.setExecutable executor.device executable)
  noteRefreshes

/-- Compile for bound inputs unless there is an executable. -/
def ensureCompiled (binding : Binding) : Attempt (Running P) Unit := do
  if isCompiled (← get) then pure () else compileBinding binding

/-- Compile for a call without executing. An executor that is compiled does not look at the
call. -/
def compile (call : CallArguments) : Attempt (Running P) Unit := do
  if isCompiled (← get) then pure ()
  else compileBinding (← bind call)

end Offload.Executor
