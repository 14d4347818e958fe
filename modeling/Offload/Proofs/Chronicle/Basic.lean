/-
# Chronicled platforms

A chronicle tells what was done to a model and to the graphs captured from it, and what came of
it: each cast with what it found and what it left, each capture with its graph, each compilation
with its executable, and each failure with its cause. It lies beside the world of a platform,
which cannot see it, and everything else that is asked of the platform leaves no trace in it. So
the order of the things that were done, and the reason why they stopped, can be read off the
chronicle alone.
-/

import Offload.Executor.Compile
import Offload.Proofs.Attempt

namespace Offload

/-- Something that was done, and what came of it. -/
inductive Happening (P : Platform) where
  /-- A layer of a model was cast, which left the model as another. -/
  | castLayer (before : P.Model) (layer : String) (dtype : DType) (outcome : Result Unit)
      (after : P.Model)
  | trace (inputs : List Tree) (outcome : Result P.Graph)
  | script (outcome : Result P.Graph)
  /-- A layer of a graph was cast, which left the graph as another. -/
  | castGraphLayer (before : P.Graph) (layer : String) (dtype : DType) (outcome : Result Unit)
      (after : P.Graph)
  | compileTraced (graph : P.Graph) (request : CompileRequest) (outcome : Result P.Executable)
  | compileScripted (graph : P.Graph) (request : CompileRequest) (outcome : Result P.Executable)

/-- A world with a chronicle beside it. -/
structure Chronicled (P : Platform) where
  world : P.World
  happenings : List (Happening P)

namespace Chronicled

variable {P : Platform} {α τ : Type}

/-- A world to which nothing happened yet. -/
def start (world : P.World) : Chronicled P := ⟨world, []⟩

/-- The world as a part of the chronicled world. -/
def focus : Focus (Chronicled P) P.World :=
  ⟨Chronicled.world, fun world state => { state with world := world }⟩

/-- The world beside something else. -/
def focusBeside : Focus (τ × Chronicled P) (τ × P.World) :=
  ⟨fun state => (state.1, state.2.world),
    fun part state => (part.1, { state.2 with world := part.2 })⟩

/-- Go on with the chronicle. -/
def tell (happening : Happening P) (state : Chronicled P) : Chronicled P :=
  { state with happenings := state.happenings ++ [happening] }

/-- Do something on the world and tell what came of it. -/
def telling (happening : Result α → Happening P) (step : Attempt P.World α) :
    Attempt (Chronicled P) α :=
  ExceptT.mk fun state =>
    let (outcome, world) := step.perform state.world
    (outcome, { state with world := world }.tell (happening outcome))

/-- Do something on the world and what lies beside it, and tell what came of it. -/
def tellingBeside (happening : τ → Result α → τ → Happening P) (step : Attempt (τ × P.World) α) :
    Attempt (τ × Chronicled P) α :=
  ExceptT.mk fun state =>
    let (outcome, part) := step.perform (state.1, state.2.world)
    (outcome, part.1, { state.2 with world := part.2 }.tell (happening state.1 outcome part.1))

@[simp]
theorem perform_telling (happening : Result α → Happening P) (step : Attempt P.World α)
    (state : Chronicled P) :
    (telling happening step).perform state =
      ((step.perform state.world).1,
        { state with world := (step.perform state.world).2 }.tell
          (happening (step.perform state.world).1)) := rfl

@[simp]
theorem perform_tellingBeside (happening : τ → Result α → τ → Happening P)
    (step : Attempt (τ × P.World) α) (state : τ × Chronicled P) :
    (tellingBeside happening step).perform state =
      ((step.perform (state.1, state.2.world)).1, (step.perform (state.1, state.2.world)).2.1,
        { state.2 with world := (step.perform (state.1, state.2.world)).2.2 }.tell
          (happening state.1 (step.perform (state.1, state.2.world)).1
            (step.perform (state.1, state.2.world)).2.1)) := rfl

end Chronicled

/-- A dialogue over the world, held over the chronicled world and told of when it is over. -/
def Capture.chronicled {P : Platform} {α : Type} (happening : Result α → Happening P) :
    Capture P.World α → Capture (Chronicled P) α
  | .done outcome => .look fun state => .leave (state.tell (happening outcome)) (.done outcome)
  | .look next => .look fun state => (next state.world).chronicled happening
  | .leave world next =>
      .look fun state => .leave { state with world := world } (next.chronicled happening)
  | .signature next => .signature fun answer => (next answer).chronicled happening
  | .layers next => .layers fun answer => (next answer).chronicled happening
  | .parameters next => .parameters fun answer => (next answer).chronicled happening
  | .forward inputs next => .forward inputs fun answer => (next answer).chronicled happening

open Chronicled in
/-- A platform with a chronicle. -/
@[reducible]
def Platform.chronicled (P : Platform) : Platform where
  World := Chronicled P
  Model := P.Model
  Graph := P.Graph
  Executable := P.Executable
  Hook := P.Hook
  model := {
    signature := P.model.signature
    forward := fun model inputs => Attempt.within focus (P.model.forward model inputs)
    parameters := fun model => Attempt.within focus (P.model.parameters model)
    layers := fun model => Attempt.within focus (P.model.layers model)
    castLayer := fun layer dtype =>
      tellingBeside (.castLayer · layer dtype) (P.model.castLayer layer dtype) }
  blankModel := P.blankModel
  trace inputs := (P.trace inputs).chronicled (.trace inputs)
  script := P.script.chronicled .script
  inputCount := P.inputCount
  inferInput position sample := Attempt.within focusBeside (P.inferInput position sample)
  castGraphLayer layer dtype :=
    tellingBeside (.castGraphLayer · layer dtype) (P.castGraphLayer layer dtype)
  propagateShapes := Attempt.within focusBeside P.propagateShapes
  compileTraced graph request :=
    telling (.compileTraced graph request) (P.compileTraced graph request)
  compileScripted graph request :=
    telling (.compileScripted graph request) (P.compileScripted graph request)
  execute executable inputs optimizer :=
    Attempt.within focus (P.execute executable inputs optimizer)
  copyToHost executable := Attempt.within focus (P.copyToHost executable)
  copyToDevice executable := Attempt.within focus (P.copyToDevice executable)
  programText executable := Attempt.within focus (P.programText executable)
  hardwareAvailable := P.hardwareAvailable
  refresh hook := Attempt.within focus (P.refresh hook)

/-- A loss that is computed beside the chronicle. -/
def Loss.chronicled {P : Platform} (loss : Loss P) : Loss P.chronicled :=
  fun output target => Attempt.within Chronicled.focus (loss output target)

/-- A subject of a platform, on the platform with its chronicle. -/
def Subject.chronicled {P : Platform} : Subject P → Subject P.chronicled
  | .own model => .own model
  | .shared handle => .shared handle
  | .training handle loss => .training handle (loss.map Loss.chronicled)

/-- An executor of a platform, on the platform with its chronicle. -/
def Executor.chronicled {P : Platform} (executor : Executor P) : Executor P.chronicled where
  subject := executor.subject.chronicled
  options := executor.options
  training := executor.training
  device := executor.device
  optimizer := executor.optimizer
  requested := executor.requested
  refreshesSeen := executor.refreshesSeen
  warned := executor.warned

end Offload
