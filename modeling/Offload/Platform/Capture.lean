/-
# Capture

A platform captures a model by talking to it: it asks for its signature, layers or parameters,
or runs it on some inputs, and goes on from the answer. A capture is such a dialogue written
down as data. Whoever runs it answers the questions, so that a question has the same effects as
when anyone else asks it.
-/

import Offload.Call.Signature
import Offload.Layer

namespace Offload

/-- A dialogue with a model over a world of its own. -/
inductive Capture (World α : Type) where
  /-- The dialogue is over. -/
  | done (outcome : Result α)
  /-- Look at the world. -/
  | look (next : World → Capture World α)
  /-- Leave the world in another state. -/
  | leave (world : World) (next : Capture World α)
  /-- Ask for the declared parameters. -/
  | signature (next : Signature → Capture World α)
  /-- Ask for the layers. -/
  | layers (next : Result (List LayerInfo) → Capture World α)
  /-- Ask for the parameters. -/
  | parameters (next : Result (List NamedParameter) → Capture World α)
  /-- Run the model. -/
  | forward (inputs : List Tree) (next : Result Tree → Capture World α)

/-- How the questions of a capture are answered. -/
structure ModelAnswers (σ : Type) where
  signature : σ → Signature
  layers : Attempt σ (List LayerInfo)
  parameters : Attempt σ (List NamedParameter)
  forward : List Tree → Attempt σ Tree

namespace Capture

variable {World α β σ : Type}

/-- Go on after a dialogue that ended well. -/
def andThen (rest : α → Capture World β) : Capture World α → Capture World β
  | .done (.ok value) => rest value
  | .done (.error cause) => .done (.error cause)
  | .look next => .look fun world => (next world).andThen rest
  | .leave world next => .leave world (next.andThen rest)
  | .signature next => .signature fun answer => (next answer).andThen rest
  | .layers next => .layers fun answer => (next answer).andThen rest
  | .parameters next => .parameters fun answer => (next answer).andThen rest
  | .forward inputs next => .forward inputs fun answer => (next answer).andThen rest

instance : Monad (Capture World) where
  pure value := .done (.ok value)
  bind first rest := first.andThen rest

/-- A step on the world as part of a dialogue. -/
def ofAttempt (step : Attempt World α) : Capture World α :=
  .look fun world =>
    let (outcome, next) := step.perform world
    .leave next (.done outcome)

/-- Ask for the declared parameters. -/
def askSignature : Capture World Signature := .signature fun answer => .done (.ok answer)

/-- Ask for the layers; a failure ends the dialogue. -/
def askLayers : Capture World (List LayerInfo) := .layers .done

/-- Run the model; a failure ends the dialogue. -/
def askForward (inputs : List Tree) : Capture World Tree := .forward inputs .done

/-- Hold a dialogue. -/
def run (answers : ModelAnswers σ) (world : Focus σ World) : Capture World α → Attempt σ α
  | .done outcome => Attempt.ofResult outcome
  | .look next => do (next (world.get (← get))).run answers world
  | .leave reached next => do
      modify (world.set reached)
      next.run answers world
  | .signature next => do (next (answers.signature (← get))).run answers world
  | .layers next => do (next (← answers.layers.observe)).run answers world
  | .parameters next => do (next (← answers.parameters.observe)).run answers world
  | .forward inputs next => do (next (← (answers.forward inputs).observe)).run answers world

end Capture

end Offload
