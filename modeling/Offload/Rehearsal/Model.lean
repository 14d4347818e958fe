/-
# The models of a rehearsal

A model of a rehearsal has a signature and parameters, and gives back its first input or all of
them. It casts a layer parameter by parameter, so that a parameter which cannot be converted
leaves the earlier ones converted.
-/

import Offload.Rehearsal.World

namespace Offload.Rehearsal

/-- A model that computes nothing. -/
structure Model where
  signature : Signature
  parameters : List NamedParameter
  /-- The output holds all inputs, not only the first. -/
  returnsAll : Bool
  deriving Inhabited

namespace Model

/-- Convert the parameters of a layer in order, up to the first that cannot be. -/
def castParameters (layer : String) (dtype : DType) :
    List NamedParameter → Result Unit × List NamedParameter
  | [] => (.ok (), [])
  | (path, value) :: later =>
      if LayerInfo.nameOfPath path = layer then
        match value.toDType dtype with
        | .error cause => (.error cause, (path, value) :: later)
        | .ok converted =>
            let (outcome, rest) := castParameters layer dtype later
            (outcome, (path, converted) :: rest)
      else
        let (outcome, rest) := castParameters layer dtype later
        (outcome, (path, value) :: rest)

/-- The model has a parameter in a layer. -/
def hasLayer (model : Model) (layer : String) : Bool :=
  model.parameters.any fun parameter => LayerInfo.nameOfPath parameter.1 == layer

/-- Run a model. -/
def forward (model : Model) (inputs : List Tree) : Attempt World Tree := do
  check "forward"
  if model.returnsAll then return .sequence inputs
  match inputs with
  | first :: _ => return first
  | [] => throw (.custom "no input")

/-- The parameters of a model. -/
def readParameters (model : Model) : Attempt World (List NamedParameter) := do
  check "params"
  return model.parameters

/-- Cast a layer of a model. -/
def castLayer (layer : String) (dtype : DType) : Attempt (Model × World) Unit := do
  Attempt.onRest (perform (.modelCast layer dtype) s!"cast {layer} {dtype.name}")
  let model := (← get).1
  if !model.hasLayer layer then throw (.unknownLayer layer)
  let (outcome, parameters) := castParameters layer dtype model.parameters
  modify fun state => ({ model with parameters := parameters }, state.2)
  Attempt.ofResult outcome

end Model

/-- What can be asked of a model of a rehearsal. -/
def modelInterface : ModelInterface World Model where
  signature := Model.signature
  forward := Model.forward
  parameters := Model.readParameters
  castLayer := Model.castLayer

/-- A model that cannot cast its layers. -/
def rigidModelInterface : ModelInterface World Model where
  signature := Model.signature
  forward := Model.forward
  parameters := Model.readParameters

end Offload.Rehearsal
