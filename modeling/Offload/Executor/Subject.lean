/-
# Subjects

What an executor compiles: a model of its own, a model shared through a handle, or a shared
model together with a loss. The last one is called with the arguments of the model and the
inputs of the loss, and runs the model as it is: capturing it must not move weights around.
-/

import Offload.Session.Handle

namespace Offload

/-- A loss computed from the output of a model and the inputs of the loss. -/
abbrev Loss (P : Platform) := Tree → Tree → Attempt P.World Tree

/-- What an executor compiles. -/
inductive Subject (P : Platform) where
  | own (model : P.Model)
  | shared (handle : Handle)
  | training (handle : Handle) (loss : Option (Loss P))

namespace Subject

variable {P : Platform}

/-- The parameters of a model with a loss. -/
def trainingSignature : Signature := ⟨[⟨"args", none⟩, ⟨"loss_inputs", some .absent⟩]⟩

/-- The declared parameters. -/
def signature (session : Session P) : Subject P → Signature
  | .own model => P.model.signature model
  | .shared handle => session.signature handle
  | .training _ _ => trainingSignature

/-- Run the model as it is on the first input and, if there is a loss, pair its output with the
loss of the output and the second input. -/
def trainingForward (handle : Handle) (loss : Option (Loss P)) (inputs : List Tree) :
    Attempt (Session P) Tree :=
  match inputs with
  | [] => throw (.missingArgument "args")
  | arguments :: others => do
      let output ← Session.forwardAsIs handle [arguments]
      match loss with
      | none => return output
      | some loss =>
          return .sequence [output,
            ← Session.onWorld (loss output (others.head?.getD .absent))]

/-- Run the subject. -/
def forward (inputs : List Tree) : Subject P → Attempt (Session P) Tree
  | .own model => Session.onWorld (P.model.forward model inputs)
  | .shared handle => Session.forward handle inputs
  | .training handle loss => trainingForward handle loss inputs

/-- The parameters by path. -/
def parameters : Subject P → Attempt (Session P) (List NamedParameter)
  | .own model => Session.onWorld (P.model.parameters model)
  | .shared handle => Session.parameters handle
  | .training handle _ => Session.parametersAsIs handle

/-- The layers. -/
def layers : Subject P → Attempt (Session P) (List LayerInfo)
  | .own model => Session.onWorld (P.model.layers model)
  | .shared handle => Session.layers handle
  | .training handle _ => Session.layers handle

/-- A model of its own and the world, as a part of subject and session. -/
def ownFocus (model : P.Model) : Focus (Subject P × Session P) (P.Model × P.World) where
  get state := (model, state.2.world)
  set part state := (.own part.1, { state.2 with world := part.2 })

/-- Cast a layer. -/
def castLayer (layer : String) (dtype : DType) : Attempt (Subject P × Session P) Unit := do
  match (← get).1 with
  | .own model => Attempt.within (ownFocus model) (P.model.castLayer layer dtype)
  | .shared handle => Attempt.onRest (Session.castLayer handle layer dtype)
  | .training handle _ => Attempt.onRest (Session.castLayer handle layer dtype)

/-- The handle whose refreshes a device of this subject follows: only a subject that is a shared
model has one. A model of its own is taken to have no refreshes to follow. -/
def followed? : Subject P → Option Handle
  | .shared handle => some handle
  | .own _ => none
  | .training _ _ => none

/-- The loss, if the subject has one. -/
def loss? : Subject P → Option (Loss P)
  | .training _ loss => loss
  | .own _ => none
  | .shared _ => none

end Subject

end Offload
