/-
# Handles

A model is read and changed through handles. Running it or reading its parameters first
refreshes stale host weights through the hook that all its handles share; asking for its
signature or its layers does not. A model that someone holds for writing cannot be read, and one
that someone holds at all cannot be changed.
-/

import Offload.Session.Device

namespace Offload.Session

variable {P : Platform} {α : Type}

/-- Refresh host weights through a hook; says whether they were stale. -/
def runHook : Option (RefreshHook P) → Attempt (Session P) Bool
  | none => return false
  | some (.device id) => fetchIfStale id
  | some (.outside hook) => onWorld (P.refresh hook)

/-- Refresh stale host weights of a model, and count it; says whether they were stale. -/
def resolve (handle : Handle) : Attempt (Session P) Bool := do
  let refreshed ← runHook ((← get).cell handle).hook
  if refreshed then
    updateCell handle fun cell => { cell with refreshes := cell.refreshes + 1 }
  return refreshed

/-- Refresh the host weights of a model through a hook from now on. -/
def installHook (handle : Handle) (hook : RefreshHook P) : Attempt (Session P) Unit :=
  updateCell handle fun cell => { cell with hook := some hook }

/-- The model of a handle, for reading. -/
def borrow (handle : Handle) : Attempt (Session P) P.Model := do
  let cell := (← get).cell handle
  if cell.writing then throw .heldForWriting
  return cell.model

/-- Hold a model for reading. -/
def holdForReading (handle : Handle) : Attempt (Session P) Unit := do
  let _ ← borrow handle
  updateCell handle fun cell => { cell with readers := cell.readers + 1 }

/-- Hold a model for writing. -/
def holdForWriting (handle : Handle) : Attempt (Session P) Unit := do
  if !((← get).cell handle).isFree then throw .held
  updateCell handle fun cell => { cell with writing := true }

/-- Let go of a model held for reading. -/
def releaseReading (handle : Handle) : Attempt (Session P) Unit :=
  updateCell handle fun cell => { cell with readers := cell.readers - 1 }

/-- Let go of a model held for writing. -/
def releaseWriting (handle : Handle) : Attempt (Session P) Unit :=
  updateCell handle fun cell => { cell with writing := false }

/-- The declared parameters of a model; none while it is held for writing. -/
def signature (session : Session P) (handle : Handle) : Signature :=
  let cell := session.cell handle
  if cell.writing then .empty else P.model.signature cell.model

/-- Run a model without refreshing its weights. -/
def forwardAsIs (handle : Handle) (inputs : List Tree) : Attempt (Session P) Tree := do
  onWorld (P.model.forward (← borrow handle) inputs)

/-- The parameters of a model without refreshing its weights. -/
def parametersAsIs (handle : Handle) : Attempt (Session P) (List NamedParameter) := do
  onWorld (P.model.parameters (← borrow handle))

/-- The layers of a model. -/
def layers (handle : Handle) : Attempt (Session P) (List LayerInfo) := do
  onWorld (P.model.layers (← borrow handle))

/-- Refresh the weights of a model and run it. -/
def forward (handle : Handle) (inputs : List Tree) : Attempt (Session P) Tree := do
  let _ ← resolve handle
  forwardAsIs handle inputs

/-- Refresh the weights of a model and read its parameters. -/
def parameters (handle : Handle) : Attempt (Session P) (List NamedParameter) := do
  let _ ← resolve handle
  parametersAsIs handle

/-- A model and the world as a part of the session. -/
def modelFocus (handle : Handle) : Focus (Session P) (P.Model × P.World) where
  get session := ((session.cell handle).model, session.world)
  set part session :=
    { session with
      world := part.2
      models := session.models.update handle.number fun cell => { cell with model := part.1 } }

/-- Cast a layer of a model. -/
def castLayer (handle : Handle) (layer : String) (dtype : DType) :
    Attempt (Session P) Unit := do
  if !((← get).cell handle).isFree then throw .held
  Attempt.within (modelFocus handle) (P.model.castLayer layer dtype)

/-- A handle as it is shown in diagnostics: whether a hook is installed, and the count of
refreshes. -/
def handleSummary (session : Session P) (handle : Handle) : String :=
  let cell := session.cell handle
  s!"ModelRef \x7b sync: HostSync \x7b installed: {cell.hook.isSome}, " ++
    s!"refreshes: {cell.refreshes} \x7d, .. \x7d"

end Offload.Session
