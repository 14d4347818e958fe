/-
# Sessions

The state that all wrappers of a platform share: the platform's world, what the application was
told, the models that handles point at, and the devices of the wrappers. A model is shared by
all its handles, together with the hook through which stale host weights are refreshed and the
count of refreshes so far. While someone holds a model, others may read it only if they all only
read.
-/

import Offload.Notice
import Offload.Platform.Basic
import Offload.Session.Store

namespace Offload

/-- Names a model of a session. -/
structure Handle where
  number : Nat
  deriving DecidableEq, Repr, Inhabited

/-- Names a device of a session. -/
structure DeviceId where
  number : Nat
  deriving DecidableEq, Repr, Inhabited

/-- Where stale host weights are refreshed from. -/
inductive RefreshHook (P : Platform) where
  /-- The device of a wrapper. -/
  | device (id : DeviceId)
  /-- Something outside the library. -/
  | outside (hook : P.Hook)

/-- A model with what its handles share. -/
structure ModelCell (P : Platform) where
  model : P.Model
  /-- How many hold the model for reading. -/
  readers : Nat
  /-- Someone holds the model for writing. -/
  writing : Bool
  hook : Option (RefreshHook P)
  /-- How often host weights were refreshed. -/
  refreshes : Nat

instance (P : Platform) : Inhabited (ModelCell P) := ⟨⟨P.blankModel, 0, false, none, 0⟩⟩

/-- Nobody holds the model, so it may be changed. -/
def ModelCell.isFree {P : Platform} (cell : ModelCell P) : Bool :=
  !cell.writing && cell.readers == 0

/-- The device side of a wrapper: its executable, and which copy of the weights is out of
date. -/
structure Device (P : Platform) where
  executable : Option P.Executable
  hostStale : Bool
  deviceStale : Bool

instance (P : Platform) : Inhabited (Device P) := ⟨⟨none, false, false⟩⟩

/-- What all wrappers of a platform share. -/
structure Session (P : Platform) where
  world : P.World
  notices : List Notice
  models : Store (ModelCell P)
  devices : Store (Device P)

namespace Session

variable {P : Platform} {α : Type}

/-- A session without models or devices. -/
def start (world : P.World) : Session P := ⟨world, [], .empty, .empty⟩

/-- The world as a part of the session. -/
def worldFocus : Focus (Session P) P.World :=
  ⟨Session.world, fun world session => { session with world := world }⟩

/-- A step of the platform. -/
def onWorld (step : Attempt P.World α) : Attempt (Session P) α := Attempt.within worldFocus step

/-- Tell the application something. -/
def notify (notice : Notice) : Attempt (Session P) Unit :=
  modify fun session => { session with notices := session.notices ++ [notice] }

/-- The model of a handle with what its handles share. -/
def cell (session : Session P) (handle : Handle) : ModelCell P :=
  session.models.get handle.number

/-- A device. -/
def device (session : Session P) (id : DeviceId) : Device P := session.devices.get id.number

/-- Change what the handles of a model share. -/
def updateCell (handle : Handle) (change : ModelCell P → ModelCell P) :
    Attempt (Session P) Unit :=
  modify fun session => { session with models := session.models.update handle.number change }

/-- Change a device. -/
def updateDevice (id : DeviceId) (change : Device P → Device P) : Attempt (Session P) Unit :=
  modify fun session => { session with devices := session.devices.update id.number change }

/-- Share a model: a handle that no other model has. -/
def addModel (model : P.Model) : Attempt (Session P) Handle := do
  let session ← get
  let (number, models) := session.models.add ⟨model, 0, false, none, 0⟩
  set { session with models := models }
  return ⟨number⟩

/-- A device that nothing was compiled for yet. -/
def addDevice : Attempt (Session P) DeviceId := do
  let session ← get
  let (number, devices) := session.devices.add default
  set { session with devices := devices }
  return ⟨number⟩

end Session

end Offload
