/-
# Devices

What can be done with the executable of a wrapper, and how its two staleness marks follow the
copies of the weights: a copy clears the mark of the side it brings up to date, and only when it
succeeds.
-/

import Offload.Session.Basic

namespace Offload.Session

variable {P : Platform} {α : Type}

/-- The device has an executable. -/
def isCompiled (session : Session P) (id : DeviceId) : Bool :=
  (session.device id).executable.isSome

/-- Use the executable of a device, which must have one. -/
def withExecutable (id : DeviceId) (use : P.Executable → Attempt P.World α) :
    Attempt (Session P) α := do
  match ((← get).device id).executable with
  | some executable => onWorld (use executable)
  | none => throw .notCompiled

/-- Give a device its executable. -/
def setExecutable (id : DeviceId) (executable : P.Executable) : Attempt (Session P) Unit :=
  updateDevice id fun device => { device with executable := some executable }

/-- Record that the weights on the host are older than those on a device. -/
def markHostStale (id : DeviceId) : Attempt (Session P) Unit :=
  updateDevice id fun device => { device with hostStale := true }

/-- Record that the weights on a device are older than those on the host. -/
def markDeviceStale (id : DeviceId) : Attempt (Session P) Unit :=
  updateDevice id fun device => { device with deviceStale := true }

/-- Fetch the weights from a device. -/
def copyToHost (id : DeviceId) : Attempt (Session P) Unit := do
  withExecutable id P.copyToHost
  updateDevice id fun device => { device with hostStale := false }

/-- Send the weights to a device. -/
def copyToDevice (id : DeviceId) : Attempt (Session P) Unit := do
  withExecutable id P.copyToDevice
  updateDevice id fun device => { device with deviceStale := false }

/-- Fetch the weights from a device if those on the host are stale; says whether it did. -/
def fetchIfStale (id : DeviceId) : Attempt (Session P) Bool := do
  if ((← get).device id).hostStale then
    notify .fetchingWeights
    copyToHost id
    return true
  else
    return false

end Offload.Session
