/-
# Executors

An executor wraps a subject with its options and, after the first call, one executable on a
device of its own. It keeps two optimizer descriptors: the one on the device and the one
requested last, which is pushed with the next execution if it differs.
-/

import Offload.Batch
import Offload.Executor.Subject
import Offload.Promotion

namespace Offload

/-- What one call gives back. -/
inductive Output where
  /-- The device gave exactly one result. -/
  | single (result : Tree)
  /-- The device gave none or several results. -/
  | many (results : List Tree)
  /-- The executor never connects, so nothing was executed. -/
  | notExecuted
  deriving Inhabited

namespace Output

/-- The output for the results of the device. -/
def ofResults : List Tree → Output
  | [result] => single result
  | results => many results

/-- Something was executed. -/
def isExecuted : Output → Bool
  | notExecuted => false
  | _ => true

/-- The result, if there was exactly one. -/
def single? : Output → Option Tree
  | single result => some result
  | _ => none

/-- All results. -/
def toList : Output → List Tree
  | single result => [result]
  | many results => results
  | notExecuted => []

end Output

/-- A wrapped model. -/
structure Executor (P : Platform) where
  subject : Subject P
  options : Options
  /-- Executions update the weights on the device. -/
  training : Bool
  device : DeviceId
  /-- The descriptor on the device. -/
  optimizer : Option Descriptor
  /-- The descriptor asked for and not yet executed with. -/
  requested : Option Descriptor
  /-- The count of refreshes when the device last got the weights of the host. -/
  refreshesSeen : Nat
  /-- The application was warned of strided inputs. -/
  warned : Bool

/-- An executor at work in its session. -/
structure Running (P : Platform) where
  executor : Executor P
  session : Session P

namespace Executor

variable {P : Platform} {α : Type}

/-- A new executor with a device of its own. The descriptor is the one the executable will be
compiled with. -/
def make (subject : Subject P) (options : Options) (training : Bool)
    (optimizer : Option Descriptor) : Attempt (Session P) (Executor P) := do
  let device ← Session.addDevice
  return {
    subject := subject
    options := options
    training := training
    device := device
    optimizer := optimizer
    requested := optimizer
    refreshesSeen := 0
    warned := false }

/-- The session of a running executor. -/
def sessionFocus : Focus (Running P) (Session P) :=
  ⟨Running.session, fun session running => { running with session := session }⟩

/-- The world of a running executor. -/
def worldFocus : Focus (Running P) P.World where
  get running := running.session.world
  set world running := { running with session := { running.session with world := world } }

/-- Subject and session of a running executor. -/
def subjectFocus : Focus (Running P) (Subject P × Session P) where
  get running := (running.executor.subject, running.session)
  set part running :=
    { running with executor := { running.executor with subject := part.1 }, session := part.2 }

/-- A captured graph and the world, as a part of the graph and a running executor. -/
def graphFocus : Focus (P.Graph × Running P) (P.Graph × P.World) where
  get state := (state.1, state.2.session.world)
  set part state := (part.1, worldFocus.set part.2 state.2)

/-- A step on the session. -/
def onSession (step : Attempt (Session P) α) : Attempt (Running P) α :=
  Attempt.within sessionFocus step

/-- A step of the platform. -/
def onWorld (step : Attempt P.World α) : Attempt (Running P) α := Attempt.within worldFocus step

/-- A step on a captured graph. -/
def onGraph (step : Attempt (P.Graph × P.World) α) : Attempt (P.Graph × Running P) α :=
  Attempt.within graphFocus step

/-- Change the executor. -/
def update (change : Executor P → Executor P) : Attempt (Running P) Unit :=
  modify fun running => { running with executor := change running.executor }

/-- Tell the application something. -/
def notify (notice : Notice) : Attempt (Running P) Unit := onSession (Session.notify notice)

/-- The executor has an executable. -/
def isCompiled (running : Running P) : Bool :=
  running.session.isCompiled running.executor.device

/-- Ask for another optimizer. It is pushed with the next execution if it differs from the one
on the device. -/
def setOptimizer (optimizer : HostOptimizer) : Attempt (Running P) Unit := do
  let descriptor ← Attempt.ofResult (Descriptor.ofHost optimizer)
  update fun executor => { executor with requested := some descriptor }

/-- Fetch the weights from the device. -/
def copyToHost : Attempt (Running P) Unit := do
  onSession (Session.copyToHost (← get).executor.device)

/-- Send the weights to the device. -/
def copyToDevice : Attempt (Running P) Unit := do
  onSession (Session.copyToDevice (← get).executor.device)

/-- Record that the weights on the host were modified by hand; the next call sends them. -/
def markHostModified : Attempt (Running P) Unit := do
  onSession (Session.markDeviceStale (← get).executor.device)

/-- The program of the executable as text. -/
def programText : Attempt (Running P) String := do
  onSession (Session.withExecutable (← get).executor.device P.programText)

/-- Bind a call to the signature of the subject and bring its tensors into one block. The
application is told the first time there is something to bring. -/
def bind (call : CallArguments) : Attempt (Running P) Binding := do
  let running ← get
  let signature := running.executor.subject.signature running.session
  let bound ← Attempt.ofResult (Binding.bind signature call)
  let (densified, binding) ← Attempt.withOwn bound Binding.densify
  if densified && !running.executor.warned then
    notify .stridedInput
    update fun executor => { executor with warned := true }
  return binding

end Executor

end Offload
