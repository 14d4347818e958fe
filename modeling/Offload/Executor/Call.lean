/-
# Calls

One call binds its arguments at full size, compiles if that was not done, brings the weights on
the device up to date, and executes. An executor that never connects stops after compilation. A
requested optimizer goes along with the execution if it differs from the one on the device; it
counts as on the device once an execution succeeds, and stays requested until then.
-/

import Offload.Executor.Compile

namespace Offload.Executor

variable {P : Platform}

/-- Bring the device up to date with the model it follows: stale host weights are refreshed
first, and any refresh it has not seen is sent. -/
def followModel : Attempt (Running P) Unit := do
  match (← get).executor.subject.followed? with
  | none => pure ()
  | some handle =>
      let _ ← onSession (Session.resolve handle)
      let running ← get
      if (running.session.cell handle).refreshes ≠ running.executor.refreshesSeen then
        notify .sendingRefreshedWeights
        copyToDevice
        noteRefreshes

/-- Send weights that were modified by hand. -/
def sendModified : Attempt (Running P) Unit := do
  let running ← get
  if (running.session.device running.executor.device).deviceStale then
    notify .sendingModifiedWeights
    copyToDevice

/-- The requested descriptor, if the one on the device differs from it. -/
def toPush (executor : Executor P) : Option Descriptor :=
  executor.requested.filter fun descriptor =>
    !Descriptor.optionEqual executor.optimizer (some descriptor)

/-- Execute on the leaves of a binding. -/
def execute (inputs : List Value) : Attempt (Running P) (List Tree) := do
  let executor := (← get).executor
  let results ← onSession (Session.withExecutable executor.device fun executable =>
    P.execute executable inputs (toPush executor))
  update fun executor =>
    { executor with
      optimizer := executor.requested.orElse fun _ => executor.optimizer
      requested := none }
  if executor.training then onSession (Session.markHostStale executor.device)
  return results

/-- Run one step. -/
def call (call : CallArguments) : Attempt (Running P) Output := do
  let binding ← bind call
  ensureCompiled binding
  let executor := (← get).executor
  if executor.options.connectionType? = some .never then
    notify .notConnecting
    return .notExecuted
  if !executor.training then followModel
  sendModified
  return .ofResults (← execute binding.leaves)

end Offload.Executor
