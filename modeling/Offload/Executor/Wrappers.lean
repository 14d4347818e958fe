/-
# Wrappers

The two ways to wrap a shared model. An inference wrapper follows the weights of the model; a
training wrapper trains them, and its device becomes the hook through which every handle of the
model refreshes its weights.
-/

import Offload.Executor.Call

namespace Offload.Executor

variable {P : Platform}

/-- Wrap a model for inference. Unless an anchor mode was picked, every result is handed
back. -/
def inferenceModel (handle : Handle) (options : Options) : Attempt (Session P) (Executor P) := do
  let options ← Attempt.ofResult (options.resolveAnchorMode .all)
  make (.shared handle) options false none

/-- The descriptor of a given optimizer, or of gradient descent with the usual learning rate. -/
def descriptorOf (optimizer : Option HostOptimizer) : Result Descriptor :=
  Descriptor.ofHost (optimizer.getD (.sgd HostOptimizer.defaultLearningRate))

/-- Wrap a model and a loss for training. Unless an anchor mode was picked, the last result is
handed back. An optimizer the device cannot run is refused here. -/
def trainingModel (handle : Handle) (options : Options) (loss : Option (Loss P))
    (optimizer : Option HostOptimizer) : Attempt (Session P) (Executor P) := do
  let options ← Attempt.ofResult (options.resolveAnchorMode .final)
  let descriptor ← Attempt.ofResult (descriptorOf optimizer)
  let executor ← make (.training handle loss) options true (some descriptor)
  Session.installHook handle (.device executor.device)
  return executor

/-- The handle of the model that an executor trains. -/
def trainedModel? (executor : Executor P) : Option Handle :=
  match executor.subject with
  | .training handle _ => some handle
  | .own _ => none
  | .shared _ => none

end Offload.Executor
