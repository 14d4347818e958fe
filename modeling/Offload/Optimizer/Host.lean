/-
# Host optimizers

An optimizer as a training loop describes it: the name of a family and groups of named
hyper-parameters.
-/

import Offload.Dict
import Offload.Double

namespace Offload

/-- The value of a hyper-parameter. -/
inductive HyperParameter where
  | float (value : Double)
  | pair (first second : Double)
  | bool (value : Bool)
  deriving DecidableEq, Repr, Inhabited

namespace HyperParameter

/-- Equality of values of one kind, floating-point numbers by value. -/
def equal : HyperParameter → HyperParameter → Bool
  | float left, float right => left.equal right
  | pair left left', pair right right' => left.equal right && left'.equal right'
  | bool left, bool right => left == right
  | _, _ => false

end HyperParameter

/-- The hyper-parameters of one group of model parameters. -/
abbrev ParameterGroup := Dict HyperParameter

/-- An optimizer as the host describes it. -/
structure HostOptimizer where
  family : String
  groups : List ParameterGroup
  deriving Inhabited

namespace HostOptimizer

/-- The family of stochastic gradient descent. -/
def sgdFamily : String := "sgd"

/-- The family of adaptive moment estimation. -/
def adamFamily : String := "adam"

/-- The word nearest to 0.9. -/
def ninetyPercent : Double := ⟨0x3feccccccccccccd⟩

/-- The word nearest to 0.999. -/
def almostOne : Double := ⟨0x3feff7ced916872b⟩

/-- The word nearest to 1e-8, from which a divisor is kept away from zero. -/
def defaultEpsilon : Double := ⟨0x3e45798ee2308c3a⟩

/-- The word nearest to 0.01. -/
def defaultLearningRate : Double := ⟨0x3f847ae147ae147b⟩

/-- An optimizer of any family with one group that is still empty. -/
def ofFamily (family : String) : HostOptimizer := ⟨family, [Dict.empty]⟩

/-- Set a hyper-parameter of every group. -/
def assign (optimizer : HostOptimizer) (name : String) (value : HyperParameter) :
    HostOptimizer :=
  { optimizer with groups := optimizer.groups.map (·.insert name value) }

/-- Set the momentum. -/
def withMomentum (optimizer : HostOptimizer) (momentum : Double) : HostOptimizer :=
  optimizer.assign "momentum" (.float momentum)

/-- Set the dampening. -/
def withDampening (optimizer : HostOptimizer) (dampening : Double) : HostOptimizer :=
  optimizer.assign "dampening" (.float dampening)

/-- Set the weight decay. -/
def withWeightDecay (optimizer : HostOptimizer) (weightDecay : Double) : HostOptimizer :=
  optimizer.assign "weight_decay" (.float weightDecay)

/-- Set the two decay rates of the moments. -/
def withBetas (optimizer : HostOptimizer) (first second : Double) : HostOptimizer :=
  optimizer.assign "betas" (.pair first second)

/-- Set the amount by which a divisor is kept away from zero. -/
def withEpsilon (optimizer : HostOptimizer) (epsilon : Double) : HostOptimizer :=
  optimizer.assign "eps" (.float epsilon)

/-- Ask for the variant with a running maximum, or not. -/
def withAmsgrad (optimizer : HostOptimizer) (amsgrad : Bool) : HostOptimizer :=
  optimizer.assign "amsgrad" (.bool amsgrad)

/-- Add a group: the first one with some values replaced. -/
def addGroup (optimizer : HostOptimizer) (overrides : ParameterGroup) : HostOptimizer :=
  let base := optimizer.groups.head?.getD Dict.empty
  { optimizer with groups := optimizer.groups ++ [base.insertAll overrides.entries] }

/-- Stochastic gradient descent without momentum, dampening or weight decay. -/
def sgd (learningRate : Double) : HostOptimizer :=
  (ofFamily sgdFamily)
    |>.assign "lr" (.float learningRate)
    |>.assign "momentum" (.float .zero)
    |>.assign "dampening" (.float .zero)
    |>.assign "weight_decay" (.float .zero)
    |>.assign "nesterov" (.bool false)

/-- Adaptive moment estimation with its usual values. -/
def adam (learningRate : Double) : HostOptimizer :=
  (ofFamily adamFamily)
    |>.assign "lr" (.float learningRate)
    |>.assign "betas" (.pair ninetyPercent almostOne)
    |>.assign "eps" (.float defaultEpsilon)
    |>.assign "weight_decay" (.float .zero)
    |>.assign "amsgrad" (.bool false)

/-- Equality of descriptions, floating-point numbers by value. -/
def equal (left right : HostOptimizer) : Bool :=
  left.family == right.family && left.groups.length == right.groups.length &&
    (left.groups.zip right.groups).all fun (group, group') =>
      group.agrees HyperParameter.equal group'

end HostOptimizer

end Offload
