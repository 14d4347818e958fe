/-
# Optimizer descriptors

An optimizer as the device is told about it: one of two families and a value for each
hyper-parameter the family has, marked when it is the family's usual one. Such a value becomes
a constant of the executable; the learning rate never does, since it changes most often.
-/

import Offload.Error
import Offload.Json
import Offload.Optimizer.Host

namespace Offload

/-- The families the device can run. -/
inductive OptimizerKind where
  | sgd
  | adam
  deriving DecidableEq, Repr, Inhabited

/-- The name of a kind. -/
def OptimizerKind.name : OptimizerKind → String
  | sgd => "Sgd"
  | adam => "Adam"

/-- An optimizer as the device is told about it: each value with its mark. -/
structure Descriptor where
  kind : OptimizerKind
  parameters : Dict (Double × Bool)
  deriving Inhabited

namespace Descriptor

/-- A floating-point hyper-parameter that a family must have. -/
def floatOf (family : String) (group : ParameterGroup) (name : String) : Result Double :=
  match group.get? name with
  | some (.float value) => .ok value
  | _ => .error (.missingHyperParameter family name)

/-- A pair of hyper-parameters that a family must have. -/
def pairOf (family : String) (group : ParameterGroup) (name : String) :
    Result (Double × Double) :=
  match group.get? name with
  | some (.pair first second) => .ok (first, second)
  | _ => .error (.missingHyperParameter family name)

/-- A value marked as usual when it equals a given one. -/
def marked (usual value : Double) : Double × Bool := (value, value.equal usual)

/-- The values particular to stochastic gradient descent. -/
def sgdParameters (group : ParameterGroup) : Result (List (String × Double × Bool)) := do
  let momentum ← floatOf HostOptimizer.sgdFamily group "momentum"
  let dampening ← floatOf HostOptimizer.sgdFamily group "dampening"
  return [("momentum", marked .zero momentum), ("dampening", marked .zero dampening)]

/-- The values particular to adaptive moment estimation. Its variant with a running maximum is
not supported. -/
def adamParameters (group : ParameterGroup) : Result (List (String × Double × Bool)) := do
  let (beta1, beta2) ← pairOf HostOptimizer.adamFamily group "betas"
  let epsilon ← floatOf HostOptimizer.adamFamily group "eps"
  if group.get? "amsgrad" = some (.bool true) then
    throw (.unsupportedOptimizerVariant HostOptimizer.adamFamily "amsgrad")
  return [("beta1", (beta1, false)), ("beta2", (beta2, false)),
    ("eps", marked HostOptimizer.defaultEpsilon epsilon)]

/-- The kind of a family the device can run. -/
def kindOf? (family : String) : Option OptimizerKind :=
  if family = HostOptimizer.sgdFamily then some .sgd
  else if family = HostOptimizer.adamFamily then some .adam
  else none

/-- The values particular to a kind. -/
def particular : OptimizerKind → ParameterGroup → Result (List (String × Double × Bool))
  | .sgd => sgdParameters
  | .adam => adamParameters

/-- Describe an optimizer of a kind by its only group. -/
def ofGroup (kind : OptimizerKind) (family : String) (group : ParameterGroup) :
    Result Descriptor := do
  let learningRate ← floatOf family group "lr"
  let weightDecay ← floatOf family group "weight_decay"
  let others ← particular kind group
  return ⟨kind, Dict.ofList (others ++
    [("lr", (learningRate, false)), ("weight_decay", marked .zero weightDecay)])⟩

/-- Describe a host optimizer, which must have one group and a family the device can run. -/
def ofHost (optimizer : HostOptimizer) : Result Descriptor :=
  match optimizer.groups with
  | [group] =>
      match kindOf? optimizer.family with
      | some kind => ofGroup kind optimizer.family group
      | none => .error (.unsupportedOptimizer optimizer.family)
  | groups => .error (.multipleParameterGroups groups.length)

/-- The value of a hyper-parameter and its mark. -/
def get? (descriptor : Descriptor) (name : String) : Option (Double × Bool) :=
  descriptor.parameters.get? name

/-- Equality by value: the same kind, names and marks, and equal numbers. -/
def equal (left right : Descriptor) : Bool :=
  left.kind == right.kind &&
    left.parameters.agrees (fun entry entry' =>
      entry.1.equal entry'.1 && entry.2 == entry'.2) right.parameters

/-- Equality of descriptors that may be missing. -/
def optionEqual : Option Descriptor → Option Descriptor → Bool
  | none, none => true
  | some left, some right => left.equal right
  | _, _ => false

/-- The JSON object of a descriptor. -/
def json (descriptor : Descriptor) : String :=
  String.ofList <| Json.object [
    ("kind", Json.string descriptor.kind.name),
    ("params", Json.object (descriptor.parameters.entries.map fun (name, value, isUsual) =>
      (name, Json.array [Json.double value, Json.bool isUsual])))]

end Descriptor

end Offload
