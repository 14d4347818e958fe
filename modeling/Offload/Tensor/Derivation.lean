/-
# Derived tensors

The ways in which one tensor is made from another. Views look at the buffer of the tensor they
come from; the other ways may copy.
-/

import Offload.Tensor.Basic

namespace Offload

/-- A step from one layout to another over the same buffer. -/
inductive ViewStep where
  | narrow (dimension start length : Nat)
  | transpose (first second : Nat)
  deriving DecidableEq, Repr

/-- Make a step from a layout. -/
def Layout.step (layout : Layout) : ViewStep → Result Layout
  | .narrow dimension start length => layout.narrow dimension start length
  | .transpose first second => layout.transpose first second

/-- A way to make a tensor from another. -/
inductive Derivation where
  | view (step : ViewStep)
  | contiguous
  | toDType (dtype : DType)
  | zerosLike
  | same
  deriving DecidableEq, Repr

namespace Tensor

/-- Make a tensor from another. -/
def derive (tensor : Tensor) : Derivation → Result Tensor
  | .view step => (tensor.layout.step step).map tensor.view
  | .contiguous => tensor.contiguous
  | .toDType dtype => tensor.toDType dtype
  | .zerosLike => tensor.zerosLike
  | .same => .ok tensor

/-- Make a tensor from another, and give a copy a number of its own, so that no two copies count
as one buffer. -/
def deriveNumbered (tensor : Tensor) (derivation : Derivation) (number : Nat) : Result Tensor :=
  (tensor.derive derivation).map fun derived =>
    if derived.sharesStorage tensor then derived else derived.rename number

end Tensor

end Offload
