/-
# Dimensions that must exist

Looking up or replacing the size of a dimension fails if the shape does not have it.
-/

import Offload.Error

namespace Offload.Shape

/-- The size of a dimension that must exist. -/
def lookup (shape : Shape) (dimension : Nat) : Result Nat :=
  match shape.size? dimension with
  | some size => .ok size
  | none => .error (.dimensionOutOfRange dimension shape.rank)

/-- The shape with another size for a dimension that must exist. -/
def withSize (shape : Shape) (dimension size : Nat) : Result Shape :=
  (shape.lookup dimension).map fun _ => shape.resize dimension size

end Offload.Shape
