/-
# Layouts

How the logical shape of a tensor lies over a flat buffer: a shape, one stride for each
dimension and the position of the first element. Slicing and exchanging dimensions only make
another layout over the same buffer; nothing moves. A layout may be written down with fewer
strides than dimensions; whatever needs a missing stride fails.
-/

import Offload.Layout.Odometer
import Offload.Shape.Lookup

namespace Offload

/-- A shape over a flat buffer. -/
structure Layout where
  shape : Shape
  strides : List Nat
  offset : Nat
  deriving DecidableEq, Repr, Inhabited

namespace Layout

/-- The layout of elements written row by row from the start of a buffer. -/
def rowMajor (shape : Shape) : Layout := ⟨shape, shape.rowMajorStrides, 0⟩

/-- The number of dimensions. -/
def rank (layout : Layout) : Nat := layout.shape.rank

/-- The number of elements. -/
def elementCount (layout : Layout) : Nat := layout.shape.elementCount

/-- Whether the elements lie in one block in row-major order. Only dimensions with more than
one entry tell, and where the block starts does not matter. -/
def isContiguous (layout : Layout) : Bool :=
  (layout.shape.dims.zip (layout.strides.zip layout.shape.rowMajorStrides)).all
    fun (size, stride, expected) => size ≤ 1 || stride == expected

/-- The layout with two dimensions exchanged. -/
def transpose (layout : Layout) (first second : Nat) : Result Layout :=
  if layout.rank ≤ first ∨ layout.rank ≤ second then
    .error (.dimensionOutOfRange (max first second) layout.rank)
  else if layout.strides.length ≤ first ∨ layout.strides.length ≤ second then
    .error .outOfBounds
  else
    .ok {
      shape := layout.shape.exchange first second
      strides := Shape.exchanged layout.strides first second
      offset := layout.offset }

/-- The layout of `length` entries of a dimension from `start` on. -/
def narrow (layout : Layout) (dimension start length : Nat) : Result Layout :=
  match layout.shape.lookup dimension with
  | .error cause => .error cause
  | .ok size =>
      if size < start + length then
        .error (.narrowOutOfBounds dimension start length size)
      else
        match layout.strides[dimension]? with
        | none => .error .outOfBounds
        | some stride =>
            .ok {
              shape := layout.shape.resize dimension length
              strides := layout.strides
              offset := layout.offset + start * stride }

/-- The odometer over a layout. A block without elements has no position to start from. -/
def odometer (layout : Layout) : Odometer where
  wheels := ((layout.shape.dims.zip layout.strides).map fun (size, stride) =>
    ⟨size, stride, 0⟩).reverse
  position := if layout.elementCount = 0 then none else some layout.offset

/-- There are elements, but a stride to find them is missing. -/
def lacksStrides (layout : Layout) : Prop :=
  layout.elementCount ≠ 0 ∧ layout.strides.length < layout.rank

instance (layout : Layout) : Decidable layout.lacksStrides :=
  inferInstanceAs (Decidable (_ ∧ _))

/-- The positions of at most the first `count` elements in row-major order. -/
def firstPositions (layout : Layout) (count : Nat) : Result (List Nat) :=
  if layout.lacksStrides then .error .outOfBounds
  else .ok (layout.odometer.take count)

/-- The positions of all elements in row-major order. -/
def positions (layout : Layout) : Result (List Nat) :=
  layout.firstPositions layout.elementCount

/-- What the positions of all elements give in row-major order. The first position that cannot
be read decides the failure. -/
def collect {α : Type} (layout : Layout) (read : Nat → Result α) : Result (List α) :=
  if layout.lacksStrides then .error .outOfBounds
  else layout.odometer.collect read layout.elementCount

/-- Reading along a layout is reading its positions in turn. -/
theorem collect_eq {α : Type} (layout : Layout) (read : Nat → Result α) :
    layout.collect read = layout.positions.bind (·.mapM read) := by
  rw [collect, positions, firstPositions]
  split
  · rfl
  · exact layout.odometer.collect_eq read layout.elementCount

end Layout

end Offload
