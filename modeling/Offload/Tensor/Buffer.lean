/-
# Buffers

A flat run of cells of one element type: how many there are, and the cell at each position. A
buffer has an origin: a description of how it came to be, which tells it from the buffers it was
made from, also where they hold the same cells. Views keep the origin of the buffer they look at,
and a copy has another; two copies of one view, made alike, have the same. Main statement:
gathering reads the positions of a layout in turn.
-/

import Offload.Scalar
import Offload.Layout.Basic

namespace Offload

/-- A cell converted to another type. -/
def Cell.convertAs {source : DType} (target : DType) (cell : Cell source) : Result (Cell target) :=
  match Cell.convert? source target cell with
  | some converted => .ok converted
  | none => .error (.unrepresentable target)

/-- How a buffer came to be. Buffers that came to be in the same way have one origin. -/
inductive Origin where
  /-- Made from data; different numbers mark different buffers. -/
  | made (number : Nat)
  /-- Filled with the elements of a view of another buffer, converted to a type. -/
  | gathered (source : Origin) (layout : Layout) (dtype : DType)
  /-- Filled with zeros after the example of a view of another buffer. -/
  | cleared (source : Origin) (shape : Shape)
  deriving DecidableEq, Repr, Inhabited

/-- The number of bytes that a buffer may take at most. -/
def maxBytes : Nat := Nat.pow 2 63 - 1

/-- Cells of one type, and where they come from. -/
structure Buffer where
  dtype : DType
  size : Nat
  cell : Fin size → Cell dtype
  origin : Origin

namespace Buffer

/-- The buffer of given cells. -/
def ofArray (origin : Origin) (dtype : DType) (cells : Array (Cell dtype)) : Buffer :=
  ⟨dtype, cells.size, fun position => cells[position], origin⟩

instance : Inhabited Buffer := ⟨ofArray (.made 0) .u8 #[]⟩

/-- A buffer whose cells follow from their positions, if that many can be addressed. -/
def tabulate (origin : Origin) (dtype : DType) (size : Nat) (cell : Nat → Cell dtype) :
    Result Buffer :=
  if maxBytes < size * dtype.bytes then .error (.tooLarge (size * dtype.bytes))
  else .ok ⟨dtype, size, fun position => cell position, origin⟩

/-- The cell at a position. -/
def read (buffer : Buffer) (position : Nat) : Result (Cell buffer.dtype) :=
  if inside : position < buffer.size then .ok (buffer.cell ⟨position, inside⟩)
  else .error .outOfBounds

/-- The cell at a position, converted to a type. -/
def readAs (buffer : Buffer) (target : DType) (position : Nat) : Result (Cell target) :=
  match buffer.read position with
  | .error cause => .error cause
  | .ok cell =>
      match Cell.convert? buffer.dtype target cell with
      | some converted => .ok converted
      | none => .error (.unrepresentable target)

/-- The elements that a layout addresses, in row-major order, converted to a type. The first
element that cannot be read or converted decides the failure, and none after it is looked at. -/
def gather (buffer : Buffer) (layout : Layout) (target : DType) : Result (List (Cell target)) :=
  layout.collect (buffer.readAs target)

/-- Gathering reads the positions of the layout in turn. -/
theorem gather_eq (buffer : Buffer) (layout : Layout) (target : DType) :
    buffer.gather layout target = layout.positions.bind (·.mapM (buffer.readAs target)) :=
  layout.collect_eq _

/-- The cells of a buffer made from an array are the entries of the array. -/
theorem read_ofArray (origin : Origin) (dtype : DType) (cells : Array (Cell dtype))
    {position : Nat} (inside : position < cells.size) :
    (ofArray origin dtype cells).read position = .ok cells[position] :=
  dif_pos inside

end Buffer

end Offload
