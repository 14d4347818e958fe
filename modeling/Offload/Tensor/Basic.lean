/-
# Host tensors

A tensor is a buffer seen through a layout. Slicing and exchanging dimensions give views of the
same buffer; only densifying and converting copy, and only if there is something to do. Two
tensors are equal when their logical elements are, whatever their layouts.
-/

import Offload.Tensor.Buffer

namespace Offload

/-- A buffer seen through a layout. -/
structure Tensor where
  buffer : Buffer
  layout : Layout
  deriving Inhabited

namespace Tensor

/-- The type of the elements. -/
def dtype (tensor : Tensor) : DType := tensor.buffer.dtype

/-- The logical shape. -/
def shape (tensor : Tensor) : Shape := tensor.layout.shape

/-- The number of dimensions. -/
def rank (tensor : Tensor) : Nat := tensor.layout.rank

/-- The number of elements. -/
def elementCount (tensor : Tensor) : Nat := tensor.layout.elementCount

/-- The elements lie in one block in row-major order. -/
def isContiguous (tensor : Tensor) : Bool := tensor.layout.isContiguous

/-- Both tensors are views of one buffer, going by the origins of their buffers. Origins decide this
only between a tensor and what is derived from it: views keep the origin, and a copy has another.
Two copies of one view have one origin until `rename` tells them apart. -/
def sharesStorage (tensor other : Tensor) : Bool := tensor.buffer.origin == other.buffer.origin

/-- A tensor over a new buffer whose cells are the elements row by row. -/
def dense (origin : Origin) (dtype : DType) (cells : List (Cell dtype)) (shape : Shape) :
    Tensor :=
  ⟨.ofArray origin dtype cells.toArray, .rowMajor shape⟩

/-- A tensor of the given elements, whose number must fit the shape. -/
def ofList (origin : Origin) (dtype : DType) (cells : List (Cell dtype)) (shape : Shape) :
    Result Tensor :=
  if shape.elementCount = cells.length then .ok (dense origin dtype cells shape)
  else .error (.elementCountMismatch shape cells.length)

/-- A tensor over a new buffer whose elements follow from their row-major positions. -/
def tabulate (origin : Origin) (shape : Shape) (dtype : DType) (cell : Nat → Cell dtype) :
    Result Tensor :=
  (Buffer.tabulate origin dtype shape.elementCount cell).map fun buffer =>
    ⟨buffer, .rowMajor shape⟩

/-- A tensor of zeros. -/
def zeros (origin : Origin) (shape : Shape) (dtype : DType) : Result Tensor :=
  tabulate origin shape dtype fun _ => 0

/-- A new tensor of zeros with the type and the shape of another. -/
def zerosLike (tensor : Tensor) : Result Tensor :=
  zeros (.cleared tensor.buffer.origin tensor.shape) tensor.shape tensor.dtype

/-- Another view of the same buffer. -/
def view (tensor : Tensor) (layout : Layout) : Tensor := { tensor with layout := layout }

/-- The view of `length` entries of a dimension from `start` on. -/
def narrow (tensor : Tensor) (dimension start length : Nat) : Result Tensor :=
  (tensor.layout.narrow dimension start length).map tensor.view

/-- The view with two dimensions exchanged. -/
def transpose (tensor : Tensor) (first second : Nat) : Result Tensor :=
  (tensor.layout.transpose first second).map tensor.view

/-- The elements in row-major order, converted to a type. -/
def elementsAs (tensor : Tensor) (target : DType) : Result (List (Cell target)) :=
  tensor.buffer.gather tensor.layout target

/-- The elements in row-major order. -/
def elements (tensor : Tensor) : Result (List (Cell tensor.dtype)) :=
  tensor.elementsAs tensor.dtype

/-- The elements in row-major order as a list for the application. They are gathered in the type
that is asked for, and each gathered cell is converted to it once more. -/
def toList (tensor : Tensor) (target : DType) : Result (List (Cell target)) :=
  (tensor.elementsAs target).bind (·.mapM (Cell.convertAs target))

/-- A copy of the elements in a buffer of their own. -/
def copyAs (tensor : Tensor) (target : DType) : Result Tensor :=
  (tensor.elementsAs target).map fun cells =>
    dense (.gathered tensor.buffer.origin tensor.layout target) target cells tensor.shape

/-- The tensor with its elements in one block; a copy only if they are not. -/
def contiguous (tensor : Tensor) : Result Tensor :=
  if tensor.isContiguous then .ok tensor else tensor.copyAs tensor.dtype

/-- The tensor with elements of a type; a copy only if they have another. -/
def toDType (tensor : Tensor) (target : DType) : Result Tensor :=
  if tensor.dtype = target then .ok tensor else tensor.copyAs target

/-- Promote a tensor of reduced precision. -/
def toFullPrecision (tensor : Tensor) : Result Tensor :=
  tensor.toDType tensor.dtype.fullPrecision

/-- Pairwise numeric equality of two lists of cells. -/
def cellsEqual (dtype dtype' : DType) : List (Cell dtype) → List (Cell dtype') → Bool
  | [], [] => true
  | cell :: cells, cell' :: cells' =>
      Cell.equal dtype dtype' cell cell' && cellsEqual dtype dtype' cells cells'
  | _, _ => false

/-- Equality of types, shapes and logical elements. Elements are read only when types and
shapes agree. -/
def equal (tensor other : Tensor) : Result Bool :=
  if tensor.dtype = other.dtype ∧ tensor.shape = other.shape then
    match tensor.elements, other.elements with
    | .ok cells, .ok cells' => .ok (cellsEqual tensor.dtype other.dtype cells cells')
    | .error cause, _ => .error cause
    | _, .error cause => .error cause
  else .ok false

/-- The same tensor in a buffer that counts as made on its own, which tells it from other copies of
what it was copied from. -/
def rename (tensor : Tensor) (number : Nat) : Tensor :=
  { tensor with buffer := { tensor.buffer with origin := .made number } }

/-- A tensor as it is shown in diagnostics: everything but its elements. -/
def summary (tensor : Tensor) : String :=
  s!"HostTensor(shape={tensor.shape.text}, dtype={tensor.dtype.name}, " ++
    s!"contiguous={tensor.isContiguous})"

end Tensor

end Offload
