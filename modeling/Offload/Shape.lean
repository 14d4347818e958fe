/-
# Shapes

The sizes of the dimensions of a tensor, outermost first. The leading dimension carries the
batch; a scalar has no dimension and one element.
-/

namespace Offload

/-- The sizes of the dimensions of a tensor. -/
structure Shape where
  dims : List Nat
  deriving DecidableEq, Repr, Inhabited

namespace Shape

/-- The number of dimensions. -/
def rank (shape : Shape) : Nat := shape.dims.length

/-- The number of elements: the product of all sizes, one for a scalar. -/
def elementCount (shape : Shape) : Nat := shape.dims.foldr (· * ·) 1

/-- The distances between neighbours along each dimension when elements are laid out row by
row: each is the product of the sizes of the dimensions inside it. -/
def rowMajorStridesOf : List Nat → List Nat
  | [] => []
  | _ :: inner => inner.foldr (· * ·) 1 :: rowMajorStridesOf inner

/-- The row-major strides of a shape: `[12, 4, 1]` for `[2, 3, 4]`. -/
def rowMajorStrides (shape : Shape) : List Nat := rowMajorStridesOf shape.dims

/-- The size of one dimension. -/
def size? (shape : Shape) (dimension : Nat) : Option Nat := shape.dims[dimension]?

/-- The shape with the size of one dimension replaced; beyond the rank nothing changes. -/
def resize (shape : Shape) (dimension size : Nat) : Shape := ⟨shape.dims.set dimension size⟩

/-- A list with two entries exchanged. Positions beyond the end read as zero and are not
written. -/
def exchanged (entries : List Nat) (first second : Nat) : List Nat :=
  (entries.set first (entries.getD second 0)).set second (entries.getD first 0)

/-- The shape with two dimensions exchanged. -/
def exchange (shape : Shape) (first second : Nat) : Shape :=
  ⟨exchanged shape.dims first second⟩

/-- A shape as it stands in messages: `[2, 3]`. -/
def text (shape : Shape) : String :=
  "[" ++ ", ".intercalate (shape.dims.map toString) ++ "]"

@[simp]
theorem rank_resize (shape : Shape) (dimension size : Nat) :
    (shape.resize dimension size).rank = shape.rank := by
  simp [rank, resize]

@[simp]
theorem length_exchanged (entries : List Nat) (first second : Nat) :
    (exchanged entries first second).length = entries.length := by
  simp [exchanged]

@[simp]
theorem rank_exchange (shape : Shape) (first second : Nat) :
    (shape.exchange first second).rank = shape.rank := by
  simp [rank, exchange]

theorem length_rowMajorStridesOf (dims : List Nat) :
    (rowMajorStridesOf dims).length = dims.length := by
  induction dims with
  | nil => rfl
  | cons _ inner ih => simp [rowMajorStridesOf, ih]

/-- There is one row-major stride for each dimension. -/
@[simp]
theorem length_rowMajorStrides (shape : Shape) :
    shape.rowMajorStrides.length = shape.rank :=
  length_rowMajorStridesOf shape.dims

end Shape

end Offload
