/-
# Cells

A cell of a buffer is a word as wide as its element type. Conversions between element types go
through the exact number a cell stands for. Integer targets take the whole part and refuse what
they cannot hold; floating-point targets round to nearest and never refuse; targets of reduced
precision are reached through single precision, which makes two roundings of one.
-/

import Offload.DType
import Offload.Number.Format

namespace Offload

/-- The words that a cell of an element type can hold. -/
abbrev Cell (dtype : DType) : Type := BitVec dtype.width

/-- The binary format of a floating-point type. -/
def DType.format? : DType → Option BinaryFormat
  | .f16 => some .half
  | .bf16 => some .brain
  | .f32 => some .single
  | .f64 => some .double
  | .u8 | .u32 | .i64 => none

namespace Cell

/-- The number a cell stands for. -/
def number : (dtype : DType) → Cell dtype → Number
  | .u8, cell => .finite false cell.toNat 0
  | .u32, cell => .finite false cell.toNat 0
  | .i64, cell => Number.ofInt cell.toInt
  | .f16, cell => BinaryFormat.half.decode cell.toNat
  | .bf16, cell => BinaryFormat.brain.decode cell.toNat
  | .f32, cell => BinaryFormat.single.decode cell.toNat
  | .f64, cell => BinaryFormat.double.decode cell.toNat

/-- A number brought to single precision. -/
def throughSingle (number : Number) : Number :=
  BinaryFormat.single.decode (BinaryFormat.single.round number)

/-- The cell that holds a number, if the type can represent it. -/
def ofNumber? : (dtype : DType) → Number → Option (Cell dtype)
  | .u8, number => (number.truncatedWithin? 0 (Int.pow 2 8 - 1)).map (BitVec.ofInt _)
  | .u32, number => (number.truncatedWithin? 0 (Int.pow 2 32 - 1)).map (BitVec.ofInt _)
  | .i64, number =>
      (number.truncatedWithin? (-Int.pow 2 63) (Int.pow 2 63 - 1)).map (BitVec.ofInt _)
  | .f16, number => some (BitVec.ofNat _ (BinaryFormat.half.round (throughSingle number)))
  | .bf16, number => some (BitVec.ofNat _ (BinaryFormat.brain.round (throughSingle number)))
  | .f32, number => some (BitVec.ofNat _ (BinaryFormat.single.round number))
  | .f64, number => some (BitVec.ofNat _ (BinaryFormat.double.round number))

/-- Convert a cell to another element type. A cell that has the type already stays as it is. -/
def convert? (source target : DType) (cell : Cell source) : Option (Cell target) :=
  if same : source = target then some (same ▸ cell) else ofNumber? target (number source cell)

/-- A cell holds a value that is not a number. -/
def isNaN (dtype : DType) (cell : Cell dtype) : Bool := number dtype cell == .nan

/-- Numeric equality of two cells: bit patterns do not matter, values do. -/
def equal (dtype dtype' : DType) (cell : Cell dtype) (cell' : Cell dtype') : Bool :=
  (number dtype cell).equal (number dtype' cell')

@[simp]
theorem convert?_self (dtype : DType) (cell : Cell dtype) :
    convert? dtype dtype cell = some cell := by
  simp [convert?]

end Cell

end Offload
