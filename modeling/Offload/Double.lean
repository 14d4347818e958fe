/-
# Double-precision values

Floating-point values outside tensors: leaves of call arguments, option values and
hyper-parameters. A value is kept as its word, so that a copy is exact, and compared as a
number.
-/

import Offload.Number.Format

namespace Offload

/-- A double-precision word. -/
structure Double where
  bits : BitVec 64
  deriving DecidableEq, Repr, Inhabited

namespace Double

/-- The number a word stands for. -/
def number (value : Double) : Number := BinaryFormat.double.decode value.bits.toNat

/-- The word nearest to a number. -/
def ofNumber (number : Number) : Double := ⟨BitVec.ofNat 64 (BinaryFormat.double.round number)⟩

/-- Positive zero. -/
def zero : Double := ⟨0⟩

/-- Numeric equality: `0.0` equals `-0.0`, and a value that is not a number equals nothing. -/
def equal (left right : Double) : Bool := left.number.equal right.number

/-- The value is not a number. -/
def isNaN (value : Double) : Bool := value.number == .nan

end Double

end Offload
