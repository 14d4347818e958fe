/-
# Element types

The element types a host tensor can carry. The host side does no arithmetic; it asks of a
type only how wide its cells are, whether it is a reduced-precision float, and which type
such a float is promoted to while a model is captured.
-/

namespace Offload

/-- The type of the elements of a tensor. -/
inductive DType where
  | u8
  | u32
  | i64
  | f16
  | bf16
  | f32
  | f64
  deriving DecidableEq, Repr, Inhabited

namespace DType

/-- Every element type, narrow integers first. -/
def all : List DType := [u8, u32, i64, f16, bf16, f32, f64]

/-- The number of bits of one cell. -/
def width : DType → Nat
  | u8 => 8
  | f16 | bf16 => 16
  | u32 | f32 => 32
  | i64 | f64 => 64

/-- The number of bytes of one cell. -/
def bytes (dtype : DType) : Nat := dtype.width / 8

/-- Floating-point types, of any precision. -/
def isFloat : DType → Bool
  | f16 | bf16 | f32 | f64 => true
  | u8 | u32 | i64 => false

/-- Floating-point types of reduced precision. -/
def isHalf : DType → Bool
  | f16 | bf16 => true
  | _ => false

/-- The type a value is promoted to before capture: reduced-precision floats widen to `f32`,
every other type is already full precision. -/
def fullPrecision (dtype : DType) : DType :=
  if dtype.isHalf then f32 else dtype

/-- The name a type has in messages. -/
def name : DType → String
  | u8 => "u8"
  | u32 => "u32"
  | i64 => "i64"
  | f16 => "f16"
  | bf16 => "bf16"
  | f32 => "f32"
  | f64 => "f64"

/-- The type of a given name. -/
def ofName? (name : String) : Option DType :=
  all.find? fun dtype => dtype.name == name

/-- Promotion always reaches full precision. -/
theorem isHalf_fullPrecision (dtype : DType) : dtype.fullPrecision.isHalf = false := by
  cases dtype <;> rfl

/-- Promotion changes reduced-precision types only. -/
theorem fullPrecision_of_not_half {dtype : DType} (full : dtype.isHalf = false) :
    dtype.fullPrecision = dtype := by
  simp [fullPrecision, full]

end DType

end Offload
