/-
# Cells and their numbers

A cell is either of an integer type, and then stands for an integer of a range, or of a floating-
point type, and then is a word of a format. In both cases the number of a cell, or any that is the
same, is converted back to this cell; what is not a number comes back as such. A conversion fails
only for an integer type, when the number is not within less than one of its range. To wider types
every cell is converted to one of the same number, so such a conversion can be undone. Cells are
numerically equal if their bits are, where both zeros count as one value and what is not a number as
none.
-/

import Offload.Scalar
import Offload.Proofs.Number.Words

namespace Offload

namespace DType

/-- The least and the greatest number of an integer type. -/
def range? : DType → Option (Int × Int)
  | u8 => some (0, 2 ^ 8 - 1)
  | u32 => some (0, 2 ^ 32 - 1)
  | i64 => some (-2 ^ 63, 2 ^ 63 - 1)
  | f16 | bf16 | f32 | f64 => none

theorem integral_or_float (dtype : DType) :
    (∃ range, dtype.range? = some range) ∨ ∃ format, dtype.format? = some format := by
  cases dtype <;> simp [range?, format?]

/-- The type has a cell for the number: floating-point types have one for every number, and integer
types for those that are in their range once they are cut off to whole numbers. -/
def Represents (target : DType) (number : Number) : Prop :=
  ∀ range ∈ target.range?, ∃ value : Rat, number.rational? = some (.inr value) ∧
    (range.1 : Rat) - 1 < value ∧ value < range.2 + 1

/-- The types that have a cell for the number of every cell of a type, other than the type. -/
def widenings : DType → List DType
  | u8 => [u32, i64, f16, bf16, f32, f64]
  | u32 => [i64, f64]
  | f16 => [f32, f64]
  | bf16 => [f32, f64]
  | f32 => [f64]
  | i64 | f64 => []

theorem ne_of_widening {source target : DType} (wider : target ∈ source.widenings) :
    source ≠ target := by
  rintro rfl
  revert wider
  cases source <;> decide

variable {dtype : DType} {format : BinaryFormat}

theorem regular_of_format? (float : dtype.format? = some format) : format.Regular := by
  cases dtype <;> cases float <;> exact ⟨by decide, by decide⟩

theorem width_of_format? (float : dtype.format? = some format) : dtype.width = format.width := by
  cases dtype <;> cases float <;> rfl

end DType

namespace Cell

/-! ## Integer types -/

section Integral

/-- The integer that a cell of an integer type holds. -/
def integer : (dtype : DType) → Cell dtype → Int
  | .i64, cell => cell.toInt
  | .u8, cell | .u32, cell | .f16, cell | .bf16, cell | .f32, cell | .f64, cell => cell.toNat

variable {dtype : DType} {range : Int × Int} (integral : dtype.range? = some range)
include integral

theorem number_eq_ofInt (cell : Cell dtype) : number dtype cell = .ofInt (integer dtype cell) := by
  have unsigned (value : Nat) : Number.finite false value 0 = .ofInt value := by
    simp [Number.ofInt]
  cases dtype <;> cases integral
  · exact unsigned _
  · exact unsigned _
  · rfl

theorem integer_mem (cell : Cell dtype) :
    range.1 ≤ integer dtype cell ∧ integer dtype cell ≤ range.2 := by
  have unsigned (width : Nat) {value : Nat} (inside : value < 2 ^ width) :
      0 ≤ (value : Int) ∧ (value : Int) ≤ 2 ^ width - 1 :=
    ⟨Int.natCast_nonneg value, Int.le_sub_one_of_lt (by exact_mod_cast inside)⟩
  cases dtype <;> cases integral
  · exact unsigned 8 cell.isLt
  · exact unsigned 32 cell.isLt
  · exact ⟨BitVec.le_toInt (w := 64) cell, Int.le_sub_one_of_lt (BitVec.toInt_lt (w := 64))⟩

theorem integer_ofInt {value : Int} (low : range.1 ≤ value) (high : value ≤ range.2) :
    integer dtype (BitVec.ofInt _ value) = value := by
  have unsigned {width : Nat} (low : 0 ≤ value) (high : value ≤ 2 ^ width - 1) :
      ((BitVec.ofInt width value).toNat : Int) = value := by
    have positive : (0 : Int) < (2 ^ width : Nat) := by positivity
    rw [BitVec.toNat_ofInt, Int.toNat_of_nonneg (Int.emod_nonneg _ positive.ne'),
      Int.emod_eq_of_lt low]
    push_cast
    omega
  cases dtype <;> cases integral
  · exact unsigned low high
  · exact unsigned low high
  · exact BitVec.toInt_ofInt_eq_self (w := 64) (by norm_num) low (Int.lt_of_le_sub_one high)

theorem ofInt_integer (cell : Cell dtype) : BitVec.ofInt _ (integer dtype cell) = cell := by
  cases dtype <;> cases integral <;> simp [integer]

theorem range_mem_zero : range.1 ≤ 0 ∧ 0 ≤ range.2 := by
  cases dtype <;> cases integral <;> simp

theorem ofNumber?_of_range? (number : Number) :
    ofNumber? dtype number =
      (number.truncatedWithin? range.1 range.2).map (BitVec.ofInt dtype.width) := by
  cases dtype <;> cases integral <;> rfl

end Integral

/-! ## Floating-point types -/

section Float

variable {dtype : DType} {format : BinaryFormat} (float : dtype.format? = some format)
include float

theorem number_eq_decode (cell : Cell dtype) : number dtype cell = format.decode cell.toNat := by
  cases dtype <;> cases float <;> rfl

theorem toNat_lt (cell : Cell dtype) : cell.toNat < 2 ^ format.width :=
  dtype.width_of_format? float ▸ cell.isLt

theorem number_ofNat {code : Nat} (inside : code < 2 ^ format.width) :
    number dtype (BitVec.ofNat _ code) = format.decode code := by
  rw [number_eq_decode float, BitVec.toNat_ofNat, DType.width_of_format? float,
    Nat.mod_eq_of_lt inside]

theorem ofNumber?_of_format? (number : Number) :
    ofNumber? dtype number = some (BitVec.ofNat _ (format.round
      (if dtype.isHalf then throughSingle number else number))) := by
  cases dtype <;> cases float <;> rfl

/-- A number that the format has is converted to a cell of the same number, provided that single
precision has it too where the conversion goes through it. -/
theorem exists_same_of_has {number : Number} (has : format.Has number)
    (single : dtype.isHalf = true → BinaryFormat.single.Has number) :
    ∃ cell, ofNumber? dtype number = some cell ∧ (Cell.number dtype cell).Same number := by
  rw [ofNumber?_of_format? float]
  refine ⟨_, rfl, ?_⟩
  rw [number_ofNat float ((DType.regular_of_format? float).round_lt _)]
  split
  · next half =>
      rw [throughSingle, BinaryFormat.round_congr (single half)]
      exact has
  · exact has

/-- Reduced precision is no wider than single precision, so nothing of it is lost on the way. -/
theorem single_has (half : dtype.isHalf = true) (cell : Cell dtype) :
    BinaryFormat.single.Has (number dtype cell) := by
  rw [number_eq_decode float]
  have narrower : format.precision ≤ BinaryFormat.single.precision ∧
      format.exponentBits ≤ BinaryFormat.single.exponentBits := by
    cases dtype <;> cases float <;> first | (exact absurd half (by decide)) | decide
  exact (DType.regular_of_format? float).has_decode ⟨by decide, by decide⟩ narrower.1 narrower.2
    (toNat_lt float cell)

end Float

/-! ## Conversion -/

variable {dtype source target : DType}

/-- Two cells have the same bits, or neither stands for a number. -/
def Alike (dtype : DType) (cell cell' : Cell dtype) : Prop :=
  cell = cell' ∨ isNaN dtype cell = true ∧ isNaN dtype cell' = true

/-- What is the same as the number of a cell is converted back to this cell. -/
theorem exists_alike_of_same {cell : Cell dtype} {number : Number}
    (same : number.Same (Cell.number dtype cell)) :
    ∃ back, ofNumber? dtype number = some back ∧ Alike dtype cell back := by
  rcases dtype.integral_or_float with ⟨range, integral⟩ | ⟨format, float⟩
  · rw [number_eq_ofInt integral] at same
    obtain ⟨low, high⟩ := integer_mem integral cell
    rw [ofNumber?_of_range? integral, Number.truncatedWithin?_of_same same low high]
    exact ⟨_, rfl, .inl (ofInt_integer integral cell).symm⟩
  · have regular := DType.regular_of_format? float
    have inside := toNat_lt float cell
    have rounded : format.round (if dtype.isHalf then throughSingle number else number) =
        format.round (Cell.number dtype cell) := by
      refine BinaryFormat.round_congr ?_
      split
      · next half =>
          rw [throughSingle, BinaryFormat.round_congr same]
          exact single_has float half cell
      · exact same
    rw [ofNumber?_of_format? float, rounded]
    refine ⟨_, rfl, ?_⟩
    by_cases none : Cell.number dtype cell = .nan
    · refine .inr ⟨beq_iff_eq.mpr none, beq_iff_eq.mpr ?_⟩
      rw [number_ofNat float (regular.round_lt _), none, regular.decode_round_nan]
    · rw [number_eq_decode float] at none ⊢
      rw [regular.round_decode inside none, BitVec.ofNat_toNat, BitVec.setWidth_eq]
      exact .inl rfl

/-- A type has a cell for a number exactly if it represents the number. -/
theorem exists_ofNumber?_iff {number : Number} :
    (∃ cell, ofNumber? target number = some cell) ↔ target.Represents number := by
  rcases target.integral_or_float with ⟨range, integral⟩ | ⟨format, float⟩
  · obtain ⟨low, high⟩ := range_mem_zero integral
    simp only [ofNumber?_of_range? integral, DType.Represents, integral, Option.mem_some_iff,
      forall_eq', ← Number.exists_truncatedWithin?_iff low high]
    cases number.truncatedWithin? range.1 range.2 <;> simp
  · have unbounded : target.range? = none := by cases target <;> cases float <;> rfl
    rw [ofNumber?_of_format? float, DType.Represents, unbounded]
    exact iff_of_true ⟨_, rfl⟩ nofun

/-- A cell can be converted exactly if the other type represents its number. -/
theorem exists_convert?_iff {cell : Cell source} :
    (∃ converted, convert? source target cell = some converted) ↔
      target.Represents (number source cell) := by
  rw [← exists_ofNumber?_iff, convert?]
  split
  · next same =>
      subst same
      obtain ⟨back, converted, -⟩ := exists_alike_of_same (.refl (number source cell))
      exact iff_of_true ⟨cell, rfl⟩ ⟨back, converted⟩
  · rfl

/-- Wider floating-point types have the numbers of all cells. -/
theorem has_of_widening {format : BinaryFormat} (wider : target ∈ source.widenings)
    (float : target.format? = some format) (cell : Cell source) :
    format.Has (number source cell) := by
  rcases source.integral_or_float with ⟨range, integral⟩ | ⟨narrow, float'⟩
  · obtain ⟨low, high⟩ := integer_mem integral cell
    have room : range.1 = 0 ∧ range.2 < 2 ^ format.precision ∧
        format.precision ≤ 2 ^ (format.exponentBits - 1) ∧ format.leastExponent ≤ 0 := by
      cases source <;> cases target <;>
        first
        | exact absurd wider (by decide)
        | cases integral <;> cases float <;> decide
    rw [number_eq_ofInt integral]
    obtain ⟨value, same⟩ := Int.eq_ofNat_of_zero_le (room.1 ▸ low)
    rw [same] at high ⊢
    refine (DType.regular_of_format? float).has_natural ?_ room.2.2.1 room.2.2.2
    exact_mod_cast high.trans_lt room.2.1
  · have grows : narrow.precision ≤ format.precision ∧
        narrow.exponentBits ≤ format.exponentBits := by
      cases source <;> cases target <;>
        first
        | exact absurd wider (by decide)
        | cases float' <;> cases float <;> decide
    rw [number_eq_decode float']
    exact (DType.regular_of_format? float').has_decode (DType.regular_of_format? float) grows.1
      grows.2 (toNat_lt float' cell)

/-- A wider type has a cell of the same number. -/
theorem exists_same_of_widening (wider : target ∈ source.widenings) (cell : Cell source) :
    ∃ wide, convert? source target cell = some wide ∧
      (number target wide).Same (number source cell) := by
  rw [convert?, dif_neg (DType.ne_of_widening wider)]
  rcases target.integral_or_float with ⟨range, integral⟩ | ⟨format, float⟩
  · obtain ⟨narrow, integral', within⟩ : ∃ narrow, source.range? = some narrow ∧
        range.1 ≤ narrow.1 ∧ narrow.2 ≤ range.2 := by
      cases source <;> cases target <;>
        first
        | exact absurd wider (by decide)
        | cases integral <;> exact ⟨_, rfl, by decide⟩
    obtain ⟨low, high⟩ := integer_mem integral' cell
    have low := within.1.trans low
    have high := high.trans within.2
    rw [number_eq_ofInt integral', ofNumber?_of_range? integral,
      Number.truncatedWithin?_of_same (.refl _) low high]
    refine ⟨_, rfl, ?_⟩
    rw [number_eq_ofInt integral, integer_ofInt integral low high]
    exact .refl _
  · have single (half : target.isHalf = true) : DType.f32 ∈ source.widenings := by
      cases source <;> cases target <;>
        first
        | exact absurd wider (by decide)
        | exact absurd half (by decide)
        | decide
    exact exists_same_of_has float (has_of_widening wider float cell) fun half =>
      has_of_widening (single half) rfl cell

theorem same_of_widening (wider : target ∈ source.widenings) {cell : Cell source}
    {wide : Cell target} (widened : convert? source target cell = some wide) :
    (number target wide).Same (number source cell) := by
  obtain ⟨wide', widened', same⟩ := exists_same_of_widening wider cell
  obtain rfl := Option.some.inj (widened'.symm.trans widened)
  exact same

/-- A cell that was converted to a wider type can be converted back. -/
theorem exists_alike_of_widening (wider : target ∈ source.widenings) {cell : Cell source}
    {wide : Cell target} (widened : convert? source target cell = some wide) :
    ∃ back, convert? target source wide = some back ∧ Alike source cell back := by
  rw [convert?, dif_neg (DType.ne_of_widening wider).symm]
  exact exists_alike_of_same (same_of_widening wider widened)

/-! ## Equality -/

/-- Two cells are equal by their bits: those of an integer type if they are the same, and those of a
floating-point type if neither is beyond infinity and they are the same or both zeros. -/
def Matches (dtype : DType) (cell cell' : Cell dtype) : Prop :=
  match dtype.format? with
  | none => cell = cell'
  | some format =>
      format.magnitude cell.toNat ≤ format.infinityBits ∧
      format.magnitude cell'.toNat ≤ format.infinityBits ∧
      (cell = cell' ∨ format.magnitude cell.toNat = 0 ∧ format.magnitude cell'.toNat = 0)

theorem equal_iff_matches {cell cell' : Cell dtype} :
    equal dtype dtype cell cell' = true ↔ Matches dtype cell cell' := by
  rw [equal]
  rcases dtype.integral_or_float with ⟨range, integral⟩ | ⟨format, float⟩
  · have exact_bits : dtype.format? = none := by cases dtype <;> cases integral <;> rfl
    rw [number_eq_ofInt integral, number_eq_ofInt integral, Number.equal_ofInt_iff, Matches,
      exact_bits]
    constructor
    · intro same
      rw [← ofInt_integer integral cell, same, ofInt_integer integral]
    · rintro rfl
      rfl
  · have regular := DType.regular_of_format? float
    have inside := toNat_lt float cell
    have inside' := toNat_lt float cell'
    rw [number_eq_decode float, number_eq_decode float, Number.equal_iff_same, Matches, float]
    dsimp only
    rw [regular.isZero_decode_iff inside, regular.isZero_decode_iff inside', ne_eq,
      regular.decode_eq_nan_iff inside, Nat.not_lt]
    refine and_congr_right fun number => ?_
    rw [← Nat.not_lt, ← regular.decode_eq_nan_iff inside] at number
    rw [regular.same_decode_iff inside inside' number, BitVec.toNat_inj]
    rw [regular.decode_eq_nan_iff inside, Nat.not_lt] at number
    constructor
    · rintro (rfl | zeros)
      · exact ⟨number, .inl rfl⟩
      · exact ⟨zeros.2 ▸ Nat.zero_le _, .inr zeros⟩
    · exact And.right

/-- A cell equals itself exactly if it stands for a number. -/
theorem equal_self_iff {cell : Cell dtype} :
    equal dtype dtype cell cell = true ↔ isNaN dtype cell = false := by
  rw [equal, Number.equal_self_iff, isNaN, beq_eq_false_iff_ne]

end Cell

end Offload
