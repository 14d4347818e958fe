/-
# Densifying

A tensor of one block stays as it is when it is densified, and any other is gathered into a block of
its own, cell by cell in the type it has. That the type is the same makes the conversion of each
cell give back the cell, also where a conversion goes through the number of the cell and, for
reduced precision, through single precision; only what is not a number may come back with other
bits. So nothing is lost, and there is nothing left to do the second time.
-/

import Offload.Proofs.Number.Cells
import Offload.Proofs.Tensor.Blocks

namespace Offload.Tensor

variable {tensor block : Tensor}

/-- The block holds what the tensor holds, in the buffer of the tensor if that is one block already
and else in one that is no larger than needed. -/
structure Densified (tensor block : Tensor) : Prop where
  isContiguous : block.isContiguous = true
  dtype : block.dtype = tensor.dtype
  shape : block.shape = tensor.shape
  /-- Both are read as the same cells, as many as there are elements. -/
  elements : ∃ cells, tensor.elementsAs tensor.dtype = .ok cells ∧
    block.elementsAs tensor.dtype = .ok cells ∧ cells.length = tensor.elementCount
  /-- Each cell is one that the conversion of its number to its own type leads back to. -/
  converts : ∀ cells, tensor.elementsAs tensor.dtype = .ok cells → ∀ cell ∈ cells, ∃ back,
    Cell.ofNumber? tensor.dtype (Cell.number tensor.dtype cell) = some back ∧
      Cell.Alike tensor.dtype cell back
  sharesStorage : block.sharesStorage tensor = true ↔ tensor.isContiguous = true
  layout : block.layout = tensor.layout ↔ tensor.isContiguous = true
  fresh : tensor.isContiguous = false →
    block.layout.offset = 0 ∧ block.buffer.size = tensor.elementCount
  again : ∃ again, block.contiguous = .ok again ∧ again.sharesStorage block = true

/-- A copy has the type it was made for, starts at the first cell of its buffer and takes up all of
it. -/
theorem place_of_copyAs {target : DType} {copy : Tensor}
    (copied : tensor.copyAs target = .ok copy) :
    copy.dtype = target ∧ copy.layout = .rowMajor tensor.shape ∧
      copy.buffer.size = tensor.elementCount := by
  obtain ⟨cells, read, rfl⟩ := Result.exists_of_map_ok copied
  exact ⟨rfl, rfl, List.size_toArray.trans (length_of_elementsAs read)⟩

/-- Densifying succeeds for every tensor whose elements have their places, loses nothing and need
not be done twice. -/
theorem contiguous_keeps_elements (readable : tensor.Readable) :
    ∃ block, tensor.contiguous = .ok block ∧ tensor.Densified block := by
  obtain ⟨block, made, same⟩ := readable.contiguous
  obtain ⟨cells, read⟩ := readable_iff.mp readable
  have one_block := isContiguous_of_contiguous made
  refine ⟨block, made, one_block, same.dtype.symm, same.shape.symm,
    ⟨cells, read, (same.elements _).symm.trans read, length_of_elementsAs read⟩,
    fun _ _ cell _ => Cell.exists_alike_of_same (.refl _), ?_, ?_, fun scattered => ?_, ?_⟩
  · rw [← staysInBuffer_iff]
    exact ⟨fun shares => ⟨block, made, shares⟩,
      fun ⟨_, made', shares⟩ => Except.ok.inj (made.symm.trans made') ▸ shares⟩
  · constructor
    · intro kept
      exact (congrArg Layout.isContiguous kept).symm.trans one_block
    · intro already
      rw [contiguous, if_pos already] at made
      exact congrArg layout (Except.ok.inj made).symm
  · rw [contiguous, if_neg (Bool.eq_false_iff.mp scattered)] at made
    obtain ⟨-, placed, filled⟩ := place_of_copyAs made
    exact ⟨congrArg Layout.offset placed, filled⟩
  · exact staysInBuffer_iff.mpr one_block

/-- Two rows of half-precision cells: one half, a negative zero and what is not a number; the
smallest number, infinity and minus two. -/
def oddHalves : Tensor :=
  dense (.made 0) .f16 [0x3800, 0x8000, 0x7e01, 0x0001, 0x7c00, 0xc000] ⟨[2, 3]⟩

/-- Its columns, as rows. -/
def oddColumns : Tensor := oddHalves.view ⟨⟨[3, 2]⟩, [1, 3], 0⟩

theorem oddColumns_readable : oddColumns.Readable :=
  ⟨[0, 3, 1, 4, 2, 5], rfl, by decide⟩

theorem oddColumns_densified : oddColumns.Readable ∧ oddColumns.isContiguous = false ∧
    oddColumns.elementsAs .f16 = .ok [0x3800, 0x0001, 0x8000, 0x7c00, 0x7e01, 0xc000] ∧
      ∃ block, oddColumns.contiguous = .ok block ∧ oddColumns.Densified block :=
  ⟨oddColumns_readable, rfl, rfl, contiguous_keeps_elements oddColumns_readable⟩

end Offload.Tensor
