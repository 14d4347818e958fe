/-
# Equality of tensors

Tensors are compared by what they hold: types, shapes and elements in row-major order, element by
element. Where the elements lie takes no part in it, and neither does what else lies in the buffers.
So equality of tensors has the laws of equality of cells: it is symmetric and transitive, and
reflexive as long as no element is what is not a number. The first two hold of all tensors, also of
those that cannot be read, since reading fails there for the only cause it can have.
-/

import Offload.Proofs.Tensor.Densifying
import Offload.Proofs.Tensor.Views

namespace Offload

namespace Tensor

variable {tensor other third : Tensor}

/-- Types, shapes and elements agree, the elements by their bits. -/
def SameValues (tensor other : Tensor) : Prop :=
  tensor.dtype = other.dtype ∧ tensor.shape = other.shape ∧
    ∃ cells cells', tensor.elementsAs tensor.dtype = .ok cells ∧
      other.elementsAs tensor.dtype = .ok cells' ∧
        List.Forall₂ (Cell.Matches tensor.dtype) cells cells'

/-- Every element stands for a number. -/
def Numeric (tensor : Tensor) : Prop :=
  ∀ cells, tensor.elementsAs tensor.dtype = .ok cells →
    ∀ cell ∈ cells, Cell.isNaN tensor.dtype cell = false

theorem cellsEqual_iff {dtype dtype' : DType} {cells : List (Cell dtype)}
    {cells' : List (Cell dtype')} : cellsEqual dtype dtype' cells cells' = true ↔
      List.Forall₂ (fun cell cell' => Cell.equal dtype dtype' cell cell' = true) cells cells' := by
  induction cells generalizing cells' with
  | nil => cases cells' <;> simp [cellsEqual]
  | cons cell cells ih => cases cells' <;> simp [cellsEqual, ih]

/-- Cells of one type are equal if their bits match. -/
theorem cellsEqual_iff_matches {dtype : DType} {cells cells' : List (Cell dtype)} :
    cellsEqual dtype dtype cells cells' = true ↔
      List.Forall₂ (Cell.Matches dtype) cells cells' := by
  simp only [cellsEqual_iff, Cell.equal_iff_matches]

theorem cellsEqual_comm {dtype dtype' : DType} (cells : List (Cell dtype))
    (cells' : List (Cell dtype')) :
    cellsEqual dtype dtype' cells cells' = cellsEqual dtype' dtype cells' cells := by
  induction cells generalizing cells' with
  | nil => cases cells' <;> rfl
  | cons cell cells ih =>
      cases cells' with
      | nil => rfl
      | cons cell' cells' =>
          rw [cellsEqual, cellsEqual, ih, Cell.equal, Number.equal_comm, Cell.equal]

/-- Equal tensors are those with equal elements. -/
theorem equal_eq_ok_true_iff : tensor.equal other = .ok true ↔
    tensor.dtype = other.dtype ∧ tensor.shape = other.shape ∧
      ∃ cells cells', tensor.elements = .ok cells ∧ other.elements = .ok cells' ∧
        cellsEqual tensor.dtype other.dtype cells cells' = true := by
  rw [equal, ← and_assoc]
  split
  · next alike =>
      rw [and_iff_right alike]
      cases tensor.elements <;> cases other.elements <;> simp
  · next different => simp [different]

/-- Elements in their own type cannot be read only if they are out of bounds. -/
theorem cause_of_elements {cause : Error} (failed : tensor.elements = .error cause) :
    cause = .outOfBounds := by
  rw [elements, elementsAs, Buffer.gather_eq] at failed
  cases placed : tensor.layout.positions with
  | error other =>
      rw [placed] at failed
      obtain rfl := Except.error.inj failed
      rw [Layout.positions, Layout.firstPositions] at placed
      split at placed
      · exact (Except.error.inj placed).symm
      · cases placed
  | ok positions =>
      rw [placed] at failed
      obtain ⟨position, -, failed⟩ := exists_of_mapM_error failed
      replace failed := (Buffer.readAs_self _ _).symm.trans failed
      rw [Buffer.read] at failed
      split at failed
      · cases failed
      · exact (Except.error.inj failed).symm

theorem equal_comm (tensor other : Tensor) : tensor.equal other = other.equal tensor := by
  by_cases alike : tensor.dtype = other.dtype ∧ tensor.shape = other.shape
  · rw [equal, equal, if_pos alike, if_pos ⟨alike.1.symm, alike.2.symm⟩]
    cases read : tensor.elements <;> cases read' : other.elements
    · rw [cause_of_elements read, cause_of_elements read']
    · rfl
    · rfl
    · exact congrArg _ (cellsEqual_comm _ _)
  · have alike' : ¬ (other.dtype = tensor.dtype ∧ other.shape = tensor.shape) :=
      fun same => alike ⟨same.1.symm, same.2.symm⟩
    rw [equal, equal, if_neg alike, if_neg alike']

theorem equal_trans (same : tensor.equal other = .ok true) (later : other.equal third = .ok true) :
    tensor.equal third = .ok true := by
  obtain ⟨dtype, shape, cells, cells', read, read', matching⟩ := equal_eq_ok_true_iff.mp same
  obtain ⟨dtype', shape', _, cells'', again, read'', matching'⟩ := equal_eq_ok_true_iff.mp later
  obtain rfl := Except.ok.inj (read'.symm.trans again)
  rw [cellsEqual_iff] at matching matching'
  refine equal_eq_ok_true_iff.mpr ⟨dtype.trans dtype', shape.trans shape', cells, cells'', read,
    read'', cellsEqual_iff.mpr (forall₂_comp (fun _ _ _ one two => ?_) matching matching')⟩
  exact Number.equal_trans one two

/-- Equal elements are those whose bits match. -/
theorem equal_iff_sameValues : tensor.equal other = .ok true ↔ tensor.SameValues other := by
  rw [equal_eq_ok_true_iff]
  refine and_congr_right fun alike => and_congr_right fun _ => ?_
  -- taken apart, so that the cells of both are of one type and not of two that are equal
  obtain ⟨⟨type, size, cell, origin⟩, layout⟩ := tensor
  obtain ⟨⟨type', size', cell', origin'⟩, layout'⟩ := other
  obtain rfl : type = type' := alike
  exact exists_congr fun _ => exists_congr fun _ => and_congr_right fun _ =>
    and_congr_right fun _ => cellsEqual_iff_matches

/-- Tensors of the same contents are equal if their elements are numbers. -/
theorem equal_of_sameContents (readable : tensor.Readable) (same : SameContents tensor other)
    (numeric : tensor.Numeric) : tensor.equal other = .ok true := by
  obtain ⟨cells, read⟩ := readable_iff.mp readable
  refine equal_iff_sameValues.mpr ⟨same.dtype, same.shape, cells, cells, read,
    (same.elements _).symm.trans read, List.forall₂_same.mpr fun cell there => ?_⟩
  exact Cell.equal_iff_matches.mp (Cell.equal_self_iff.mpr (numeric cells read cell there))

/-- What the comparison of a tensor with others tells. -/
structure ComparesValues (tensor : Tensor) : Prop where
  equal_iff : ∀ other : Tensor, other.Readable →
    ∃ same, tensor.equal other = .ok same ∧ (same = true ↔ tensor.SameValues other)
  comm : ∀ other, tensor.equal other = other.equal tensor
  trans : ∀ other third, tensor.equal other = .ok true → other.equal third = .ok true →
    tensor.equal third = .ok true
  equal_self_iff : tensor.equal tensor = .ok true ↔ tensor.Numeric
  contiguous : tensor.Numeric → ∃ block, tensor.contiguous = .ok block ∧
    tensor.equal block = .ok true
  transpose_transpose : tensor.Numeric → ∀ first second, first < tensor.rank →
    second < tensor.rank → tensor.rank ≤ tensor.layout.strides.length →
      ∃ view back, tensor.transpose first second = .ok view ∧
        view.transpose first second = .ok back ∧ tensor.equal back = .ok true

/-- Equality of tensors is equality of what they hold. -/
theorem equality_is_of_values (readable : tensor.Readable) : tensor.ComparesValues where
  equal_iff other readable' := by
    obtain ⟨same, compared⟩ := readable.equal readable'
    refine ⟨same, compared, ?_⟩
    rw [← equal_iff_sameValues, compared, Except.ok.injEq]
  comm := tensor.equal_comm
  trans _ _ := equal_trans
  equal_self_iff := by
    constructor
    · intro same cells read cell there
      obtain ⟨-, -, _, _, first, second, matching⟩ := equal_iff_sameValues.mp same
      obtain rfl := Except.ok.inj (first.symm.trans read)
      obtain rfl := Except.ok.inj (second.symm.trans read)
      apply Cell.equal_self_iff.mp
      exact Cell.equal_iff_matches.mpr (List.forall₂_same.mp matching cell there)
    · exact equal_of_sameContents readable (.refl tensor)
  contiguous numeric := by
    obtain ⟨block, made, same⟩ := readable.contiguous
    exact ⟨block, made, equal_of_sameContents readable same numeric⟩
  transpose_transpose numeric first second inside inside' strides := by
    have there := Layout.transpose_eq_ok_iff.mpr ⟨inside, inside', inside.trans_le strides,
      inside'.trans_le strides, rfl⟩
    exact ⟨_, tensor, Result.map_eq_ok_iff.mpr ⟨_, there, rfl⟩,
      Result.map_eq_ok_iff.mpr ⟨_, Layout.transpose_transpose there, rfl⟩,
      equal_of_sameContents readable (.refl tensor) numeric⟩

/-- A negative zero and a half. -/
def signedZero : Tensor := dense (.made 0) .f16 [0x8000, 0x3800] ⟨[2]⟩

/-- A zero and a half, each behind a cell that stands for no number. -/
def spacedZero : Tensor :=
  ⟨.ofArray (.made 1) .f16 #[0x7e00, 0x0000, 0x7e00, 0x3800], ⟨⟨[2]⟩, [2], 1⟩⟩

theorem signedZero_compared : signedZero.Readable ∧ spacedZero.Readable ∧
    signedZero.equal spacedZero = .ok true ∧ signedZero.ComparesValues :=
  have readable : signedZero.Readable := ⟨[0, 1], rfl, by decide⟩
  ⟨readable, ⟨[1, 3], rfl, by decide⟩, by decide, equality_is_of_values readable⟩

end Tensor

end Offload
