/-
# Conversion of tensors

There are three ways to have the elements of a tensor in a type: the tensor itself if it has the
type, a copy whose cells are converted, and a list for the application, whose cells are converted a
second time. All three see nothing but the elements: they succeed exactly if the type represents the
number of each of them, and come to the same cells, since converting a cell to its own type gives it
back. What else lies in the buffer is never converted. Conversion to a wider type succeeds for every
tensor and is undone by conversion back.
-/

import Offload.Proofs.Tensor.Densifying
import Offload.Proofs.Tensor.Reads

namespace Offload

namespace Cell

variable {source target : DType}

theorem convertAs_eq_ok_iff {cell : Cell source} {converted : Cell target} :
    cell.convertAs target = .ok converted ↔ convert? source target cell = some converted := by
  rw [convertAs]
  cases convert? source target cell <;> simp

/-- A cell can be converted exactly if the other type represents its number. -/
theorem exists_convertAs_iff {cell : Cell source} :
    (∃ converted, cell.convertAs target = .ok converted) ↔
      target.Represents (Cell.number source cell) := by
  simp only [convertAs_eq_ok_iff, exists_convert?_iff]

end Cell

namespace Tensor

variable {tensor : Tensor} {target : DType}

/-! ## One way and the others -/

/-- The second conversion of an element leaves it as it is. -/
theorem toList_eq_elementsAs : tensor.toList target = tensor.elementsAs target := by
  rw [toList]
  cases tensor.elementsAs target with
  | error cause => rfl
  | ok cells =>
      refine mapM_eq_ok_iff.mpr (List.forall₂_same.mpr fun cell _ => ?_)
      exact Cell.convertAs_eq_ok_iff.mpr (Cell.convert?_self target cell)

/-- A tensor and a copy of it fail alike. -/
theorem toDType_eq_error_iff (readable : tensor.Readable) {cause : Error} :
    tensor.toDType target = .error cause ↔ tensor.elementsAs target = .error cause := by
  rw [toDType]
  split
  · next same =>
      subst same
      obtain ⟨cells, read⟩ := readable_iff.mp readable
      simp [read]
  · rw [copyAs]
    cases tensor.elementsAs target <;> simp [Except.map]

/-- What a tensor is converted to is read as the tensor itself is read in the type. -/
theorem elementsAs_of_toDType {converted : Tensor} (made : tensor.toDType target = .ok converted) :
    converted.elementsAs target = tensor.elementsAs target := by
  rw [toDType] at made
  split at made
  · obtain rfl := Except.ok.inj made
    rfl
  · obtain ⟨cells, read, rfl⟩ := Result.exists_of_map_ok made
    rw [read]
    exact elementsAs_dense (length_of_elementsAs read).symm

/-- A result either way is settled by the failures. -/
theorem exists_toDType_iff (readable : tensor.Readable) :
    (∃ converted, tensor.toDType target = .ok converted) ↔
      ∃ cells, tensor.elementsAs target = .ok cells := by
  have failures := @toDType_eq_error_iff tensor target readable
  cases made : tensor.toDType target <;> cases read : tensor.elementsAs target <;>
    simp_all

/-! ## What is converted -/

/-- The type represents the number of every element. -/
def RepresentedIn (tensor : Tensor) (target : DType) : Prop :=
  ∀ cells, tensor.elementsAs tensor.dtype = .ok cells →
    ∀ cell ∈ cells, target.Represents (Cell.number tensor.dtype cell)

theorem Readable.exists_elementsAs_iff (readable : tensor.Readable) :
    (∃ cells, tensor.elementsAs target = .ok cells) ↔ tensor.RepresentedIn target := by
  obtain ⟨cells, read⟩ := readable_iff.mp readable
  rw [elementsAs_eq read, exists_mapM_ok_iff, RepresentedIn, read]
  simp only [Cell.exists_convertAs_iff, Except.ok.injEq, forall_eq']

/-- Elements that can be read in a type are those of the tensor, each converted. -/
theorem forall₂_convert? {cells : List (Cell tensor.dtype)} {cells' : List (Cell target)}
    (read : tensor.elementsAs tensor.dtype = .ok cells)
    (read' : tensor.elementsAs target = .ok cells') :
    List.Forall₂ (fun cell cell' => Cell.convert? tensor.dtype target cell = some cell')
      cells cells' := by
  rw [elementsAs_eq read] at read'
  exact (mapM_eq_ok_iff.mp read').imp fun _ _ => Cell.convertAs_eq_ok_iff.mp

/-- The tensor of the type has the elements of another, each converted: in the same buffer if they
have the type already, and else in one that is no larger than needed. -/
structure Converted (tensor : Tensor) (target : DType) (converted : Tensor) : Prop where
  dtype : converted.dtype = target
  shape : converted.shape = tensor.shape
  elements : ∃ cells cells', tensor.elementsAs tensor.dtype = .ok cells ∧
    converted.elementsAs target = .ok cells' ∧
      List.Forall₂ (fun cell cell' => Cell.convert? tensor.dtype target cell = some cell')
        cells cells'
  stays : tensor.dtype = target →
    converted.sharesStorage tensor = true ∧ converted.layout = tensor.layout
  fresh : tensor.dtype ≠ target →
    converted.sharesStorage tensor = false ∧ converted.isContiguous = true ∧
      converted.layout.offset = 0 ∧ converted.buffer.size = tensor.elementCount
  toList : tensor.toList target = converted.elementsAs target

theorem converted_of_toDType (readable : tensor.Readable) {converted : Tensor}
    (made : tensor.toDType target = .ok converted) : tensor.Converted target converted := by
  obtain ⟨cells, read⟩ := readable_iff.mp readable
  obtain ⟨cells', read'⟩ := (exists_toDType_iff readable).mp ⟨converted, made⟩
  have kept := elementsAs_of_toDType made
  have elements : ∃ cells cells', tensor.elementsAs tensor.dtype = .ok cells ∧
      converted.elementsAs target = .ok cells' ∧
        List.Forall₂ (fun cell cell' => Cell.convert? tensor.dtype target cell = some cell')
          cells cells' :=
    ⟨cells, cells', read, kept.trans read', forall₂_convert? read read'⟩
  have toList := toList_eq_elementsAs.trans kept.symm
  rw [toDType] at made
  split at made
  · next same =>
      obtain rfl := Except.ok.inj made
      exact ⟨same, rfl, elements, fun _ => ⟨beq_self_eq_true _, rfl⟩, absurd same, toList⟩
  · next other =>
      obtain ⟨typed, placed, filled⟩ := place_of_copyAs made
      exact ⟨typed, (congrArg Layout.shape placed :), elements, fun same => absurd same other,
        fun _ => ⟨not_sharesStorage_of_copyAs made, isContiguous_of_copyAs made,
          congrArg Layout.offset placed, filled⟩, toList⟩

/-- A tensor is converted element by element, or not at all. -/
structure ConvertsElements (tensor : Tensor) (target : DType) : Prop where
  exists_iff : (∃ converted, tensor.toDType target = .ok converted) ↔ tensor.RepresentedIn target
  cause : ∀ cause, tensor.toDType target = .error cause → cause = .unrepresentable target
  converted : ∀ converted, tensor.toDType target = .ok converted →
    tensor.Converted target converted
  toList_error_iff : ∀ cause, tensor.toList target = .error cause ↔
    tensor.toDType target = .error cause
  /-- A gathered cell is one that the conversion of its number to its own type leads back to. -/
  again : ∀ cells, tensor.elementsAs target = .ok cells → ∀ cell ∈ cells,
    cell.convertAs target = .ok cell ∧ ∃ back,
      Cell.ofNumber? target (Cell.number target cell) = some back ∧ Cell.Alike target cell back

/-- Conversion looks at the elements alone. -/
theorem toDType_converts_elements (readable : tensor.Readable) (target : DType) :
    tensor.ConvertsElements target where
  exists_iff := (exists_toDType_iff readable).trans readable.exists_elementsAs_iff
  cause _ := readable.cause_of_toDType
  converted _ := converted_of_toDType readable
  toList_error_iff cause := by
    rw [toList_eq_elementsAs, toDType_eq_error_iff readable]
  again _ _ cell _ := ⟨Cell.convertAs_eq_ok_iff.mpr (Cell.convert?_self target cell),
    Cell.exists_alike_of_same (.refl _)⟩

/-- A number at each end that is within the bytes; between them one that is beyond, and what is not
a number. -/
def mixedSingles : Tensor :=
  dense (.made 0) .f32 [0x3fc00000, 0x43800000, 0x7fc00000, 0x40000000] ⟨[4]⟩

/-- Its ends. -/
def outerSingles : Tensor := mixedSingles.view ⟨⟨[2]⟩, [3], 0⟩

theorem outerSingles_converted : outerSingles.Readable ∧
    outerSingles.elementsAs .u8 = .ok [1, 2] ∧
      mixedSingles.elementsAs .u8 = .error (.unrepresentable .u8) ∧
        outerSingles.ConvertsElements .u8 :=
  have readable : outerSingles.Readable := ⟨[0, 3], rfl, by decide⟩
  ⟨readable, rfl, rfl, toDType_converts_elements readable .u8⟩

/-! ## Wider types -/

/-- The tensor was converted to a wider type and back: the elements kept their numbers on the way
there and have their bits again, except that what is not a number has remained such. -/
structure Restored (tensor : Tensor) (target : DType) (wide back : Tensor) : Prop where
  wide_dtype : wide.dtype = target
  wide_shape : wide.shape = tensor.shape
  dtype : back.dtype = tensor.dtype
  shape : back.shape = tensor.shape
  elements : ∃ cells wides backs, tensor.elementsAs tensor.dtype = .ok cells ∧
    wide.elementsAs target = .ok wides ∧ back.elementsAs tensor.dtype = .ok backs ∧
      List.Forall₂ (fun cell wide =>
        (Cell.number target wide).Same (Cell.number tensor.dtype cell)) cells wides ∧
      List.Forall₂ (Cell.Alike tensor.dtype) cells backs

theorem representedIn_of_widening (wider : target ∈ tensor.dtype.widenings) :
    tensor.RepresentedIn target := by
  intro cells _ cell _
  obtain ⟨wide, widened, _⟩ := Cell.exists_same_of_widening wider cell
  exact Cell.exists_convert?_iff.mp ⟨wide, widened⟩

/-- Conversion to a wider type succeeds, and what comes of it can be converted back. -/
theorem widening_is_undone (readable : tensor.Readable) (wider : target ∈ tensor.dtype.widenings) :
    ∃ wide, tensor.toDType target = .ok wide ∧
      ∃ back, wide.toDType tensor.dtype = .ok back ∧ tensor.Restored target wide back := by
  obtain ⟨wide, made⟩ : ∃ wide, tensor.toDType target = .ok wide := by
    apply (exists_toDType_iff readable).mpr
    exact readable.exists_elementsAs_iff.mpr (representedIn_of_widening wider)
  have there := converted_of_toDType readable made
  -- from here on the wider type is that of the tensor that was made
  obtain rfl := there.dtype
  obtain ⟨cells, wides, read, read', widened⟩ := there.elements
  have readable' : wide.Readable := readable_iff.mpr ⟨wides, read'⟩
  obtain ⟨backs, returned, alike⟩ : ∃ backs,
      List.Forall₂ (fun wide back => wide.convertAs tensor.dtype = .ok back) wides backs ∧
        List.Forall₂ (Cell.Alike tensor.dtype) cells backs := by
    apply exists_forall₂_of_forall₂ _ widened
    intro cell wide widened
    obtain ⟨back, returned, alike⟩ := Cell.exists_alike_of_widening wider widened
    exact ⟨back, Cell.convertAs_eq_ok_iff.mpr returned, alike⟩
  have again : wide.elementsAs tensor.dtype = .ok backs := by
    rw [elementsAs_eq read']
    exact mapM_eq_ok_iff.mpr returned
  obtain ⟨back, made'⟩ := (exists_toDType_iff readable').mpr ⟨backs, again⟩
  have here := converted_of_toDType readable' made'
  have read'' : back.elementsAs tensor.dtype = .ok backs :=
    (elementsAs_of_toDType made').trans again
  exact ⟨wide, made, back, made', rfl, there.shape, here.dtype, here.shape.trans there.shape,
    cells, wides, backs, read, read', read'',
    widened.imp fun _ _ => Cell.same_of_widening wider, alike⟩

theorem oddColumns_restored : oddColumns.Readable ∧ .f64 ∈ oddColumns.dtype.widenings ∧
    ∃ wide, oddColumns.toDType .f64 = .ok wide ∧
      ∃ back, wide.toDType .f16 = .ok back ∧ oddColumns.Restored .f64 wide back :=
  have wider : .f64 ∈ oddColumns.dtype.widenings := by decide
  ⟨oddColumns_readable, wider, widening_is_undone oddColumns_readable wider⟩

end Tensor

end Offload
