/-
# Slices and exchanged dimensions of a tensor

A view is given by what it shows: for each of its indices, the index of the element of the tensor
that is found there. A slice adds to one digit where it starts, an exchange of dimensions exchanges
two digits. This settles the elements of a view in row-major order of its own shape, since a tensor
is read index by index, and the laws of views of views follow from those of their layouts.

Elements are compared in every type they can be read in, failures of conversion included.
-/

import Offload.Proofs.Layout.Views
import Offload.Proofs.Tensor.Reads

namespace Offload

theorem Result.map_eq_ok_iff {α β : Type} {result : Result α} {change : α → β} {changed : β} :
    result.map change = .ok changed ↔ ∃ value, result = .ok value ∧ change value = changed := by
  refine ⟨exists_of_map_ok, ?_⟩
  rintro ⟨value, rfl, rfl⟩
  rfl

namespace Tensor

variable {tensor view : Tensor}

/-! ## Elements by index -/

/-- The element of an index, converted to a type. -/
def elementAt (tensor : Tensor) (target : DType) (index : List Nat) : Result (Cell target) :=
  tensor.buffer.readAs target (tensor.layout.place index)

/-- Reading a tensor is reading the elements of its indices in row-major order. -/
def ReadByIndex (tensor : Tensor) : Prop :=
  ∃ indices, tensor.shape.RowMajor indices ∧
    ∀ target, tensor.elementsAs target = indices.mapM (tensor.elementAt target)

theorem readByIndex_of_strides (strides : tensor.layout.strides.length = tensor.rank) :
    tensor.ReadByIndex := by
  refine ⟨_, tensor.shape.rowMajor_indices, fun target => ?_⟩
  rw [elementsAs, Buffer.gather_eq, Layout.positions_eq_map_place strides]
  exact List.mapM_map

/-- Every index of a tensor inside its buffer has an element. -/
theorem InBounds.elementAt (inside : tensor.InBounds) {index : List Nat}
    (holds : tensor.shape.Holds index) : ∃ cell, tensor.elementAt tensor.dtype index = .ok cell := by
  have within := inside.positions _ (Layout.positions_eq_map_place inside.strides) _
    (List.mem_map_of_mem (Shape.mem_indices_iff.mpr holds))
  exact ⟨_, (Buffer.readAs_self _ _).trans (dif_pos within)⟩

/-! ## What a view shows -/

/-- The view looks at the buffer of the tensor, has the sizes, and each of its indices leads to the
element that the tensor has at another. -/
structure Shows (tensor view : Tensor) (sizes : Shape) (source : List Nat → List Nat) : Prop where
  inside : view.InBounds
  sharesStorage : view.sharesStorage tensor = true
  dtype : view.dtype = tensor.dtype
  shape : view.shape = sizes
  holds : ∀ index, view.shape.Holds index → tensor.shape.Holds (source index)
  element : ∀ index, view.shape.Holds index →
    (∃ cell, view.elementAt view.dtype index = .ok cell) ∧
      ∀ target, view.elementAt target index = tensor.elementAt target (source index)
  elements : view.ReadByIndex

/-- What a view shows is known from where its layout places the elements. -/
theorem shows_view {layout : Layout} {source : List Nat → List Nat}
    (inside : layout.Inside tensor.buffer.size)
    (holds : ∀ index, layout.shape.Holds index → tensor.shape.Holds (source index))
    (place : ∀ index, layout.shape.Holds index →
      layout.place index = tensor.layout.place (source index)) :
    tensor.Shows (tensor.view layout) layout.shape source where
  inside := inside
  sharesStorage := beq_self_eq_true _
  dtype := rfl
  shape := rfl
  holds := holds
  element index there := by
    have placed : (tensor.view layout).InBounds := inside
    exact ⟨placed.elementAt there, fun target =>
      congrArg (tensor.buffer.readAs target) (place index there)⟩
  elements := readByIndex_of_strides inside.strides

/-- A slice shows the elements from where it starts on. -/
theorem InBounds.shows_narrow (inside : tensor.InBounds) {dimension start length : Nat}
    (made : tensor.narrow dimension start length = .ok view) :
    tensor.Shows view (tensor.shape.resize dimension length) (·.modify dimension (start + ·)) := by
  obtain ⟨layout, stepped, rfl⟩ := Result.map_eq_ok_iff.mp made
  have shows : tensor.Shows (tensor.view layout) layout.shape _ :=
    shows_view (Layout.Inside.narrow inside stepped)
      (fun _ => Layout.holds_of_narrow stepped) (fun _ => Layout.place_narrow stepped)
  obtain ⟨_, _, -, -, -, rfl⟩ := Layout.narrow_eq_ok_iff.mp stepped
  exact shows

/-- A tensor with exchanged dimensions shows the elements whose digits are exchanged. -/
theorem InBounds.shows_transpose (inside : tensor.InBounds) {first second : Nat}
    (made : tensor.transpose first second = .ok view) :
    tensor.Shows view (tensor.shape.exchange first second) (Shape.exchanged · first second) := by
  obtain ⟨layout, stepped, rfl⟩ := Result.map_eq_ok_iff.mp made
  have shows : tensor.Shows (tensor.view layout) layout.shape _ :=
    shows_view (Layout.Inside.transpose inside stepped)
      (fun _ => Layout.holds_of_transpose stepped)
      (fun _ => Layout.place_transpose inside.strides stepped)
  obtain ⟨-, -, -, -, rfl⟩ := Layout.transpose_eq_ok_iff.mp stepped
  exact shows

/-! ## Views of views -/

/-- There is a view exactly if there is its layout. -/
theorem exists_view_iff {result : Result Layout} :
    (∃ view, result.map tensor.view = .ok view) ↔ ∃ layout, result = .ok layout := by
  simp [Result.map_eq_ok_iff]

/-- Views of views are made like their layouts. -/
theorem bind_view (tensor : Tensor) (first : Result Layout) (step : Layout → Result Layout) :
    (first.map tensor.view).bind (fun view => (step view.layout).map view.view) =
      (first.bind step).map tensor.view := by
  cases first <;> rfl

/-- When there are slices and exchanges of dimensions, what they show, and what comes of one after
the other. Orders of two views are compared by what they come to when they succeed. -/
structure ViewLaws (tensor : Tensor) : Prop where
  elements : tensor.ReadByIndex
  exists_narrow : ∀ dimension start length,
    (∃ view, tensor.narrow dimension start length = .ok view) ↔
      ∃ size, tensor.shape.size? dimension = some size ∧ start + length ≤ size
  narrow : ∀ dimension start length view, tensor.narrow dimension start length = .ok view →
    tensor.Shows view (tensor.shape.resize dimension length) (·.modify dimension (start + ·))
  exists_transpose : ∀ first second,
    (∃ view, tensor.transpose first second = .ok view) ↔ first < tensor.rank ∧ second < tensor.rank
  transpose : ∀ first second view, tensor.transpose first second = .ok view →
    tensor.Shows view (tensor.shape.exchange first second) (Shape.exchanged · first second)
  transpose_transpose : ∀ first second view, tensor.transpose first second = .ok view →
    view.transpose first second = .ok tensor
  narrow_narrow : ∀ dimension start length view,
    tensor.narrow dimension start length = .ok view → ∀ start' length', start' + length' ≤ length →
      view.narrow dimension start' length' = tensor.narrow dimension (start + start') length'
  narrow_comm : ∀ dimension start length dimension' start' length', dimension ≠ dimension' →
    ∀ view, (tensor.narrow dimension start length).bind (·.narrow dimension' start' length') =
        .ok view ↔
      (tensor.narrow dimension' start' length').bind (·.narrow dimension start length) = .ok view
  transpose_narrow : ∀ first second start length view,
    (tensor.transpose first second).bind (·.narrow second start length) = .ok view ↔
      (tensor.narrow first start length).bind (·.transpose first second) = .ok view

/-- Views of a tensor inside its buffer are slices of it and exchanges of its dimensions, element by
element, and so are views of views. -/
theorem views_slice_and_exchange (inside : tensor.InBounds) : tensor.ViewLaws where
  elements := readByIndex_of_strides inside.strides
  exists_narrow _ _ _ := exists_view_iff.trans (Layout.exists_narrow_iff inside.strides)
  narrow _ _ _ _ := inside.shows_narrow
  exists_transpose _ _ := exists_view_iff.trans (Layout.exists_transpose_iff inside.strides)
  transpose _ _ _ := inside.shows_transpose
  transpose_transpose first second view made := by
    obtain ⟨layout, stepped, rfl⟩ := Result.map_eq_ok_iff.mp made
    exact Result.map_eq_ok_iff.mpr ⟨_, Layout.transpose_transpose stepped, rfl⟩
  narrow_narrow dimension start length view made start' length' part := by
    obtain ⟨layout, stepped, rfl⟩ := Result.map_eq_ok_iff.mp made
    exact congrArg (·.map tensor.view) (Layout.narrow_narrow stepped part)
  narrow_comm dimension start length dimension' start' length' apart view := by
    have first := bind_view tensor (tensor.layout.narrow dimension start length)
      (·.narrow dimension' start' length')
    have second := bind_view tensor (tensor.layout.narrow dimension' start' length')
      (·.narrow dimension start length)
    simp only [Tensor.narrow, first, second, Result.map_eq_ok_iff, Layout.narrow_comm apart]
  transpose_narrow first second start length view := by
    have after := bind_view tensor (tensor.layout.transpose first second)
      (·.narrow second start length)
    have before := bind_view tensor (tensor.layout.narrow first start length)
      (·.transpose first second)
    simp only [Tensor.narrow, Tensor.transpose, after, before, Result.map_eq_ok_iff,
      Layout.transpose_narrow]

/-- The last two columns of a block, as rows: where the slice of the exchanged dimensions has its
second row, the block has its third column. -/
theorem lastColumns_views :
    twoRows.InBounds ∧ twoRows.ViewLaws ∧
      (twoRows.transpose 0 1).bind (·.narrow 0 1 2) = .ok lastColumns ∧
        lastColumns.elementAt .u8 [1, 0] = .ok 12 ∧ twoRows.elementAt .u8 [0, 2] = .ok 12 := by
  have inside : twoRows.InBounds := inBounds_dense rfl
  exact ⟨inside, views_slice_and_exchange inside, rfl, rfl, rfl⟩

end Tensor

end Offload
