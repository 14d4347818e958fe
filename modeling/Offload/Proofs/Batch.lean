/-
# The first micro-batch

Narrowing a tensor to one micro-batch divides its leading dimension and leaves the rest of its
shape, its type and its buffer. What it then has are the first of its elements in row-major order,
whatever the strides.
-/

import Offload.Batch
import Offload.Proofs.Layout.Odometer
import Offload.Proofs.Lists

namespace Offload

/-- What a function of a result gives comes from a success. -/
theorem Result.exists_of_map_ok {α β : Type} {result : Result α} {change : α → β} {changed : β}
    (succeeded : result.map change = .ok changed) : ∃ value, result = .ok value ∧
      change value = changed := by
  cases result with
  | ok value => exact ⟨value, rfl, Except.ok.inj succeeded⟩
  | error cause => exact nomatch succeeded

/-- The dimension that was looked up leads the shape. -/
theorem Shape.dims_of_lookup_zero {shape : Shape} {size : Nat}
    (found : shape.lookup 0 = .ok size) : ∃ rest, shape.dims = size :: rest := by
  unfold lookup size? at found
  cases same : shape.dims with
  | nil =>
      rw [same] at found
      exact nomatch found
  | cons first rest =>
      rw [same] at found
      obtain rfl := Except.ok.inj found
      exact ⟨rest, rfl⟩

/-- Narrowing the leading dimension from its start on changes the shape only. -/
theorem Layout.eq_of_narrow_zero {layout narrowed : Layout} {length : Nat}
    (succeeded : layout.narrow 0 0 length = .ok narrowed) :
    narrowed = { layout with shape := layout.shape.resize 0 length } := by
  unfold narrow at succeeded
  split at succeeded
  · exact nomatch succeeded
  · split at succeeded
    · exact nomatch succeeded
    · split at succeeded
      · exact nomatch succeeded
      · obtain rfl := Except.ok.inj succeeded
        rw [Nat.zero_mul, Nat.add_zero]

namespace Tensor

/-- The first entries of the leading dimension hold the first elements. -/
theorem elementsAs_leading {tensor : Tensor} {size count : Nat} {rest : List Nat}
    (dims : tensor.shape.dims = size :: rest) (divides : size % count = 0) {target : DType}
    {cells : List (Cell target)} (whole : tensor.elementsAs target = .ok cells) :
    (tensor.view { tensor.layout with
      shape := tensor.shape.resize 0 (size / count) }).elementsAs target =
        .ok (cells.take (cells.length / count)) := by
  rw [elementsAs, Buffer.gather_eq] at whole
  cases placed : tensor.layout.positions with
  | error cause =>
      rw [placed] at whole
      exact nomatch whole
  | ok positions =>
      rw [placed] at whole
      have length : positions.length = cells.length := (mapM_eq_ok_iff.mp whole).length_eq
      have leading := Layout.positions_leading dims divides placed
      rw [length] at leading
      have read := Buffer.gather_eq tensor.buffer
        { tensor.layout with shape := tensor.shape.resize 0 (size / count) } target
      rw [shape, leading] at read
      exact read.trans (mapM_take whole _)

/-- A tensor has the leading part of another, one of `count` parts: its leading dimension is that
much smaller, and its elements are the first of the other's, in whatever type they are read. -/
structure Leads (count : Nat) (whole part : Tensor) : Prop where
  dtype : part.dtype = whole.dtype
  shape : ∃ size rest, whole.shape.dims = size :: rest ∧ size % count = 0 ∧
    part.shape.dims = size / count :: rest
  elements : ∀ target cells, whole.elementsAs target = .ok cells →
    part.elementsAs target = .ok (cells.take (cells.length / count))

end Tensor

/-- Narrowing a tensor divides its leading dimension and leaves its buffer and its strides. -/
theorem Batch.eq_of_narrow {batch : Batch} {tensor narrowed : Tensor}
    (succeeded : batch.narrow tensor = .ok narrowed) :
    ∃ size rest, tensor.shape.dims = size :: rest ∧ size % batch.product = 0 ∧
      narrowed = tensor.view { tensor.layout with
        shape := tensor.shape.resize 0 (size / batch.product) } := by
  rw [narrow, multiplier_eq] at succeeded
  split at succeeded
  · exact nomatch succeeded
  next size found =>
    split_ifs at succeeded with fits
    dsimp only at succeeded
    split_ifs at succeeded with divides
    obtain ⟨rest, dims⟩ := Shape.dims_of_lookup_zero found
    obtain ⟨layout, made, rfl⟩ := Result.exists_of_map_ok succeeded
    obtain rfl := Layout.eq_of_narrow_zero made
    exact ⟨size, rest, dims, divides, rfl⟩

/-- What a tensor is narrowed to is its leading part, one of as many as a call has micro-batches. -/
theorem Batch.leads_of_narrow {batch : Batch} {tensor narrowed : Tensor}
    (succeeded : batch.narrow tensor = .ok narrowed) :
    Tensor.Leads batch.product tensor narrowed := by
  obtain ⟨size, rest, dims, divides, rfl⟩ := eq_of_narrow succeeded
  have resized : (tensor.shape.resize 0 (size / batch.product)).dims =
      size / batch.product :: rest := by
    rw [Shape.resize, dims]
    rfl
  exact
    { dtype := rfl
      shape := ⟨size, rest, dims, divides, resized⟩
      elements := fun _ _ => Tensor.elementsAs_leading dims divides }

end Offload
