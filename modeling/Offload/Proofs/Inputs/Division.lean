/-
# Dividing a batch

The factors of a batch come as three numbers or from options, and none of them counts for less than
one, so nothing is ever divided by zero. What their product is made of one after the other does not
matter for whether a machine word can hold it. A tensor is narrowed to its first micro-batch unless
it has no dimensions, the product is too large, or the product does not divide its leading
dimension, noticed in this order. All that is asked of the tensor is that it can be read and
sliced; its layout may be any.
-/

import Offload.Options.Store
import Offload.Proofs.Inputs.Refusal
import Offload.Proofs.Tensor.Reads

namespace Offload

/-- Every dimension has a stride, and every element its place in the buffer: a tensor that can be
sliced and read. -/
structure Tensor.Sliceable (tensor : Tensor) : Prop where
  strides : tensor.rank ≤ tensor.layout.strides.length
  readable : tensor.Readable

theorem Tensor.InBounds.sliceable {tensor : Tensor} (inside : tensor.InBounds) : tensor.Sliceable :=
  ⟨Nat.le_of_eq inside.strides.symm, inside.readable⟩

/-- A tensor is the first of as many equal parts of another. Nothing was copied for it. -/
structure Tensor.FirstPart (count : Nat) (whole part : Tensor) : Prop extends
    Leads count whole part where
  buffer : part.buffer = whole.buffer
  sharesStorage : part.sharesStorage whole = true
  elementCount : part.elementCount = whole.elementCount / count
  read : ∃ cells, whole.elementsAs whole.dtype = .ok cells ∧ cells.length = whole.elementCount ∧
    part.elementsAs whole.dtype = .ok (cells.take (whole.elementCount / count))
  isContiguous : whole.isContiguous = true → part.isContiguous = true

theorem Tensor.rank_eq_zero_iff {tensor : Tensor} : tensor.rank = 0 ↔ tensor.shape.dims = [] :=
  List.length_eq_zero_iff

theorem Shape.size?_zero_eq_some_iff {shape : Shape} {size : Nat} :
    shape.size? 0 = some size ↔ ∃ rest, shape.dims = size :: rest := by
  rw [size?]
  cases shape.dims <;> simp

/-- A tensor with dimensions that can be sliced has strides. -/
theorem Tensor.Sliceable.strides_ne_nil {tensor : Tensor} (sliceable : tensor.Sliceable)
    {size : Nat} {rest : List Nat} (dims : tensor.shape.dims = size :: rest) :
    tensor.layout.strides ≠ [] := by
  intro strides
  have enough := sliceable.strides
  rw [strides, Tensor.rank, Layout.rank, Shape.rank, show tensor.layout.shape.dims = _ from dims]
    at enough
  exact absurd enough (Nat.not_succ_le_zero _)

/-- A tensor that can be sliced is not refused if its leading dimension can be divided. -/
theorem Tensor.Sliceable.not_refuses {tensor : Tensor} (sliceable : tensor.Sliceable)
    {batch : Batch} {size : Nat} {rest : List Nat} (dims : tensor.shape.dims = size :: rest)
    (fits : batch.product < 2 ^ 64) (even : batch.product ∣ size) {cause : Error} :
    ¬ batch.Refuses tensor cause := by
  rintro (none | ⟨-, large⟩ | ⟨dims', -, uneven⟩ | ⟨-, -, -, strides⟩)
  · rw [dims] at none
    cases none
  · exact absurd fits (Nat.not_lt.mpr large)
  · obtain ⟨rfl, -⟩ := List.cons.inj (dims'.symm.trans dims)
    exact uneven (Nat.mod_eq_zero_of_dvd even)
  · exact sliceable.strides_ne_nil dims strides

namespace Batch

/-- A batch, and the three numbers that its factors are taken from. -/
inductive MadeFrom : Batch → Int → Int → Int → Prop where
  | factors (deviceIterations replicationFactor gradientAccumulation : Nat) :
      MadeFrom (ofFactors deviceIterations replicationFactor gradientAccumulation) deviceIterations
        replicationFactor gradientAccumulation
  | options (store : OptionStore) :
      MadeFrom (ofOptions store.options) (store.general.intAt "device_iterations")
        (store.general.intAt "replication_factor") (store.training.intAt "gradient_accumulation")

/-- A number that is not positive counts as one. -/
structure Factors (batch : Batch) (deviceIterations replicationFactor gradientAccumulation : Int) :
    Prop where
  deviceIterations : (batch.deviceIterations : Int) = max deviceIterations 1
  replicationFactor : (batch.replicationFactor : Int) = max replicationFactor 1
  gradientAccumulation : (batch.gradientAccumulation : Int) = max gradientAccumulation 1

variable {batch : Batch} {deviceIterations replicationFactor gradientAccumulation : Int}

theorem MadeFrom.factorsOf
    (made : batch.MadeFrom deviceIterations replicationFactor gradientAccumulation) :
    batch.Factors deviceIterations replicationFactor gradientAccumulation := by
  have clamped (value : Int) : ((max value.toNat 1 : Nat) : Int) = max value 1 := by omega
  cases made with
  | factors first second third => exact ⟨clamped first, clamped second, clamped third⟩
  | options store => exact ⟨clamped _, clamped _, clamped _⟩

/-- What is narrowed is the first part, one of as many as a call has micro-batches. -/
theorem firstPart_of_narrow {tensor part : Tensor} (readable : tensor.Readable)
    (narrowed : batch.narrow tensor = .ok part) : Tensor.FirstPart batch.product tensor part := by
  have leads := leads_of_narrow narrowed
  obtain ⟨cells, read⟩ := Tensor.readable_iff.mp readable
  have counted := Tensor.length_of_elementsAs read
  have first := leads.elements _ _ read
  rw [counted] at first
  have buffer : part.buffer = tensor.buffer := by
    obtain ⟨_, _, _, _, rfl⟩ := eq_of_narrow narrowed
    rfl
  refine ⟨leads, buffer, ?_, ?_, ⟨cells, read, counted, first⟩, isContiguous_of_narrow narrowed⟩
  · rw [Tensor.sharesStorage, buffer]
    exact beq_self_eq_true _
  · rw [← Tensor.length_of_elementsAs first, List.length_take, counted]
    exact Nat.min_eq_left (Nat.div_le_self _ _)

/-- How a batch divides a tensor. -/
structure Divides (batch : Batch) (deviceIterations replicationFactor gradientAccumulation : Int)
    (tensor : Tensor) : Prop where
  factors : batch.Factors deviceIterations replicationFactor gradientAccumulation
  multiplier_pos : ∀ count, batch.multiplier = .ok count → 1 ≤ count
  multiplier_ok_iff : ∀ count, batch.multiplier = .ok count ↔
    batch.product = count ∧ batch.product < 2 ^ 64
  multiplier_error_iff : ∀ cause, batch.multiplier = .error cause ↔
    2 ^ 64 ≤ batch.product ∧ cause = .batchMultiplierOverflow batch.deviceIterations
      batch.replicationFactor batch.gradientAccumulation
  scalar_iff : batch.narrow tensor = .error (.dimensionOutOfRange 0 0) ↔ tensor.rank = 0
  overflow_iff : batch.narrow tensor = .error (.batchMultiplierOverflow batch.deviceIterations
      batch.replicationFactor batch.gradientAccumulation) ↔
    tensor.rank ≠ 0 ∧ 2 ^ 64 ≤ batch.product
  indivisible_iff : ∀ size, batch.narrow tensor = .error (.batchDimension tensor.shape size
      batch.deviceIterations batch.replicationFactor batch.gradientAccumulation batch.product) ↔
    tensor.shape.size? 0 = some size ∧ batch.product < 2 ^ 64 ∧ ¬ batch.product ∣ size
  divided : ∀ size, tensor.shape.size? 0 = some size → batch.product < 2 ^ 64 →
    batch.product ∣ size → ∃ part, batch.narrow tensor = .ok part ∧
      Tensor.FirstPart batch.product tensor part

theorem limit_eq : limit = 2 ^ 64 := rfl

theorem multiplier_eq_ok_iff {count : Nat} :
    batch.multiplier = .ok count ↔ batch.product = count ∧ batch.product < limit := by
  rw [multiplier_eq]
  split_ifs with fits <;> simp [fits]

theorem multiplier_eq_error_iff {cause : Error} :
    batch.multiplier = .error cause ↔ limit ≤ batch.product ∧
      cause = .batchMultiplierOverflow batch.deviceIterations batch.replicationFactor
        batch.gradientAccumulation := by
  rw [multiplier_eq, ← Nat.not_lt]
  split_ifs with fits <;> simp [fits, eq_comm]

/-- Every batch divides every tensor that can be read and sliced, or says why it does not. -/
theorem divides_exactly
    (made : batch.MadeFrom deviceIterations replicationFactor gradientAccumulation)
    {tensor : Tensor} (sliceable : tensor.Sliceable) :
    batch.Divides deviceIterations replicationFactor gradientAccumulation tensor where
  factors := made.factorsOf
  multiplier_pos count counted := (multiplier_eq_ok_iff.mp counted).1 ▸ batch.product_pos
  multiplier_ok_iff _ := multiplier_eq_ok_iff
  multiplier_error_iff _ := multiplier_eq_error_iff
  scalar_iff := by
    rw [narrow_eq_error_iff, Tensor.rank_eq_zero_iff]
    exact ⟨fun | .scalar dims => dims, .scalar⟩
  overflow_iff := by
    rw [narrow_eq_error_iff, Ne, Tensor.rank_eq_zero_iff, ← limit_eq]
    constructor
    · rintro (_ | ⟨dims, large⟩)
      exact ⟨by simp [dims], large⟩
    · rintro ⟨some_dims, large⟩
      obtain ⟨size, rest, dims⟩ := List.exists_cons_of_ne_nil some_dims
      exact .overflow dims large
  indivisible_iff size := by
    rw [narrow_eq_error_iff, Shape.size?_zero_eq_some_iff, Nat.dvd_iff_mod_eq_zero, ← limit_eq]
    constructor
    · rintro (_ | _ | ⟨dims, fits, uneven⟩)
      exact ⟨⟨_, dims⟩, fits, uneven⟩
    · rintro ⟨⟨_, dims⟩, fits, uneven⟩
      exact .indivisible dims fits uneven
  divided size found fits even := by
    obtain ⟨rest, dims⟩ := Shape.size?_zero_eq_some_iff.mp found
    cases narrowed : batch.narrow tensor with
    | ok part => exact ⟨part, rfl, firstPart_of_narrow sliceable.readable narrowed⟩
    | error cause =>
        exact absurd (narrow_eq_error_iff.mp narrowed) (sliceable.not_refuses dims fits even)

/-- Options set by name: two iterations, and a count of replicas that counts as one. -/
def twoIterations : OptionStore :=
  ((do
    OptionStore.set "device_iterations" (.int 2)
    OptionStore.set "replication_factor" (.int (-3))).perform OptionStore.initial).2

theorem lastColumns_divided :
    (ofOptions twoIterations.options).MadeFrom 2 (-3) 1 ∧ Tensor.lastColumns.Sliceable ∧
      (ofOptions twoIterations.options).Divides 2 (-3) 1 Tensor.lastColumns ∧
        ((ofOptions twoIterations.options).narrow Tensor.lastColumns).bind (·.elementsAs .u8) =
          .ok [11, 21] := by
  have made : (ofOptions twoIterations.options).MadeFrom 2 (-3) 1 := .options twoIterations
  have sliceable : Tensor.lastColumns.Sliceable := ⟨Nat.le_refl 2, [1, 4, 2, 5], rfl, by decide⟩
  exact ⟨made, sliceable, divides_exactly made sliceable, rfl⟩

end Batch

end Offload
