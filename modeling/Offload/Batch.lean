/-
# Batches

One call feeds the device for several iterations, replicas and accumulation steps at once, and
its inputs are that many times larger than the micro-batch a model is captured for. The leading
dimension of every input is divided by the product of the three factors to give the trace view.
-/

import Offload.Call.Binding
import Offload.Options.Basic

namespace Offload

/-- How many micro-batches one call holds, by three factors of which none is zero. -/
structure Batch where
  deviceIterations : Nat
  replicationFactor : Nat
  gradientAccumulation : Nat
  deviceIterations_pos : 0 < deviceIterations
  replicationFactor_pos : 0 < replicationFactor
  gradientAccumulation_pos : 0 < gradientAccumulation
  deriving DecidableEq, Repr

namespace Batch

/-- The first product that a machine word cannot hold. -/
def limit : Nat := Nat.pow 2 64

/-- A batch of three factors; a factor of zero counts as one. -/
def ofFactors (deviceIterations replicationFactor gradientAccumulation : Nat) : Batch where
  deviceIterations := max deviceIterations 1
  replicationFactor := max replicationFactor 1
  gradientAccumulation := max gradientAccumulation 1
  deviceIterations_pos := Nat.le_max_right _ _
  replicationFactor_pos := Nat.le_max_right _ _
  gradientAccumulation_pos := Nat.le_max_right _ _

instance : Inhabited Batch := ⟨ofFactors 1 1 1⟩

/-- The batch that options describe; a factor that is not positive counts as one. -/
def ofOptions (options : Options) : Batch :=
  ofFactors options.deviceIterations.toNat options.replicationFactor.toNat
    options.gradientAccumulation

/-- The product of the factors. -/
def product (batch : Batch) : Nat :=
  batch.deviceIterations * batch.replicationFactor * batch.gradientAccumulation

/-- The product of two numbers, unless it is too large for a machine word. -/
def checkedProduct? (left right : Nat) : Option Nat :=
  if left * right < limit then some (left * right) else none

/-- The number of micro-batches. The factors are multiplied one after the other, and each product
must fit a machine word. -/
def multiplier (batch : Batch) : Result Nat :=
  match (checkedProduct? batch.deviceIterations batch.replicationFactor).bind
      (checkedProduct? · batch.gradientAccumulation) with
  | some count => .ok count
  | none => .error (.batchMultiplierOverflow batch.deviceIterations batch.replicationFactor
      batch.gradientAccumulation)

/-- A factor that is not zero makes no product smaller, so a product of three fits a machine word only
if the product of the first two does. -/
theorem checkedProduct?_bind {first second third : Nat} (some_third : 0 < third) :
    (checkedProduct? first second).bind (checkedProduct? · third) =
      checkedProduct? (first * second) third := by
  have growing : first * second ≤ first * second * third := Nat.le_mul_of_pos_right _ some_third
  unfold checkedProduct?
  by_cases fits : first * second < limit
  · rw [if_pos fits, Option.bind_some]
  · have large : ¬ first * second * third < limit := fun fits' =>
      fits (Nat.lt_of_le_of_lt growing fits')
    rw [if_neg fits, if_neg large, Option.bind_none]

/-- The number of micro-batches is the product of the factors, if a machine word can hold it. -/
theorem multiplier_eq (batch : Batch) :
    batch.multiplier =
      if batch.product < limit then .ok batch.product
      else .error (.batchMultiplierOverflow batch.deviceIterations batch.replicationFactor
        batch.gradientAccumulation) := by
  rw [multiplier, checkedProduct?_bind batch.gradientAccumulation_pos, checkedProduct?, ← product]
  by_cases fits : batch.product < limit
  · rw [if_pos fits, if_pos fits]
  · rw [if_neg fits, if_neg fits]

theorem product_pos (batch : Batch) : 0 < batch.product :=
  Nat.mul_pos (Nat.mul_pos batch.deviceIterations_pos batch.replicationFactor_pos)
    batch.gradientAccumulation_pos

/-- The view of the first micro-batch of a tensor. -/
def narrow (batch : Batch) (tensor : Tensor) : Result Tensor :=
  match tensor.shape.lookup 0 with
  | .error cause => .error cause
  | .ok size =>
      match batch.multiplier with
      | .error cause => .error cause
      | .ok multiplier =>
          if size % multiplier = 0 then tensor.narrow 0 0 (size / multiplier)
          else .error (.batchDimension tensor.shape size batch.deviceIterations
            batch.replicationFactor batch.gradientAccumulation multiplier)

/-- Turn a binding into its trace view: every tensor narrowed to one micro-batch. -/
def traceView {σ : Type} (batch : Batch) : Attempt (Binding × σ) Unit :=
  Binding.forEachTensor batch.narrow

end Batch

end Offload
