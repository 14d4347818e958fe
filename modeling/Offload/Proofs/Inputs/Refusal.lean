/-
# What batches refuse

Before anything is compiled, every tensor of a binding is narrowed to its first micro-batch. This can
fail in a few ways only. The relation here names these ways without running anything, and the
function fails exactly in these ways: for a tensor without dimensions, for factors that no machine
word holds, or for a leading dimension that cannot be divided. Narrowing visits the leaves in order,
so the first tensor that is refused decides what a binding is refused for.
-/

import Offload.Proofs.Executor.Views
import Offload.Proofs.Options.Flattening
import Offload.Proofs.Tensor.Contents
import Offload.Proofs.Traversal

namespace Offload

open Attempt

/-! ## Batches -/

/-- Why a tensor cannot be narrowed to a micro-batch. A shape without dimensions is noticed before
the factors are multiplied, and that before anything is divided. -/
inductive Batch.Refuses (batch : Batch) (tensor : Tensor) : Error → Prop where
  | scalar (dims : tensor.shape.dims = []) : Refuses batch tensor (.dimensionOutOfRange 0 0)
  | overflow {size : Nat} {rest : List Nat} (dims : tensor.shape.dims = size :: rest)
      (large : limit ≤ batch.product) :
      Refuses batch tensor (.batchMultiplierOverflow batch.deviceIterations batch.replicationFactor
        batch.gradientAccumulation)
  | indivisible {size : Nat} {rest : List Nat} (dims : tensor.shape.dims = size :: rest)
      (fits : batch.product < limit) (uneven : size % batch.product ≠ 0) :
      Refuses batch tensor (.batchDimension tensor.shape size batch.deviceIterations
        batch.replicationFactor batch.gradientAccumulation batch.product)
  /-- No layout that comes from a tensor made of elements is like this. -/
  | strideless {size : Nat} {rest : List Nat} (dims : tensor.shape.dims = size :: rest)
      (fits : batch.product < limit) (even : size % batch.product = 0)
      (strides : tensor.layout.strides = []) : Refuses batch tensor .outOfBounds

/-- What the head of a slice of the leading dimension fails for. -/
private theorem narrow_leading_eq_error_iff {tensor : Tensor} {size length : Nat} {rest : List Nat}
    {cause : Error} (dims : tensor.shape.dims = size :: rest) (shorter : length ≤ size) :
    tensor.narrow 0 0 length = .error cause ↔ tensor.layout.strides = [] ∧ cause = .outOfBounds := by
  have found : tensor.layout.shape.lookup 0 = .ok size := by
    rw [Shape.lookup, Shape.size?, show tensor.layout.shape.dims = _ from dims]
    rfl
  rw [Tensor.narrow, Layout.narrow, found]
  dsimp only
  rw [if_neg (by omega)]
  cases tensor.layout.strides with
  | nil => simp [Except.map, eq_comm]
  | cons stride others => simp [Except.map]

/-- A tensor is narrowed unless it is refused. -/
theorem Batch.narrow_eq_error_iff {batch : Batch} {tensor : Tensor} {cause : Error} :
    batch.narrow tensor = .error cause ↔ batch.Refuses tensor cause := by
  cases dims : tensor.shape.dims with
  | nil =>
      have absent : tensor.shape.lookup 0 = .error (.dimensionOutOfRange 0 0) := by
        rw [Shape.lookup, Shape.size?, Shape.rank, dims]
        rfl
      rw [narrow, absent]
      constructor
      · rintro ⟨⟩
        exact .scalar dims
      · rintro (_ | ⟨dims', -⟩ | ⟨dims', -, -⟩ | ⟨dims', -, -, -⟩)
        · rfl
        all_goals rw [dims] at dims'; cases dims'
  | cons size rest =>
      have found : tensor.shape.lookup 0 = .ok size := by
        rw [Shape.lookup, Shape.size?, dims]
        rfl
      have only {size' : Nat} {rest' : List Nat} (dims' : tensor.shape.dims = size' :: rest') :
          size' = size := (List.cons.inj (dims'.symm.trans dims)).1
      rw [narrow, found, multiplier_eq]
      dsimp only
      by_cases fits : batch.product < limit
      · simp only [if_pos fits]
        by_cases even : size % batch.product = 0
        · rw [if_pos even, narrow_leading_eq_error_iff dims (Nat.div_le_self _ _)]
          constructor
          · rintro ⟨strides, rfl⟩
            exact .strideless dims fits even strides
          · rintro (dims' | ⟨-, large⟩ | ⟨dims', -, uneven⟩ | ⟨-, -, -, strides⟩)
            · rw [dims] at dims'
              cases dims'
            · exact absurd fits (Nat.not_lt.mpr large)
            · exact absurd even (only dims' ▸ uneven)
            · exact ⟨strides, rfl⟩
        · rw [if_neg even]
          constructor
          · rintro ⟨⟩
            exact .indivisible dims fits even
          · rintro (dims' | ⟨-, large⟩ | ⟨dims', -, -⟩ | ⟨dims', -, even', -⟩)
            · rw [dims] at dims'
              cases dims'
            · exact absurd fits (Nat.not_lt.mpr large)
            · rw [only dims']
            · exact absurd (only dims' ▸ even') even
      · simp only [if_neg fits]
        constructor
        · rintro ⟨⟩
          exact .overflow dims (Nat.not_lt.mp fits)
        · rintro (dims' | _ | ⟨-, fits', -⟩ | ⟨-, fits', -, -⟩)
          · rw [dims] at dims'
            cases dims'
          · rfl
          · exact absurd fits' fits
          · exact absurd fits' fits

/-! ## The first tensor that is refused -/

section Traversal

variable {σ : Type} (change : Value → Result Value)

/-- A traversal that only computes comes to what the computation comes to. -/
theorem perform_mapM_computed (leaves : List Value) (state : σ) :
    (leaves.mapM fun value => (ofResult (change value) : Attempt σ Value)).perform state =
      (leaves.mapM change, state) := by
  induction leaves with
  | nil => rfl
  | cons value leaves ih =>
      rw [List.mapM_cons, List.mapM_cons, perform_bind, perform_ofResult]
      cases change value with
      | error cause => rfl
      | ok changed =>
          dsimp only
          rw [perform_bind, ih]
          cases leaves.mapM change <;> rfl

/-- So it fails for what going through the list of all leaves fails for. -/
theorem Tree.ends_mapItemsM_computed (items : List Tree) (state : σ) :
    (Tree.mapItemsM (fun value => (ofResult (change value) : Attempt σ Value)) items).Ends state
      (fun _ _ => ∃ changed, (leavesOfItems items).mapM change = .ok changed)
      fun cause _ => (leavesOfItems items).mapM change = .error cause := by
  have ends : ((leavesOfItems items).mapM fun value =>
      (ofResult (change value) : Attempt σ Value)).Ends state
        (fun _ _ => ∃ changed, (leavesOfItems items).mapM change = .ok changed)
        fun cause _ => (leavesOfItems items).mapM change = .error cause := by
    unfold Ends
    rw [perform_mapM_computed]
    cases (leavesOfItems items).mapM change with
    | ok changed => exact ⟨changed, rfl⟩
    | error cause => rfl
  exact (ends_mapItemsM_of_leaves _ ends).mono (fun _ _ => And.right) fun _ _ => id

/-- So does a change of all leaves of a binding. -/
theorem Binding.ends_forEach_computed (binding : Binding) (state : σ) :
    (forEach fun value => (ofResult (change value) : Attempt σ Value)).Ends (binding, state)
      (fun _ _ => ∃ changed, binding.leaves.mapM change = .ok changed)
      fun cause _ => binding.leaves.mapM change = .error cause := by
  simp only [forEach, setArguments, ends_bind, ends_get, ends_modify, onRest, ends_within]
  exact Tree.ends_mapItemsM_computed change binding.arguments state

end Traversal

/-- Going through a list fails for the first failure. -/
theorem mapM_eq_error_of_first {ε α β : Type} {read : α → Except ε β} {earlier later : List α}
    {element : α} {cause : ε} (fine : ∀ other ∈ earlier, ∃ value, read other = .ok value)
    (fails : read element = .error cause) :
    (earlier ++ element :: later).mapM read = .error cause := by
  obtain ⟨values, before⟩ := exists_mapM_ok_iff.mpr fine
  rw [List.mapM_append, before, List.mapM_cons, fails]
  rfl

/-- A step without state has the only failure that it can end with for its outcome. -/
theorem Attempt.outcome_eq_error {α : Type} {step : Attempt Unit α} {cause : Error}
    (ends : step.Ends () (fun _ _ => False) fun failed _ => failed = cause) :
    step.outcome = .error cause := by
  rcases ended : step.perform () with ⟨failed | value, reached⟩
  · rw [outcome, ended, ends.error ended]
  · exact (ends.ok ended).elim

/-- Why a binding cannot be narrowed: its first tensor that is refused. -/
inductive Batch.Rejects (batch : Batch) (binding : Binding) (cause : Error) : Prop where
  | first {earlier later : List Value} {tensor : Tensor}
      (leaves : binding.leaves = earlier ++ .tensor tensor :: later)
      (accepted : ∀ other, .tensor other ∈ earlier → ∀ cause, ¬ batch.Refuses other cause)
      (refused : batch.Refuses tensor cause)

/-- The views of a binding cannot be made if its batch rejects it. -/
theorem Executor.Views.of_eq_error {options : Options} {binding : Binding} {cause : Error}
    (rejected : (Batch.ofOptions options).Rejects binding cause) :
    Views.of options binding = .error cause := by
  obtain ⟨leaves, accepted, refused⟩ := rejected
  let narrow (value : Value) : Result Value := value.onTensor (Batch.ofOptions options).narrow
  have fails : binding.leaves.mapM narrow = .error cause := by
    rw [leaves]
    refine mapM_eq_error_of_first (fun other there => ?_) ?_
    · cases other with
      | tensor other =>
          cases narrowed : (Batch.ofOptions options).narrow other with
          | ok part => exact ⟨.tensor part, by simp only [narrow, Value.onTensor, narrowed]; rfl⟩
          | error cause =>
              exact absurd (Batch.narrow_eq_error_iff.mp narrowed) (accepted other there cause)
      | _ => exact ⟨_, rfl⟩
    · simp only [narrow, Value.onTensor, Batch.narrow_eq_error_iff.mpr refused]
      rfl
  have narrowing : (withOwn binding (Batch.ofOptions options).traceView).outcome = .error cause := by
    refine outcome_eq_error (ends_withOwn.mpr ?_)
    refine (Binding.ends_forEach_computed narrow binding ()).mono (fun _ _ ⟨_, same⟩ => ?_) ?_
    · exact nomatch fails.symm.trans same
    · exact fun _ _ failed => Except.error.inj (failed.symm.trans fails)
  rw [of, narrowing]
  rfl

end Offload
