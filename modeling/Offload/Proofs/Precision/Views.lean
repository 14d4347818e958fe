/-
# Views of a binding

Compilation works on two views of the arguments of a call. The narrowed view has the first
micro-batch of every tensor, and the promoted view that micro-batch in full precision. Both have the
containers of the arguments, and every leaf follows from the leaf in its place. Where nothing had
reduced precision the two are the same.
-/

import Offload.Proofs.Batch
import Offload.Proofs.Leaves

namespace Offload

open Attempt

/-- A converted tensor has the type it was converted to. -/
theorem Tensor.dtype_of_toDType {tensor converted : Tensor} {target : DType}
    (succeeded : tensor.toDType target = .ok converted) : converted.dtype = target := by
  unfold toDType at succeeded
  split at succeeded
  · next same =>
      obtain rfl := Except.ok.inj succeeded
      exact same
  · obtain ⟨cells, -, rfl⟩ := Result.exists_of_map_ok succeeded
    rfl

namespace Value

/-- A leaf of a binding and the leaf in its place in the narrowed view. -/
inductive Leads (count : Nat) : Value → Value → Prop where
  | tensor {whole part : Tensor} (leads : Tensor.Leads count whole part) :
      Leads count (.tensor whole) (.tensor part)
  | other {value : Value} (other : value.tensor? = Option.none) : Leads count value value

/-- A leaf of the narrowed view and the leaf in its place in the promoted one. -/
inductive Promotes : Value → Value → Prop where
  | half {tensor promoted : Tensor} (half : tensor.dtype.isHalf = true)
      (converted : tensor.toDType .f32 = .ok promoted) :
      Promotes (.tensor tensor) (.tensor promoted)
  | full {value : Value} (full : value.isHalf = false) : Promotes value value

/-- Changing the tensor of a leaf relates it as the change relates tensors. -/
theorem ends_onTensor {σ : Type} {rel : Value → Value → Prop} {change : Tensor → Result Tensor}
    (value : Value) (state : σ)
    (changes : ∀ tensor changed, value = .tensor tensor → change tensor = .ok changed →
      rel (.tensor tensor) (.tensor changed))
    (other : value.tensor? = Option.none → rel value value) :
    (Attempt.ofResult (value.onTensor change)).Ends state (fun changed _ => rel value changed)
      fun _ _ => True := by
  refine ends_ofResult (fun changed succeeded => ?_) fun _ _ => trivial
  cases value with
  | tensor tensor =>
      obtain ⟨derived, there, rfl⟩ := Result.exists_of_map_ok succeeded
      exact changes tensor derived rfl there
  | _ =>
      obtain rfl := Except.ok.inj succeeded
      exact other rfl

/-- Nothing in the promoted view has reduced precision. -/
theorem Promotes.isHalf {value promoted : Value} (promotes : Promotes value promoted) :
    promoted.isHalf = false := by
  cases promotes with
  | half _ converted => rw [Value.isHalf, Tensor.dtype_of_toDType converted]; rfl
  | full full => exact full

end Value

/-- Narrowing a binding takes the first micro-batch of every tensor. -/
theorem Batch.ends_traceView (batch : Batch) (binding : Binding) :
    (withOwn binding (batch.traceView (σ := Unit))).Ends ()
      (fun ended _ =>
        Tree.AlignedItems (Value.Leads batch.product) binding.arguments ended.2.arguments)
      fun _ _ => True :=
  ends_withOwn.mpr (Binding.ends_forEach
    (fun value state => value.ends_onTensor state
      (fun _ _ _ narrowed => .tensor (leads_of_narrow narrowed)) .other) binding ())

/-- Promoting a binding converts every tensor of reduced precision, and nothing else. -/
theorem Promotion.ends_promoteInputs (promotion : Promotion) (binding : Binding) :
    (withOwn binding (withOwn promotion (promoteInputs (σ := Unit)))).Ends ()
      (fun ended _ =>
        Tree.AlignedItems Value.Promotes binding.arguments ended.2.arguments ∧
          (ended.1.2.anyInput = false → ended.2.arguments = binding.arguments))
      fun _ _ => True := by
  have changes (value : Value) (half : value.isHalf = true) (state : Unit) :
      (ofResult (value.onTensor Tensor.toFullPrecision)).Ends state
        (fun changed _ => Value.Promotes value changed) fun _ _ => True := by
    cases value with
    | tensor tensor =>
        have half : tensor.dtype.isHalf = true := half
        refine Value.ends_onTensor _ state (fun _ promoted same converted => ?_)
          (by rintro ⟨⟩)
        obtain rfl := Value.tensor.inj same
        rw [Tensor.toFullPrecision, DType.fullPrecision, if_pos half] at converted
        exact .half half converted
    | _ => cases half
  rw [ends_withOwn, ends_withOwn, promoteInputs, ends_bind, onRest, ends_within]
  refine (Binding.ends_forEachMatched changes (fun _ => .full) binding ()).mono ?_ fun _ _ => id
  rintro matched reached ⟨aligned, unchanged⟩
  rw [ends_modify]
  exact ⟨aligned, fun none => unchanged (Bool.or_eq_false_iff.mp none).2⟩

/-- What holds of every end of a step without state holds of its outcome. -/
theorem Attempt.of_outcome {α : Type} {step : Attempt Unit α} {good : α → Unit → Prop}
    {bad : Error → Unit → Prop} {value : α} (ends : step.Ends () good bad)
    (succeeded : step.outcome = .ok value) : good value () := by
  apply ends.ok
  exact Prod.ext succeeded rfl

namespace Executor

/-- How the views that compilation works on come from the binding. -/
structure Views.Follow (options : Options) (binding : Binding) (views : Views) : Prop where
  narrowed : Tree.AlignedItems (Value.Leads (Batch.ofOptions options).product)
    binding.arguments views.narrowed.arguments
  promoted : Tree.AlignedItems Value.Promotes views.narrowed.arguments views.promoted.arguments
  same : views.promotion.anyInput = false → views.promoted.arguments = views.narrowed.arguments

/-- Views that were made come from narrowing the binding and then promoting it. -/
theorem Views.of_eq_ok {options : Options} {binding : Binding} {views : Views}
    (made : Views.of options binding = .ok views) :
    (withOwn binding (Batch.ofOptions options).traceView).outcome = .ok ((), views.narrowed) ∧
      (withOwn views.narrowed (withOwn Promotion.none Promotion.promoteInputs)).outcome =
        .ok (((), views.promotion), views.promoted) := by
  unfold Views.of at made
  rcases narrows : (withOwn binding (Batch.ofOptions options).traceView).outcome with
    cause | ⟨_, narrowed⟩
  · rw [narrows] at made
    exact nomatch made
  rw [narrows] at made
  rcases promotes : (withOwn narrowed (withOwn Promotion.none Promotion.promoteInputs)).outcome with
    cause | ⟨⟨_, promotion⟩, promoted⟩
  all_goals
    change ((withOwn narrowed (withOwn Promotion.none Promotion.promoteInputs)).outcome >>= _) =
      _ at made
    rw [promotes] at made
  · exact nomatch made
  · obtain rfl := Except.ok.inj made
    exact ⟨rfl, promotes⟩

theorem Views.follow {options : Options} {binding : Binding} {views : Views}
    (made : Views.of options binding = .ok views) : Views.Follow options binding views := by
  obtain ⟨narrows, promotes⟩ := Views.of_eq_ok made
  have aligned := of_outcome (Promotion.none.ends_promoteInputs views.narrowed) promotes
  exact ⟨of_outcome ((Batch.ofOptions options).ends_traceView binding) narrows, aligned.1, aligned.2⟩

end Executor

end Offload
