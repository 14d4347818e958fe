/-
# Bindings and their names

A call is bound to as many arguments as there are names. What is done to the binding afterwards
keeps the names, and as long as it succeeds it keeps the number of arguments. But the arguments are
out of the binding while they are worked on, and a failure does not put them back. A failure needs
a leaf to fail on, so there were arguments, and there is nothing left for later work to fail on:
from the first failure on there are fewer arguments than names, and without one there are as many.
-/

import Offload.Proofs.Call.Placement
import Offload.Proofs.Traversal

namespace Offload

open Attempt

/-- What can be done to a binding. -/
inductive Transform (σ : Type) where
  | forEach (change : Value → Attempt σ Value)
  | forEachMatched (selected : Value → Bool) (change : Value → Attempt σ Value)
  | traceView (batch : Batch)
  | promoteInputs

namespace Transform

variable {σ : Type}

/-- Do it, to a binding beside a record of promotions. Whether a leaf was selected is not asked. -/
def apply : Transform σ → Attempt (Promotion × Binding × σ) Unit
  | forEach change => onRest (Binding.forEach change)
  | forEachMatched selected change => do
      let _ ← onRest (Binding.forEachMatched selected change)
  | traceView batch => onRest batch.traceView
  | promoteInputs => Promotion.promoteInputs

/-- Do one thing after the other, whether or not those before it failed. -/
def run : List (Transform σ) → Promotion × Binding × σ →
    List (Result Unit) × Promotion × Binding × σ
  | [], state => ([], state)
  | transform :: later, state =>
      let (outcome, reached) := transform.apply.perform state
      let (outcomes, final) := run later reached
      (outcome :: outcomes, final)

end Transform

namespace Binding

variable {σ τ α : Type} {signature : Signature} {call : CallArguments}
  {binding reached final : Binding} {failed failed' : Prop}

/-- The names stay, and as many arguments unless something failed. Then there were arguments, and
there are none. -/
inductive Fares (binding : Binding) (failed : Prop) (reached : Binding) : Prop where
  | kept (fine : ¬ failed) (names : reached.names = binding.names)
      (length : reached.arguments.length = binding.arguments.length)
  | lost (fails : failed) (names : reached.names = binding.names)
      (some_before : binding.arguments ≠ []) (none_after : reached.arguments = [])

theorem Fares.of_iff (fares : binding.Fares failed reached) (same : failed ↔ failed') :
    binding.Fares failed' reached :=
  propext same ▸ fares

/-- After a failure nothing can fail any more. -/
theorem Fares.trans (first : binding.Fares failed reached) (later : reached.Fares failed' final) :
    binding.Fares (failed ∨ failed') final := by
  rcases first with ⟨fine, names, length⟩ | ⟨fails, names, some_before, none_after⟩ <;>
    rcases later with ⟨fine', names', length'⟩ | ⟨fails', names', some_before', none_after'⟩
  · exact .kept (not_or.mpr ⟨fine, fine'⟩) (names'.trans names) (length'.trans length)
  · refine .lost (.inr fails') (names'.trans names) (fun none => some_before' ?_) none_after'
    exact List.length_eq_zero_iff.mp (length.trans (List.length_eq_zero_iff.mpr none))
  · refine .lost (.inl fails) (names'.trans names) some_before ?_
    exact List.length_eq_zero_iff.mp (length'.trans (List.length_eq_zero_iff.mpr none_after))
  · exact absurd none_after some_before'

/-- A traversal keeps the number of arguments, or has failed on a leaf of one. -/
theorem Traversed.fares {given : α} {visit : Value → Attempt τ Value} {start : τ} {rest : σ}
    {performed : Result α × Binding × σ}
    (traversed : binding.Traversed given (((binding.leaves.mapM visit).perform start).1, rest)
      performed) :
    binding.Fares (∃ cause, performed.1 = .error cause) performed.2.1 := by
  generalize ended : (binding.leaves.mapM visit).perform start = values at traversed
  obtain ⟨values, _⟩ := values
  cases traversed with
  | ok refilled =>
      refine .kept (by simp) refilled.names ?_
      rw [← Tree.length_framesOfItems, refilled.arguments.frames, Tree.length_framesOfItems]
  | error =>
      refine .lost ⟨_, rfl⟩ rfl (fun none => ?_) rfl
      have nothing : ((Tree.leavesOfItems []).mapM visit).perform start = (.ok [], start) := rfl
      rw [leaves, none, nothing] at ended
      cases ended

/-- So does whatever can be done to a binding. -/
theorem fares_apply (transform : Transform σ) (promotion : Promotion) (binding : Binding)
    (state : σ) :
    binding.Fares (∃ cause, (transform.apply.perform (promotion, binding, state)).1 = .error cause)
      (transform.apply.perform (promotion, binding, state)).2.2.1 := by
  -- the flag and the record beside the binding are of no account
  have matched (selected : Value → Bool) (change : Value → Attempt σ Value) :=
    (binding.traversed_forEachMatched selected change state).fares
  cases transform with
  | forEach change => exact (binding.traversed_forEach change state).fares
  | traceView batch => exact (binding.traversed_forEach _ state).fares
  | forEachMatched selected change =>
      have fares := matched selected change
      rw [Transform.apply, perform_bind, perform_onRest]
      generalize (forEachMatched selected change).perform (binding, state) = ended at *
      rcases ended with ⟨_ | _, _⟩ <;> exact fares.of_iff (by simp)
  | promoteInputs =>
      have fares := matched Value.isHalf fun value =>
        ofResult (value.onTensor Tensor.toFullPrecision)
      rw [Transform.apply, Promotion.promoteInputs, perform_bind, perform_onRest, promote]
      generalize (forEachMatched Value.isHalf _).perform (binding, state) = ended at *
      rcases ended with ⟨_ | _, _⟩ <;> exact fares.of_iff (by simp)

/-- So do several things, one after the other. -/
theorem fares_run (transforms : List (Transform σ)) (promotion : Promotion) (binding : Binding)
    (state : σ) :
    binding.Fares (∃ cause, .error cause ∈ (Transform.run transforms (promotion, binding, state)).1)
      (Transform.run transforms (promotion, binding, state)).2.2.1 := by
  induction transforms generalizing promotion binding state with
  | nil => exact .kept (by simp [Transform.run]) rfl rfl
  | cons transform later ih =>
      have first := fares_apply transform promotion binding state
      rw [Transform.run]
      generalize transform.apply.perform (promotion, binding, state) = ended at *
      obtain ⟨outcome, promotion', reached, state'⟩ := ended
      refine (first.trans (ih promotion' reached state')).of_iff ?_
      simp only [List.mem_cons, exists_or, eq_comm]

/-- As many arguments as names are bound. -/
theorem length_arguments_of_bind (bound : bind signature call = .ok binding) :
    binding.arguments.length = binding.names.length := by
  obtain ⟨-, entries, -, rfl⟩ := fills_of_bind bound
  rw [List.length_map, List.length_map]

/-- How a binding is left by what was done to it. -/
structure Left (binding : Binding) (outcomes : List (Result Unit)) (left : Binding) : Prop where
  names : left.names = binding.names
  length_iff : left.arguments.length = left.names.length ↔ ∀ cause, .error cause ∉ outcomes
  emptied : ∀ cause, .error cause ∈ outcomes → left.arguments = []

/-- A bound call has as many arguments as names exactly as long as nothing failed. -/
theorem as_many_arguments_iff_none_failed (bound : bind signature call = .ok binding)
    (transforms : List (Transform σ)) (promotion : Promotion) (state : σ) :
    binding.Left (Transform.run transforms (promotion, binding, state)).1
      (Transform.run transforms (promotion, binding, state)).2.2.1 := by
  have matching := length_arguments_of_bind bound
  rcases fares_run transforms promotion binding state with
    ⟨fine, names, length⟩ | ⟨⟨cause, fails⟩, names, some_before, none_after⟩
  · have fine := not_exists.mp fine
    rw [← names, ← length] at matching
    exact ⟨names, iff_of_true matching fine, fun cause fails => absurd fails (fine cause)⟩
  · refine ⟨names, iff_of_false (fun same => some_before ?_) fun fine => fine cause fails,
      fun _ _ => none_after⟩
    rw [names, none_after, ← matching] at same
    exact List.length_eq_zero_iff.mp same.symm

/-- One parameter, and a string for it. -/
def oneString : Binding := ⟨["a"], [.leaf (.str "s")]⟩

theorem bind_oneString : bind ⟨[⟨"a", none⟩]⟩ ⟨[.leaf (.str "s")], []⟩ = .ok oneString := rfl

/-- Strings are refused. -/
def refuseStrings : Value → Attempt Unit Value
  | .str text => throw (.custom s!"string leaf {text}")
  | value => pure value

theorem oneString_left : bind ⟨[⟨"a", none⟩]⟩ ⟨[.leaf (.str "s")], []⟩ = .ok oneString ∧
    oneString.Left [.ok (), .ok ()] oneString :=
  ⟨bind_oneString, as_many_arguments_iff_none_failed bind_oneString
    [.traceView (.ofFactors 2 1 1), .promoteInputs] .none ()⟩

/-- What refuses the string leaves a name without an argument. -/
theorem oneString_lost : bind ⟨[⟨"a", none⟩]⟩ ⟨[.leaf (.str "s")], []⟩ = .ok oneString ∧
    ∃ left, Transform.run [.forEach refuseStrings] (.none, oneString, ()) =
        ([.error (.custom "string leaf s")], .none, left, ()) ∧
      left.names = ["a"] ∧ left.arguments = [] ∧ left.arguments.length ≠ left.names.length :=
  ⟨bind_oneString, _, rfl, rfl, rfl, by decide⟩

end Binding

end Offload
