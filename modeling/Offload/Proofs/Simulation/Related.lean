/-
# Traversals of aligned bindings

Two runs of one step, on bindings with the same names and aligned arguments. What is computed from
related leaves is related or fails for the same cause, and a traversal of aligned bindings keeps them
aligned as long as the visits of related leaves are alike. A selective traversal need not select the
same leaves in both runs: what matters is that a leaf that is changed and one that is left come out
related.
-/

import Offload.Proofs.Alike
import Offload.Proofs.Inputs.Dense

namespace Offload

variable {σ τ σ' τ' α β α' β' : Type}

/-! ## Results -/

namespace Result.Agree

variable {values : α → α' → Prop} {values' : β → β' → Prop} {result : Result α}
  {result' : Result α'}

theorem map {change : α → β} {change' : α' → β'} (agree : Result.Agree values result result')
    (changes : ∀ value value', values value value' → values' (change value) (change' value')) :
    Result.Agree values' (result.map change) (result'.map change') := by
  cases agree with
  | ok related => exact .ok (changes _ _ related)
  | error cause => exact .error cause

theorem bind {next : α → Result β} {next' : α' → Result β'}
    (agree : Result.Agree values result result')
    (nexts : ∀ value value', values value value' →
      Result.Agree values' (next value) (next' value')) :
    Result.Agree values' (result >>= next) (result' >>= next') := by
  cases agree with
  | ok related => exact nexts _ _ related
  | error cause => exact .error cause

end Result.Agree

namespace Attempt

variable {values : α → α' → Prop} {states : σ → σ' → Prop}

theorem Alike.of_eq {related : α → α → Prop} {step : Attempt σ α} {step' : Attempt σ' α}
    (alike : step.Alike Eq states step') (reflexive : ∀ value, related value value) :
    step.Alike related states step' :=
  alike.mono fun value _ same => same ▸ reflexive value

/-- Alike steps are alike for states that are related in another way, if that says the same. -/
theorem Alike.of_iff {others : σ → σ' → Prop} {step : Attempt σ α} {step' : Attempt σ' α'}
    (alike : step.Alike values states step')
    (same : ∀ state state', others state state' ↔ states state state') :
    step.Alike values others step' := by
  obtain rfl : others = states := funext₂ fun state state' => propext (same state state')
  exact alike

theorem alike_of_agree {outcome : Result α} {outcome' : Result α'}
    (agree : Result.Agree values outcome outcome') :
    (ofResult outcome : Attempt σ α).Alike values states (ofResult outcome') := by
  intro state state' related
  rw [perform_ofResult, perform_ofResult]
  cases agree with
  | ok same => exact .ok same related
  | error cause => exact .error related

theorem alike_observe_agree {step : Attempt σ α} {step' : Attempt σ' α'}
    (steps : step.Alike values states step') :
    step.observe.Alike (Result.Agree values) states step'.observe := by
  intro state state' related
  have ends := steps state state' related
  rw [perform_observe, perform_observe]
  generalize step.perform state = ended at *
  generalize step'.perform state' = ended' at *
  cases ends with
  | ok same related => exact .ok (.ok same) related
  | error related => exact .ok (.error _) related

/-- The outcomes of alike steps without state agree. -/
theorem Alike.outcome {step : Attempt Unit α} {step' : Attempt Unit α'}
    (alike : step.Alike values (fun _ _ => True) step') :
    Result.Agree values step.outcome step'.outcome := by
  have ends := alike () () trivial
  unfold Attempt.outcome
  generalize step.perform () = ended at *
  generalize step'.perform () = ended' at *
  cases ends with
  | ok same _ => exact .ok same
  | error _ => exact .error _

end Attempt

/-! ## Bindings -/

namespace Binding

open Attempt

variable {states : σ → σ' → Prop} {rel : Value → Value → Prop} {flags : Bool → Bool → Prop}
  {change : Value → Attempt σ Value} {change' : Value → Attempt σ' Value}
  {selected selected' : Value → Bool}

/-- Two bindings have the same names and aligned arguments. -/
structure Aligned (rel : Value → Value → Prop) (binding other : Binding) : Prop where
  names : binding.names = other.names
  arguments : Tree.AlignedItems rel binding.arguments other.arguments

theorem Aligned.leaves {binding other : Binding} (aligned : Aligned rel binding other) :
    List.Forall₂ rel binding.leaves other.leaves :=
  aligned.arguments.leaves

private theorem alike_setArguments_aligned {arguments arguments' : List Tree}
    (aligned : Tree.AlignedItems rel arguments arguments') :
    (setArguments arguments : Attempt (Binding × σ) Unit).Alike Eq (Both (Aligned rel) states)
      (setArguments arguments' : Attempt (Binding × σ') Unit) :=
  alike_modify fun _ _ related => ⟨⟨related.1.names, aligned⟩, related.2⟩

/-- Changing every leaf of aligned bindings is alike if the changes of related leaves are. -/
theorem alike_forEach_aligned
    (changes : ∀ value value', rel value value' →
      (change value).Alike rel states (change' value')) :
    (forEach change).Alike Eq (Both (Aligned rel) states) (forEach change') := by
  apply alike_bind alike_get
  intro state state' related
  refine alike_bind_eq (alike_setArguments_aligned trivial) fun _ => ?_
  exact alike_bind (alike_onRest_both (related.1.arguments.alike_mapItemsM changes))
    fun _ _ changed => alike_setArguments_aligned changed

/-- Changing some leaves of aligned bindings is alike if the visits of related leaves are, whether or
not they select them. -/
theorem alike_forEachMatched_aligned (start : flags false false)
    (visits : ∀ value value', rel value value' →
      (Tree.visitMatched selected change value).Alike rel (Both flags states)
        (Tree.visitMatched selected' change' value')) :
    (forEachMatched selected change).Alike flags (Both (Aligned rel) states)
      (forEachMatched selected' change') := by
  apply alike_bind alike_get
  intro state state' related
  refine alike_bind_eq (alike_setArguments_aligned trivial) fun _ => ?_
  refine alike_bind (alike_onRest_both (alike_withOwn_both start
    (related.1.arguments.alike_mapItemsM visits))) fun _ _ ended => ?_
  exact alike_bind_eq (alike_setArguments_aligned ended.1) fun _ => alike_pure ended.2

end Binding

end Offload
