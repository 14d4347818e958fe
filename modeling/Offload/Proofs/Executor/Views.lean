/-
# What a call works on

The binding of a call and the views that compilation works on are computed from the arguments, the
signature and the options alone: whatever the state, they come out the same and leave it as it is.
So they can be named without running anything. Binding also tells the application, once, that an
input had to be brought into one block.
-/

import Offload.Proofs.Alike
import Offload.Proofs.Executor.Telling

namespace Offload

open Attempt

section Outcome

variable {σ α : Type}

/-- The outcome of a step that needs no state. -/
def Attempt.outcome (step : Attempt Unit α) : Result α := (step.perform ()).1

/-- A step that is written for any state at all and leaves it alone has its outcome without
one. -/
theorem Attempt.perform_eq_outcome {step : Attempt σ α} {stateless : Attempt Unit α}
    (alike : step.Alike Eq (fun _ _ => True) stateless) (obeys : step.Obeys Eq) (state : σ) :
    step.perform state = (stateless.outcome, state) := by
  have agree := alike state () trivial
  have same := obeys state
  unfold outcome
  generalize step.perform state = ended at *
  generalize stateless.perform () = ended' at *
  obtain ⟨outcome, reached⟩ := ended
  obtain rfl : state = reached := same
  cases agree with
  | ok value _ => rw [value]
  | error _ => rfl

end Outcome

/-- The binding of a call to a signature, with its tensors brought into one block; and whether one
was not. -/
def Binding.ofCall (signature : Signature) (call : CallArguments) : Result (Bool × Binding) := do
  let bound ← Binding.bind signature call
  (withOwn bound Binding.densify).outcome

namespace Executor

/-- The views that compilation works on. -/
def Views.of (options : Options) (binding : Binding) : Result Views := do
  let ((), narrowed) ← (withOwn binding (Batch.ofOptions options).traceView).outcome
  let (((), promotion), promoted) ←
    (withOwn narrowed (withOwn Promotion.none Promotion.promoteInputs)).outcome
  return ⟨narrowed, promoted, promotion⟩

/-- What compilation works with: all options in one table, and the views. -/
def draft (options : Options) (binding : Binding) : Result (OptionTable × Views) := do
  let table ← options.flatten
  return (table, ← Views.of options binding)

theorem draft_of_flatten {options : Options} {table : OptionTable}
    (flat : options.flatten = .ok table) (binding : Binding) :
    draft options binding = (Views.of options binding).map fun views => (table, views) := by
  rw [draft, flat]
  cases Views.of options binding <;> rfl

theorem views_of_draft {options : Options} {binding : Binding} {table : OptionTable} {views : Views}
    (drafted : draft options binding = .ok (table, views)) :
    Views.of options binding = .ok views := by
  cases flat : options.flatten with
  | error cause =>
      rw [draft, flat] at drafted
      exact nomatch drafted
  | ok table =>
      rw [draft_of_flatten flat] at drafted
      cases made : Views.of options binding with
      | error cause =>
          rw [made] at drafted
          exact nomatch drafted
      | ok others =>
          rw [made] at drafted
          exact congrArg Except.ok (Prod.mk.inj (Except.ok.inj drafted)).2

variable {P : Platform}

theorem perform_viewsOf (options : Options) (binding : Binding) (running : Running P) :
    (viewsOf options binding).perform running = (Views.of options binding, running) := by
  have narrows : ∀ state : Running P,
      (withOwn binding (Batch.ofOptions options).traceView).perform state =
        ((withOwn binding (Batch.ofOptions options).traceView).outcome, state) :=
    perform_eq_outcome (alike_withOwn (Binding.alike_traceView _))
      (obeys_withOwn (Binding.obeys_traceView _))
  have promotes (narrowed : Binding) : ∀ state : Running P,
      (withOwn narrowed (withOwn Promotion.none Promotion.promoteInputs)).perform state =
        ((withOwn narrowed (withOwn Promotion.none Promotion.promoteInputs)).outcome, state) :=
    perform_eq_outcome (alike_withOwn (alike_withOwn Promotion.alike_promoteInputs))
      (obeys_withOwn (obeys_withOwn (obeys_bind (obeys_onRest Binding.obeys_promote) fun _ _ => rfl)))
  simp only [viewsOf, Views.of, perform_bind, narrows]
  rcases (withOwn binding (Batch.ofOptions options).traceView).outcome with cause | ⟨_, narrowed⟩
  · rfl
  · change _ = ((withOwn narrowed (withOwn Promotion.none Promotion.promoteInputs)).outcome >>= _,
      running)
    simp only [promotes]
    rcases (withOwn narrowed (withOwn Promotion.none Promotion.promoteInputs)).outcome with
      cause | ⟨⟨_, promotion⟩, promoted⟩ <;> rfl

/-- Making the views leaves the state alone. -/
theorem ends_views (options : Options) (binding : Binding) (running : Running P) :
    (viewsOf options binding).Ends running
      (fun views reached => Views.of options binding = .ok views ∧ running = reached)
      fun cause reached => Views.of options binding = .error cause ∧ running = reached := by
  unfold Ends
  rw [perform_viewsOf]
  cases Views.of options binding <;> exact ⟨rfl, rfl⟩

/-- The views of a binding are made without promoting a layer. -/
theorem ends_views_unpromoted (options : Options) (binding : Binding) (running : Running P) :
    (viewsOf options binding).Ends running
      (fun views reached => views.promotion.layers = [] ∧ running = reached)
      fun _ reached => True ∧ running = reached := by
  refine Ends.and ?_ ((ends_views options binding running).mono (fun _ _ => And.right)
    fun _ _ => And.right)
  have inputs (state : Promotion × Binding × Running P) :
      Promotion.promoteInputs.Ends state (fun _ reached => reached.1.layers = state.1.layers)
        fun _ _ => True := by
    rw [Promotion.promoteInputs, ends_bind, onRest, ends_within]
    exact (ends_somehow _ _).mono (fun _ _ _ => rfl) fun _ _ => id
  rw [viewsOf, ends_bind, ends_withOwn]
  refine (ends_somehow _ _).mono (fun _ narrowed _ => ?_) fun _ _ => id
  rw [ends_bind, ends_withOwn, ends_withOwn]
  exact (inputs _).mono (fun _ _ => id) fun _ _ => id

/-- The application was told of strided inputs, unless there was none or it was told before. -/
def heeding (densified : Bool) (running : Running P) : Running P :=
  if densified && !running.executor.warned then
    { executor := { running.executor with warned := true }
      session := { running.session with notices := running.session.notices ++ [.stridedInput] } }
  else running

/-- What is left when the application was told: a mark, and one notice if it was not there before. -/
theorem heeding_eq (densified : Bool) (running : Running P) :
    heeding densified running =
      ⟨{ running.executor with warned := running.executor.warned || densified },
        { running.session with
          notices := running.session.notices ++
            if densified && !running.executor.warned then [.stridedInput] else [] }⟩ := by
  obtain ⟨⟨_, _, _, _, _, _, _, warned⟩, session⟩ := running
  cases densified <;> cases warned <;> simp [heeding]

theorem tells_heeding (densified : Bool) (running : Running P) :
    Tells running (heeding densified running) := by
  unfold heeding
  split
  · exact ⟨_, true, rfl⟩
  · exact refl_of Tells running

/-- The arguments of a call are bound as the signature wants, and the application may be told. -/
theorem ends_bind_arguments (call : CallArguments) (running : Running P) :
    (bind call).Ends running
      (fun binding reached => ∃ densified,
        Binding.ofCall (running.executor.subject.signature running.session) call =
          .ok (densified, binding) ∧ reached = heeding densified running)
      fun cause reached =>
        Binding.ofCall (running.executor.subject.signature running.session) call = .error cause ∧
          reached = running := by
  have densifies (bound : Binding) : ∀ state : Running P,
      (withOwn bound Binding.densify).perform state =
        ((withOwn bound Binding.densify).outcome, state) :=
    perform_eq_outcome (alike_withOwn Binding.alike_densify) (obeys_withOwn Binding.obeys_densify)
  unfold Ends bind
  simp only [perform_bind, perform_get, perform_ofResult]
  rcases named : Binding.bind (running.executor.subject.signature running.session) call with
    cause | bound
  · exact ⟨by rw [Binding.ofCall, named]; rfl, rfl⟩
  · have called : Binding.ofCall (running.executor.subject.signature running.session) call =
        (withOwn bound Binding.densify).outcome := by
      rw [Binding.ofCall, named]
      rfl
    simp only [densifies, called]
    rcases (withOwn bound Binding.densify).outcome with cause | ⟨densified, binding⟩
    · exact ⟨rfl, rfl⟩
    · by_cases strided : (densified && !running.executor.warned) = true
      · simp only [strided, if_true]
        exact ⟨densified, rfl, by rw [heeding, if_pos strided]; rfl⟩
      · simp only [strided]
        exact ⟨densified, rfl, by rw [heeding, if_neg strided]⟩

end Executor

end Offload
