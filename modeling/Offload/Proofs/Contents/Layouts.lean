/-
# Layouts make no difference

Two calls whose arguments have the same containers, keys and plain values, and in the place of a tensor
a tensor of the same contents, however the two lie in their buffers and whatever they share with
others. An executor on a platform that looks at contents only does the same for both: the same is
asked of the platform in the same order, both fail for the same cause or give the same results, and
the executor and its session are left the same. The two calls differ in nothing but whether the
application is warned of strided inputs, and in the mark that it was. Results are the same as far as
those of the platform are: altogether if it computes nothing that depends on a layout, and in their
contents if it hands its inputs back.

Nothing is assumed of the state that both calls find, so the same holds call after call.
-/

import Offload.Proofs.Contents.Rehearsal
import Offload.Proofs.Inputs.Warning
import Offload.Proofs.Simulation.Calls

namespace Offload

open Attempt

variable {P : Platform} {ind : Indifference P}

/-- Tensors of the same type, shape and elements, each inside its buffer, agree. -/
theorem Tensor.InBounds.agrees {tensor other : Tensor} (inside : tensor.InBounds)
    (inside' : other.InBounds) (dtype : tensor.dtype = other.dtype)
    (shape : tensor.shape = other.shape)
    (elements : tensor.elementsAs tensor.dtype = other.elementsAs tensor.dtype) :
    tensor.Agrees other :=
  .inr ⟨inside.sameContents dtype shape elements, inside, inside'⟩

/-- If a platform tells any two models apart, executors that cannot be told apart are equal but for
the mark that the application was warned. -/
theorem Executor.Similar.eq {executor other : Executor P}
    (similar : executor.Similar ind.simulation other)
    (strict : ∀ model model', ind.models model model' → model = model') :
    { executor with warned := other.warned } = other := by
  obtain ⟨subject, options, training, device, optimizer, requested, refreshesSeen, warned⟩ := executor
  obtain ⟨subject', options', training', device', optimizer', requested', refreshesSeen', warned'⟩ :=
    other
  obtain ⟨subjects, rfl, rfl, rfl, rfl, rfl, rfl, -⟩ := similar
  cases subjects with
  | own related =>
      obtain rfl := strict _ _ related
      rfl
  | shared handle => rfl
  | training handle losses =>
      cases losses with
      | none => rfl
      | some related =>
          obtain ⟨rfl, -⟩ := related
          rfl

/-! ## Turns -/

/-- The same is to be done in sessions that are the same, with arguments that agree. -/
structure Turn.Same (ind : Indifference P) (turn other : Turn P) : Prop where
  session : turn.session.Similar ind.simulation other.session
  requested : turn.requested = other.requested
  compiles : turn.compiles = other.compiles
  arguments : CallArguments.Aligned Value.Agrees turn.arguments other.arguments

/-- Two episodes come to the same. -/
structure Episode.Same (ind : Indifference P) (episode other : Episode P) : Prop where
  outcome : Result.Agree (Option.Rel (Output.Relates (Value.Relates ind.results))) episode.outcome
    other.outcome
  reached : episode.reached.Similar ind.simulation other.reached

namespace Executor

theorem alike_take {turn other : Turn P} (same : turn.Same ind other) :
    (take turn).Alike (Option.Rel (Output.Relates (Value.Relates ind.results)))
      (Running.Similar ind.simulation) (take other) := by
  have compiles := @alike_compile _ _ _ ind.simulation _ _ same.arguments
  have calls := @alike_call _ _ _ ind.simulation _ _ same.arguments
  unfold take
  rw [same.compiles]
  exact alike_ite (alike_bind_eq compiles fun _ => alike_pure .none)
    (alike_bind calls fun _ _ outputs => alike_pure (.some outputs))

/-- Turn after turn, executors that cannot be told apart come to the same. The induction is on the
turns. -/
theorem same_episodes {executor other : Executor P}
    (similar : executor.Similar ind.simulation other) {turns turns' : List (Turn P)}
    (same : List.Forall₂ (Turn.Same ind) turns turns') :
    List.Forall₂ (Episode.Same ind) (executor.episodes turns) (other.episodes turns') := by
  induction same generalizing executor other with
  | nil => exact .nil
  | @cons turn turn' later later' first _ ih =>
      have opening : (executor.opening turn).Similar ind.simulation (other.opening turn') :=
        ⟨{ similar with requested := first.requested }, first.session⟩
      have ends := alike_take first _ _ opening
      rw [episodes, episodes]
      generalize (take turn).perform (executor.opening turn) = ended at ends ⊢
      generalize (take turn').perform (other.opening turn') = ended' at ends ⊢
      cases ends with
      | ok outputs reached => exact .cons ⟨.ok outputs, reached⟩ (ih reached.executor)
      | error reached => exact .cons ⟨.error _, reached⟩ (ih reached.executor)

/-! ## From one state -/

/-- From one state, two steps ask the same of the platform, come to the same, and leave executors and
sessions that cannot be told apart. -/
structure Indistinct {α : Type} (ind : Indifference P) (values : α → α → Prop)
    (before : Running P.journaled) (step step' : Attempt (Running P.journaled) α) : Prop where
  asked : List.Forall₂ Entry.Same (added before (step.perform before).2)
    (added before (step'.perform before).2)
  outcome : Result.Agree values (step.perform before).1 (step'.perform before).1
  executor : (step.perform before).2.executor.Similar ind.journaled.simulation
    (step'.perform before).2.executor
  session : (step.perform before).2.session.Similar ind.journaled.simulation
    (step'.perform before).2.session

/-- Alike steps are not told apart from a state that is not told from itself. -/
theorem Indistinct.of_alike {α : Type} {values : α → α → Prop} {before : Running P.journaled}
    {step step' : Attempt (Running P.journaled) α}
    (itself : before.Similar ind.journaled.simulation before)
    (alike : step.Alike values (Running.Similar ind.journaled.simulation) step') :
    Indistinct ind values before step step' := by
  have ends := alike before before itself
  have parts : Result.Agree values (step.perform before).1 (step'.perform before).1 ∧
      (step.perform before).2.Similar ind.journaled.simulation (step'.perform before).2 := by
    generalize step.perform before = ended at ends ⊢
    generalize step'.perform before = ended' at ends ⊢
    cases ends with
    | ok same reached => exact ⟨.ok same, reached⟩
    | error reached => exact ⟨.error _, reached⟩
  obtain ⟨outcome, executor, session⟩ := parts
  exact ⟨List.forall₂_drop _ session.world.entries, outcome, executor, session⟩

/-- An executor whose loss, if it has one, looks at contents only cannot be told from itself. -/
theorem similar_journaled (executor : Executor P)
    (fits : ∀ loss, executor.subject.loss? = some loss → ind.FitsLoss loss) :
    executor.journaled.Similar ind.journaled.simulation executor.journaled := by
  refine ⟨?_, rfl, rfl, rfl, rfl, rfl, rfl, nofun⟩
  rw [Executor.journaled]
  cases subject : executor.subject with
  | own model => exact .own (ind.sameModel model)
  | shared handle => exact .shared handle
  | training handle loss =>
      refine .training handle ?_
      cases loss with
      | none => exact .none
      | some loss =>
          exact .some ⟨rfl, Indifference.FitsLoss.journaled (fits loss (by rw [subject]; rfl))⟩

/-- Calls, and compilations, for arguments that differ in the layouts of their tensors only ask the
same of a platform that looks at contents only, with tensors of the same contents; they give the same
results, as far as those of the platform are, or fail for the same cause, and leave the same, but for
the warning of strided inputs. -/
theorem layouts_make_no_difference (ind : Indifference P) (executor : Executor P)
    (fits : ∀ loss, executor.subject.loss? = some loss → ind.FitsLoss loss)
    (session : Session P.journaled) {arguments arguments' : CallArguments}
    (agrees : CallArguments.Aligned Value.Agrees arguments arguments') :
    Indistinct ind (Output.Relates (Value.Relates ind.results)) ⟨executor.journaled, session⟩
        (call arguments) (call arguments') ∧
      Indistinct ind Eq ⟨executor.journaled, session⟩ (compile arguments) (compile arguments') := by
  have itself : Running.Similar ind.journaled.simulation ⟨executor.journaled, session⟩
      ⟨executor.journaled, session⟩ :=
    ⟨executor.similar_journaled fits, Indifference.similar_session session⟩
  exact ⟨.of_alike itself (alike_call agrees), .of_alike itself (alike_compile agrees)⟩

section Rehearsed

/-- The exchanged numbers in a buffer of their own, in their order. -/
def settled : Tensor := .dense (.made 1) .f32 [1, 4, 2, 5, 3, 6] ⟨[3, 2]⟩

theorem turned_agrees_settled : turned.Agrees settled :=
  turned_inBounds.agrees (Tensor.inBounds_dense rfl) rfl rfl rfl

/-- A new session in which executions hand their inputs back. -/
def echoing : Session (Rehearsal.platform true).journaled :=
  .start (.start { Rehearsal.World.initial with outputs := none })

/-- A call on one tensor. -/
def giving (tensor : Tensor) : CallArguments := ⟨[.leaf (.tensor tensor)], []⟩

/-- A rehearsed wrapper that trains a model with its own output as the loss. -/
def pupil : Executor (Rehearsal.platform true) :=
  { attentive with
    subject := .training ⟨0⟩ (some fun output _ => pure output)
    training := true }

/-- A call on exchanged rows and columns cannot be told from one on the same numbers in their order,
but that only the first one warns. -/
theorem turned_makes_no_difference :
    Indistinct (Rehearsal.indifference true) (Output.Relates Value.Same) ⟨pupil.journaled, echoing⟩
        (call (giving turned)) (call (giving settled)) ∧
      [turned, settled].map (fun tensor =>
        let ended := (call (giving tensor)).perform ⟨pupil.journaled, echoing⟩
        (ended.1.isOk, ended.2.executor.warned)) = [(true, true), (true, false)] ∧
      ((call (giving settled)).perform ⟨pupil.journaled, echoing⟩).2.executor =
        { ((call (giving turned)).perform ⟨pupil.journaled, echoing⟩).2.executor with
          warned := false } := by
  have fits : ∀ loss, pupil.subject.loss? = some loss →
      (Rehearsal.indifference true).FitsLoss loss := by
    rintro _ ⟨⟩ output output' target target' outputs -
    exact alike_pure outputs
  have agrees : CallArguments.Aligned Value.Agrees (giving turned) (giving settled) :=
    ⟨⟨.tensor turned_agrees_settled, trivial⟩, trivial⟩
  have indistinct := (layouts_make_no_difference (Rehearsal.indifference true) pupil fits echoing
    agrees).1
  have quiet : ((call (giving settled)).perform
      ⟨pupil.journaled, echoing⟩).2.executor.warned = false := by decide +kernel
  have equal := indistinct.executor.eq fun _ _ => id
  rw [quiet] at equal
  exact ⟨indistinct, by decide +kernel, equal.symm⟩

end Rehearsed

end Executor

end Offload
