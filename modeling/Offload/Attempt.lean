/-
# Attempts

A step over a state that may fail. A failed step keeps the state it has reached: what was done
before the failure stays done. The combinators run a step on a part of a larger state or on a
copy, give it a piece of state of its own, and turn its failure into a value.
-/

import Offload.Error

namespace Offload

/-- A step over the state `σ` that gives an `α` or fails, and leaves a state in both cases. -/
abbrev Attempt (σ α : Type) := ExceptT Error (StateM σ) α

/-- A part of a larger state: how to read it and how to put it back. -/
structure Focus (whole part : Type) where
  get : whole → part
  set : part → whole → whole

namespace Attempt

variable {σ τ α : Type}

/-- Run a step from a state: its outcome and the state it leaves. -/
def perform (step : Attempt σ α) (state : σ) : Result α × σ := step.run.run state

/-- A step that only passes on an outcome already known. -/
def ofResult (outcome : Result α) : Attempt σ α := ExceptT.mk (pure outcome)

/-- Run a step on a part of the state; the rest is left alone. -/
def within (focus : Focus τ σ) (step : Attempt σ α) : Attempt τ α :=
  ExceptT.mk fun state =>
    let (outcome, part) := step.perform (focus.get state)
    (outcome, focus.set part state)

/-- Run a step on the first part of a pair of states. -/
def onOwn (step : Attempt τ α) : Attempt (τ × σ) α :=
  within ⟨Prod.fst, fun own state => (own, state.2)⟩ step

/-- Run a step on the second part of a pair of states. -/
def onRest (step : Attempt σ α) : Attempt (τ × σ) α :=
  within ⟨Prod.snd, fun rest state => (state.1, rest)⟩ step

/-- Run a step with a piece of state of its own, which starts as `own` and is handed out with
the result. A failure discards it. -/
def withOwn (own : τ) (step : Attempt (τ × σ) α) : Attempt σ (α × τ) :=
  ExceptT.mk fun state =>
    let (outcome, (final, rest)) := step.perform (own, state)
    (outcome.map fun value => (value, final), rest)

/-- Run a step on a copy of the state. A failure discards the copy. -/
def onCopy (step : Attempt σ α) : Attempt σ α :=
  ExceptT.mk fun state =>
    match step.perform state with
    | (.ok value, reached) => (.ok value, reached)
    | (.error cause, _) => (.error cause, state)

/-- Run a step and report its outcome as a value; this never fails itself. -/
def observe (step : Attempt σ α) : Attempt σ (Result α) :=
  ExceptT.mk fun state =>
    let (outcome, next) := step.perform state
    (.ok outcome, next)

@[simp]
theorem perform_pure (value : α) (state : σ) :
    (pure value : Attempt σ α).perform state = (.ok value, state) := rfl

@[simp]
theorem perform_throw (cause : Error) (state : σ) :
    (throw cause : Attempt σ α).perform state = (.error cause, state) := rfl

@[simp]
theorem perform_ofResult (outcome : Result α) (state : σ) :
    (ofResult outcome : Attempt σ α).perform state = (outcome, state) := rfl

/-- A failed first step ends the whole, and its state stays. -/
theorem perform_bind {β : Type} (first : Attempt σ α) (next : α → Attempt σ β) (state : σ) :
    (first >>= next).perform state =
      match first.perform state with
      | (.ok value, reached) => (next value).perform reached
      | (.error cause, reached) => (.error cause, reached) := by
  simp only [perform, ExceptT.run, bind, ExceptT.bind, ExceptT.mk, ExceptT.bindCont,
    StateT.bind, StateT.run]
  rcases first state with ⟨outcome, reached⟩
  cases outcome <;> rfl

@[simp]
theorem perform_within (focus : Focus τ σ) (step : Attempt σ α) (state : τ) :
    (within focus step).perform state =
      ((step.perform (focus.get state)).1,
        focus.set (step.perform (focus.get state)).2 state) := rfl

@[simp]
theorem perform_observe (step : Attempt σ α) (state : σ) :
    step.observe.perform state = (.ok (step.perform state).1, (step.perform state).2) := rfl

end Attempt

end Offload
