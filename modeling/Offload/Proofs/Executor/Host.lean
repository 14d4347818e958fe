/-
# The model behind an executor

An executor compiles a model of its own or one behind a handle. Either way the model stands
somewhere in the state of the running executor, and casting one of its layers is a step on that
part of the state, which is taken unless somebody holds the model.
-/

import Offload.Executor.Compile
import Offload.Proofs.Attempt
import Offload.Proofs.Session.Step

namespace Offload.Executor

open Attempt

variable {P : Platform}

/-- The model that a running executor compiles. -/
def host (running : Running P) : P.Model :=
  match running.executor.subject with
  | .own model => model
  | .shared handle => (running.session.cell handle).model
  | .training handle _ => (running.session.cell handle).model

/-- Nobody holds the model that a running executor compiles; its own it holds itself. -/
def hostFree (running : Running P) : Bool :=
  match running.executor.subject with
  | .own _ => true
  | .shared handle => (running.session.cell handle).isFree
  | .training handle _ => (running.session.cell handle).isFree

/-- The model and the world, as a part of a running executor. -/
def hostPart : Focus (Running P) (P.Model × P.World) where
  get running := (host running, running.session.world)
  set part running :=
    match running.executor.subject with
    | .own _ =>
        { executor := { running.executor with subject := .own part.1 }
          session := { running.session with world := part.2 } }
    | .shared handle =>
        { running with session := (Session.modelFocus handle).set part running.session }
    | .training handle _ =>
        { running with session := (Session.modelFocus handle).set part running.session }

section Same

variable {before reached : Running P} (subject : reached.executor.subject = before.executor.subject)

include subject

/-- While models are what they were, so is the model behind the executor. -/
theorem host_eq_of_same (model : ∀ handle,
    (reached.session.cell handle).model = (before.session.cell handle).model) :
    host reached = host before := by
  rw [host, host, subject]
  split
  · rfl
  · exact model _
  · exact model _

/-- While models are as free as they were, so is the model behind the executor. -/
theorem hostFree_eq_of_same (free : ∀ handle,
    (reached.session.cell handle).isFree = (before.session.cell handle).isFree) :
    hostFree reached = hostFree before := by
  rw [hostFree, hostFree, subject]
  split
  · rfl
  · exact free _
  · exact free _

end Same

/-- The subject answers for its layers what its model answers for them, if it answers. -/
theorem ends_layers_of_host {said : List LayerInfo → Prop} {running : Running P}
    (asked : ∀ world, (P.model.layers (host running)).Ends world (fun infos _ => said infos)
      fun _ _ => True) :
    (answers (P := P)).layers.Ends running (fun infos _ => said infos) fun _ _ => True := by
  have borrowed (handle : Handle)
      (asked : ∀ world, (P.model.layers (running.session.cell handle).model).Ends world
        (fun infos _ => said infos) fun _ _ => True) :
      (Session.layers handle).Ends running.session (fun infos _ => said infos)
        fun _ _ => True := by
    simp only [Session.layers, Session.borrow, ends_bind, ends_get]
    split
    · trivial
    · exact ends_within.mpr (asked _)
  unfold host at asked
  simp only [answers, ends_bind, ends_get]
  apply ends_within.mpr
  change (running.executor.subject.layers).Ends running.session _ _
  cases same : running.executor.subject with
  | own model =>
      rw [same] at asked
      exact ends_within.mpr (asked _)
  | shared handle =>
      rw [same] at asked
      exact borrowed handle asked
  | training handle loss =>
      rw [same] at asked
      exact borrowed handle asked

/-- A cast through a handle changes the model behind it unless somebody holds it. -/
theorem perform_castLayer (handle : Handle) (layer : String) (dtype : DType)
    (session : Session P) :
    (Session.castLayer handle layer dtype).perform session =
      if (session.cell handle).isFree then
        (Attempt.within (Session.modelFocus handle) (P.model.castLayer layer dtype)).perform session
      else (.error .held, session) := by
  simp only [Session.castLayer, perform_bind, perform_get]
  by_cases free : (session.cell handle).isFree = true
  · simp only [free, Bool.not_true, Bool.false_eq_true, if_false, if_true]
  · simp only [free, Bool.not_false, if_true, Bool.false_eq_true, if_false]
    rfl

/-- A cast changes the model behind the executor unless somebody holds it. -/
theorem castLayer_eq_hostPart (layer : String) (dtype : DType) :
    castLayer (P := P) layer dtype = (do
      if hostFree (← get) then Attempt.within hostPart (P.model.castLayer layer dtype)
      else throw .held) := by
  apply perform_ext
  intro running
  obtain ⟨executor, session⟩ := running
  obtain ⟨subject, options, training, device, optimizer, requested, seen, warned⟩ := executor
  rw [castLayer, perform_within, Subject.castLayer, perform_bind, perform_get, perform_bind,
    perform_get]
  cases subject with
  | own model => rfl
  | shared handle =>
      simp only [subjectFocus, perform_onRest, perform_castLayer, hostFree]
      split
      · next free => simp only [free, if_true]; rfl
      · next held => simp only [held, Bool.false_eq_true, if_false]; rfl
  | training handle loss =>
      simp only [subjectFocus, perform_onRest, perform_castLayer, hostFree]
      split
      · next free => simp only [free, if_true]; rfl
      · next held => simp only [held, Bool.false_eq_true, if_false]; rfl

/-- A cast ends as the model's own does, or is refused because somebody holds the model. -/
theorem ends_castLayer_iff {layer : String} {dtype : DType} {running : Running P}
    {good : Unit → Running P → Prop} {bad : Error → Running P → Prop} :
    (castLayer layer dtype).Ends running good bad ↔
      if hostFree running then
        (P.model.castLayer layer dtype).Ends (host running, running.session.world)
          (fun value part => good value (hostPart.set part running))
          fun cause part => bad cause (hostPart.set part running)
      else bad .held running := by
  rw [castLayer_eq_hostPart, ends_bind, ends_get]
  split
  · exact ends_within
  · rfl

/-- What putting another model and another world in place leaves. -/
structure Replaces (part : P.Model × P.World) (before reached : Running P) : Prop where
  executor : reached.executor = { before.executor with subject := reached.executor.subject }
  loss : reached.executor.subject.loss? = before.executor.subject.loss?
  free : hostFree reached = hostFree before
  host : host reached = part.1
  world : reached.session.world = part.2
  devices : reached.session.devices = before.session.devices

theorem replaces_hostPart (part : P.Model × P.World) (running : Running P) :
    Replaces part running (hostPart.set part running) := by
  obtain ⟨executor, session⟩ := running
  obtain ⟨subject, options, training, device, optimizer, requested, seen, warned⟩ := executor
  have behind (handle : Handle) : ((Session.modelFocus handle).set part session).cell handle =
      { session.cell handle with model := part.1 } := by
    simp [Session.modelFocus, Session.cell]
  have free (handle : Handle) :
      (((Session.modelFocus handle).set part session).cell handle).isFree =
        (session.cell handle).isFree := by
    rw [behind]
    rfl
  cases subject with
  | own model => exact ⟨rfl, rfl, rfl, rfl, rfl, rfl⟩
  | shared handle =>
      exact ⟨rfl, rfl, free handle, congrArg ModelCell.model (behind handle), rfl, rfl⟩
  | training handle loss =>
      exact ⟨rfl, rfl, free handle, congrArg ModelCell.model (behind handle), rfl, rfl⟩

end Offload.Executor
