/-
# Reading models

A model is run, and asked for its parameters and its layers, without being changed. What may come
before that, a refresh of stale host weights, is counted but changes no model either. So reading
leaves every model what it is and as free as it was. What it does to the world is up to the
platform: any relation between worlds that the reading operations of the platform obey is obeyed
by a session, and by an executor that answers the questions of a capture.
-/

import Offload.Proofs.Executor.Telling
import Offload.Proofs.Session.Step
import Offload.Executor.Compile

namespace Offload

open Attempt

variable {P : Platform}

/-- The operations of a platform that read a model stay within a relation between worlds. -/
structure Platform.ReadsWithin (P : Platform) (rel : P.World → P.World → Prop) : Prop where
  forward : ∀ model inputs, (P.model.forward model inputs).Obeys rel
  parameters : ∀ model, (P.model.parameters model).Obeys rel
  layers : ∀ model, (P.model.layers model).Obeys rel
  refresh : ∀ hook, (P.refresh hook).Obeys rel
  copyToHost : ∀ executable, (P.copyToHost executable).Obeys rel

namespace Session

/-- The world moved within a relation, and no model was changed or held. -/
structure Unmoved (rel : P.World → P.World → Prop) (before reached : Session P) : Prop where
  world : rel before.world reached.world
  model : ∀ handle, (reached.cell handle).model = (before.cell handle).model
  free : ∀ handle, (reached.cell handle).isFree = (before.cell handle).isFree

variable {rel : P.World → P.World → Prop} [IsPreorder P.World rel]

instance : IsPreorder (Session P) (Unmoved rel) where
  refl session := ⟨refl_of rel session.world, fun _ => rfl, fun _ => rfl⟩
  trans _ _ _ first second :=
    { world := trans_of rel first.world second.world
      model := fun handle => (second.model handle).trans (first.model handle)
      free := fun handle => (second.free handle).trans (first.free handle) }

omit [IsPreorder P.World rel] in
theorem obeys_onWorld_unmoved {α : Type} {step : Attempt P.World α} (obeys : step.Obeys rel) :
    (onWorld step).Obeys (Unmoved rel) :=
  obeys_within obeys fun _ _ moved => ⟨moved, fun _ => rfl, fun _ => rfl⟩

theorem obeys_notify_unmoved (notice : Notice) : (notify (P := P) notice).Obeys (Unmoved rel) :=
  fun session => ⟨refl_of rel session.world, fun _ => rfl, fun _ => rfl⟩

theorem obeys_updateDevice_unmoved (id : DeviceId) (change : Device P → Device P) :
    (updateDevice id change).Obeys (Unmoved rel) :=
  fun session => ⟨refl_of rel session.world, fun _ => rfl, fun _ => rfl⟩

theorem obeys_borrow_unmoved (handle : Handle) : (borrow (P := P) handle).Obeys (Unmoved rel) := by
  refine obeys_bind obeys_get fun session => ?_
  dsimp only
  split
  · exact obeys_bind (obeys_throw _) fun _ => obeys_pure _
  · exact obeys_pure _

section Reads

variable (reads : P.ReadsWithin rel)

include reads

theorem obeys_forwardAsIs_unmoved (handle : Handle) (inputs : List Tree) :
    (forwardAsIs (P := P) handle inputs).Obeys (Unmoved rel) :=
  obeys_bind (obeys_borrow_unmoved handle) fun model =>
    obeys_onWorld_unmoved (reads.forward model inputs)

theorem obeys_parametersAsIs_unmoved (handle : Handle) :
    (parametersAsIs (P := P) handle).Obeys (Unmoved rel) :=
  obeys_bind (obeys_borrow_unmoved handle) fun model =>
    obeys_onWorld_unmoved (reads.parameters model)

theorem obeys_layers_unmoved (handle : Handle) :
    (layers (P := P) handle).Obeys (Unmoved rel) :=
  obeys_bind (obeys_borrow_unmoved handle) fun model => obeys_onWorld_unmoved (reads.layers model)

theorem obeys_copyToHost_unmoved (id : DeviceId) :
    (copyToHost (P := P) id).Obeys (Unmoved rel) := by
  refine obeys_bind (obeys_of_ends fun session => ends_withExecutable.mpr ?_) fun _ =>
    obeys_updateDevice_unmoved id _
  split
  · exact (obeys_onWorld_unmoved (reads.copyToHost _)).ends session
  · exact refl_of (Unmoved rel) session

/-- Refreshing host weights changes their values, not the model that holds them. -/
theorem obeys_resolve_unmoved (handle : Handle) :
    (resolve (P := P) handle).Obeys (Unmoved rel) := by
  have hooks (hook : Option (RefreshHook P)) : (runHook hook).Obeys (Unmoved rel) := by
    rcases hook with _ | ⟨id⟩ | ⟨hook⟩
    · exact obeys_pure _
    · refine obeys_bind obeys_get fun session => ?_
      split
      · exact obeys_bind (obeys_notify_unmoved _) fun _ =>
          obeys_bind (obeys_copyToHost_unmoved reads id) fun _ => obeys_pure _
      · exact obeys_pure _
    · exact obeys_onWorld_unmoved (reads.refresh hook)
  have counts : (updateCell (P := P) handle fun cell =>
      { cell with refreshes := cell.refreshes + 1 }).Obeys (Unmoved rel) := by
    refine fun session => ⟨refl_of rel session.world, fun other => ?_, fun other => ?_⟩
    all_goals
      simp only [updateCell, perform_modify, cell_update]
      split
      · next same => subst same; rfl
      · rfl
  refine obeys_bind obeys_get fun session => obeys_bind (hooks _) fun refreshed => ?_
  dsimp only
  split
  · exact obeys_bind counts fun _ => obeys_pure _
  · exact obeys_pure _

end Reads

end Session

namespace Subject

open Session

/-- The loss of a subject, if it has one, stays within a relation between worlds. -/
def LossWithin (rel : P.World → P.World → Prop) (subject : Subject P) : Prop :=
  ∀ loss ∈ subject.loss?, ∀ output target, (loss output target).Obeys rel

variable {rel : P.World → P.World → Prop} [IsPreorder P.World rel] (reads : P.ReadsWithin rel)

include reads

theorem obeys_layers_unmoved (subject : Subject P) : subject.layers.Obeys (Unmoved rel) := by
  cases subject with
  | own model => exact obeys_onWorld_unmoved (reads.layers model)
  | shared handle => exact Session.obeys_layers_unmoved reads handle
  | training handle loss => exact Session.obeys_layers_unmoved reads handle

theorem obeys_parameters_unmoved (subject : Subject P) :
    subject.parameters.Obeys (Unmoved rel) := by
  cases subject with
  | own model => exact obeys_onWorld_unmoved (reads.parameters model)
  | shared handle =>
      exact obeys_bind (obeys_resolve_unmoved reads handle) fun _ =>
        obeys_parametersAsIs_unmoved reads handle
  | training handle loss => exact obeys_parametersAsIs_unmoved reads handle

theorem obeys_forward_unmoved {subject : Subject P} (within : subject.LossWithin rel)
    (inputs : List Tree) : (subject.forward inputs).Obeys (Unmoved rel) := by
  cases subject with
  | own model => exact obeys_onWorld_unmoved (reads.forward model inputs)
  | shared handle =>
      exact obeys_bind (obeys_resolve_unmoved reads handle) fun _ =>
        obeys_forwardAsIs_unmoved reads handle inputs
  | training handle loss =>
      cases inputs with
      | nil => exact obeys_throw _
      | cons arguments others =>
          refine obeys_bind (obeys_forwardAsIs_unmoved reads handle _) fun output => ?_
          cases loss with
          | none => exact obeys_pure _
          | some loss =>
              exact obeys_bind (obeys_onWorld_unmoved (within loss rfl _ _)) fun _ =>
                obeys_pure _

end Subject

namespace Executor

open Session

/-- The executor is what it was, and in its session models were read at most. -/
structure Reads (rel : P.World → P.World → Prop) (before reached : Running P) : Prop where
  executor : reached.executor = before.executor
  session : before.executor.subject.LossWithin rel →
    Unmoved rel before.session reached.session

variable {rel : P.World → P.World → Prop} [IsPreorder P.World rel]

instance : IsPreorder (Running P) (Reads rel) where
  refl running := ⟨rfl, fun _ => refl_of (Unmoved rel) running.session⟩
  trans _ _ _ first second :=
    { executor := second.executor.trans first.executor
      session := fun within => trans_of (Unmoved rel) (first.session within)
        (second.session (first.executor ▸ within)) }

theorem obeys_notify_reads (notice : Notice) : (notify (P := P) notice).Obeys (Reads rel) := by
  have unmoved : (Session.notify (P := P) notice).Obeys (Unmoved rel) :=
    obeys_notify_unmoved notice
  exact obeys_within unmoved fun _ _ moved => ⟨rfl, fun _ => moved⟩

omit [IsPreorder P.World rel] in
theorem obeys_question_reads {α : Type} {question : Subject P → Attempt (Session P) α}
    (unmoved : ∀ subject : Subject P, subject.LossWithin rel →
      (question subject).Obeys (Unmoved rel)) :
    (do onSession (question (← get).executor.subject)).Obeys (Reads rel) :=
  fun running => ⟨rfl, fun within => unmoved _ within running.session⟩

variable (reads : P.ReadsWithin rel)

include reads

theorem obeys_layers_reads : (answers (P := P)).layers.Obeys (Reads rel) :=
  obeys_question_reads fun subject _ => subject.obeys_layers_unmoved reads

theorem obeys_parameters_reads : (answers (P := P)).parameters.Obeys (Reads rel) :=
  obeys_question_reads fun subject _ => subject.obeys_parameters_unmoved reads

theorem obeys_forward_reads (inputs : List Tree) :
    ((answers (P := P)).forward inputs).Obeys (Reads rel) :=
  obeys_question_reads fun _ within => Subject.obeys_forward_unmoved reads within inputs

end Executor

end Offload
