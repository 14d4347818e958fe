/-
# Steps that leave models alone

Only a cast changes the model behind a handle, and only capturing a model by running it casts. All
other steps of a session are calm: they leave every model what it is and as free as it was, and
the journal shows neither a capture by running nor a cast that was refused. The steps of an
executor are still in the same sense, so they need not be followed one by one when the types of a
model are at stake.
-/

import Offload.Proofs.Executor.Compiling
import Offload.Proofs.Session.Reading

namespace Offload

/-- What a journal shows of the way of a capture by running. -/
inductive Milestone where
  /-- The promotion was over, and the model was captured. -/
  | traced
  /-- A layer could not be cast to full precision. -/
  | refused (layer : String)
  deriving DecidableEq

/-- The milestone that an entry is, if it is one. -/
def Entry.milestone? (entry : Entry) : Option Milestone :=
  match entry.operation, entry.succeeded with
  | .trace _, _ => some .traced
  | .castLayer layer .f32, false => some (.refused layer)
  | _, _ => none

/-- A cast that succeeded is no milestone. -/
@[simp]
theorem Entry.milestone?_cast (layer : String) (dtype : DType) (demanded : Bool) :
    Entry.milestone? ⟨.castLayer layer dtype, true, demanded⟩ = none := by
  cases dtype <;> rfl

open Attempt

namespace Session

variable {P : Platform}

/-- No model was changed or held, and no milestone passed. -/
structure Calm (before reached : Session P.journaled) : Prop where
  journal : Journaled.Grows (fun entry => entry.milestone? = none) before.world reached.world
  model : ∀ handle, (reached.cell handle).model = (before.cell handle).model
  free : ∀ handle, (reached.cell handle).isFree = (before.cell handle).isFree

instance : IsPreorder (Session P.journaled) Calm where
  refl session := ⟨refl_of _ session.world, fun _ => rfl, fun _ => rfl⟩
  trans _ _ _ first second :=
    { journal := trans_of (Journaled.Grows _) first.journal second.journal
      model := fun handle => (second.model handle).trans (first.model handle)
      free := fun handle => (second.free handle).trans (first.free handle) }

/-- A step of the platform leaves the models alone. -/
theorem obeys_onWorld_calm {α : Type} {step : Attempt (Journaled P.World) α}
    (grows : step.Obeys (Journaled.Grows fun entry => entry.milestone? = none)) :
    (onWorld (P := P.journaled) step).Obeys Calm :=
  obeys_within grows fun _ _ grown => ⟨grown, fun _ => rfl, fun _ => rfl⟩

theorem obeys_noting_calm {α : Type} {operation : Operation} (step : Attempt P.World α)
    (plain : ∀ succeeded demanded, (⟨operation, succeeded, demanded⟩ : Entry).milestone? = none) :
    (onWorld (P := P.journaled) (Journaled.noting operation step)).Obeys Calm :=
  obeys_onWorld_calm (Journaled.obeys_noting step plain)

/-- The operations of a platform that read a model pass no milestone. -/
theorem reads_calmly (P : Platform) :
    P.journaled.ReadsWithin (Journaled.Grows fun entry => entry.milestone? = none) where
  forward _ _ := Journaled.obeys_noting _ fun _ _ => rfl
  parameters _ := Journaled.obeys_noting _ fun _ _ => rfl
  layers _ := Journaled.obeys_noting _ fun _ _ => rfl
  refresh _ := Journaled.obeys_noting _ fun _ _ => rfl
  copyToHost _ := Journaled.obeys_noting _ fun _ _ => rfl

theorem Unmoved.calm {before reached : Session P.journaled}
    (unmoved : Unmoved (Journaled.Grows fun entry => entry.milestone? = none) before reached) :
    Calm before reached :=
  ⟨unmoved.world, unmoved.model, unmoved.free⟩

theorem obeys_updateDevice_calm (id : DeviceId) (change : Device P.journaled → Device P.journaled) :
    (updateDevice id change).Obeys Calm :=
  fun session => ⟨refl_of _ session.world, fun _ => rfl, fun _ => rfl⟩

theorem obeys_withExecutable_calm {α : Type} (id : DeviceId)
    {use : Tagged P.Executable → Attempt (Journaled P.World) α}
    (uses : ∀ executable, (onWorld (P := P.journaled) (use executable)).Obeys Calm) :
    (withExecutable (P := P.journaled) id use).Obeys Calm := by
  refine obeys_of_ends fun session => ends_withExecutable.mpr ?_
  split
  · exact (uses _).ends session
  · exact refl_of Calm session

theorem obeys_copyToDevice_calm (id : DeviceId) : (copyToDevice (P := P.journaled) id).Obeys Calm :=
  obeys_bind (obeys_withExecutable_calm id fun _ => obeys_noting_calm _ fun _ _ => rfl) fun _ =>
    obeys_updateDevice_calm id _

theorem obeys_resolve_calm (handle : Handle) : (resolve (P := P.journaled) handle).Obeys Calm :=
  (obeys_resolve_unmoved (reads_calmly P) handle).mono fun _ _ => Unmoved.calm

end Session

namespace Subject

variable {P : Platform}

open Session

/-- A loss writes nothing. -/
theorem lossWithin_calm (subject : Subject P) :
    subject.journaled.LossWithin (Journaled.Grows fun entry => entry.milestone? = none) := by
  intro loss there output target state
  cases subject with
  | own model => exact nomatch there
  | shared handle => exact nomatch there
  | training handle loss =>
      obtain ⟨plain, -, rfl⟩ := Option.map_eq_some_iff.mp there
      exact ⟨rfl, [], (List.append_nil _).symm, by simp⟩

theorem obeys_layers_calm (subject : Subject P) : subject.journaled.layers.Obeys Calm :=
  (obeys_layers_unmoved (reads_calmly P) _).mono fun _ _ => Unmoved.calm

theorem obeys_parameters_calm (subject : Subject P) : subject.journaled.parameters.Obeys Calm :=
  (obeys_parameters_unmoved (reads_calmly P) _).mono fun _ _ => Unmoved.calm

theorem obeys_forward_calm (subject : Subject P) (inputs : List Tree) :
    (subject.journaled.forward inputs).Obeys Calm :=
  (obeys_forward_unmoved (reads_calmly P) subject.lossWithin_calm inputs).mono
    fun _ _ => Unmoved.calm

end Subject

namespace Executor

open Session

variable {P : Platform}

/-- The executor works on what it worked on, and its session is calm. -/
structure Still (before reached : Running P.journaled) : Prop where
  device : reached.executor.device = before.executor.device
  subject : reached.executor.subject = before.executor.subject
  calm : before.executor.subject.IsJournaled → Calm before.session reached.session

instance : IsPreorder (Running P.journaled) Still where
  refl running := ⟨rfl, rfl, fun _ => refl_of Calm running.session⟩
  trans _ _ _ first second :=
    { device := second.device.trans first.device
      subject := second.subject.trans first.subject
      calm := fun journaled => trans_of Calm (first.calm journaled)
        (second.calm (first.subject ▸ journaled)) }

theorem Tells.still {before reached : Running P.journaled} (tells : Tells before reached) :
    Still before reached := by
  obtain ⟨notices, warned, rfl⟩ := tells
  exact ⟨rfl, rfl, fun _ => ⟨refl_of _ before.session.world, fun _ => rfl, fun _ => rfl⟩⟩

theorem obeys_onSession_still {α : Type} {step : Attempt (Session P.journaled) α}
    (calm : step.Obeys Calm) : (onSession step).Obeys Still :=
  obeys_within calm fun _ _ calm => ⟨rfl, rfl, fun _ => calm⟩

theorem obeys_onWorld_still {α : Type} {step : Attempt (Journaled P.World) α}
    (grows : step.Obeys (Journaled.Grows fun entry => entry.milestone? = none)) :
    (onWorld (P := P.journaled) step).Obeys Still :=
  obeys_within grows fun _ _ grown => ⟨rfl, rfl, fun _ => ⟨grown, fun _ => rfl, fun _ => rfl⟩⟩

theorem obeys_question_still {α : Type}
    {question : Subject P.journaled → Attempt (Session P.journaled) α}
    (calm : ∀ subject : Subject P, (question subject.journaled).Obeys Calm) :
    (do onSession (question (← get).executor.subject)).Obeys Still := by
  refine fun running => ⟨rfl, rfl, ?_⟩
  intro journaled
  obtain ⟨plain, same⟩ := journaled
  have asked := calm plain running.session
  rw [← same] at asked
  exact asked

theorem obeys_noteRefreshes_still : (noteRefreshes (P := P.journaled)).Obeys Still := by
  refine obeys_bind obeys_get fun running => ?_
  split
  · exact fun state => ⟨rfl, rfl, fun _ => refl_of Calm state.session⟩
  · exact obeys_pure _

section Capture

/-- What a capture asks leaves the model alone; in the end it writes its entry. -/
theorem capture_still (operation : Operation) (dialogue : Capture P.World P.Graph)
    (running : Running P.journaled) :
    ∃ middle succeeded, Still running middle ∧
      ((capture (P := P.journaled) (dialogue.journaled operation)).perform running).2 =
        worldFocus.set ((worldFocus.get middle).write operation succeeded) middle :=
  dialogue.writes_journaled (obeys_question_still Subject.obeys_layers_calm)
    (obeys_question_still Subject.obeys_parameters_calm)
    (fun inputs => obeys_question_still fun subject => subject.obeys_forward_calm inputs)
    (fun _ _ => ⟨rfl, rfl, fun _ =>
      ⟨⟨rfl, [], (List.append_nil _).symm, by simp⟩, fun _ => rfl, fun _ => rfl⟩⟩)
    running

/-- Work on a captured graph leaves the model alone. -/
theorem obeys_onGraph_still {operation : Operation} (step : Attempt (P.Graph × P.World) Unit)
    (plain : ∀ succeeded demanded, (⟨operation, succeeded, demanded⟩ : Entry).milestone? = none) :
    (onGraph (P := P.journaled) (Journaled.notingBeside operation step)).Obeys (OnRest Still) :=
  obeys_within (Journaled.obeys_notingBeside step plain) fun _ _ grown =>
    ⟨rfl, rfl, fun _ => ⟨grown, fun _ => rfl, fun _ => rfl⟩⟩

theorem mild_still : Mild (P := P.journaled) Still where
  device still := still.device
  tells := Tells.still
  layers := obeys_question_still Subject.obeys_layers_calm
  script running := by
    obtain ⟨middle, succeeded, still, ended⟩ := capture_still .script P.script running
    rw [ended]
    have writes : Still middle
        (worldFocus.set ((worldFocus.get middle).write .script succeeded) middle) :=
      ⟨rfl, rfl, fun _ => ⟨Journaled.grows_asked middle.session.world.world _ rfl, fun _ => rfl,
        fun _ => rfl⟩⟩
    exact trans_of Still still writes
  inferInput _ _ := obeys_onGraph_still _ fun _ _ => rfl
  castGraph _ _ := obeys_onGraph_still _ fun _ _ => rfl

/-- Compiling a graph leaves the model alone. -/
theorem obeys_compile_still
    {compile : P.Graph → CompileRequest → Attempt (Journaled P.World) (Tagged P.Executable)}
    (either : compile = P.journaled.compileTraced ∨ compile = P.journaled.compileScripted)
    (graph : P.Graph) (request : CompileRequest) :
    (onWorld (P := P.journaled) (compile graph request)).Obeys Still := by
  have grows (step : Attempt P.World P.Executable) : (Journaled.compiling request step).Obeys
      (Journaled.Grows fun entry => entry.milestone? = none) := by
    refine obeys_of_ends fun state => (Journaled.ends_compiling request step state).mono ?_ ?_
    · rintro _ _ ⟨-, world, -, rfl⟩
      exact Journaled.grows_asked world state rfl
    · rintro _ _ ⟨_, world, -, rfl⟩
      exact Journaled.grows_asked world state rfl
  rcases either with rfl | rfl
  · exact obeys_onWorld_still (grows _)
  · exact obeys_onWorld_still (grows _)

theorem HandsOver.still {before reached : Running P.journaled}
    {outcome : Result (Tagged P.Executable)}
    (handed : HandsOver (P := P.journaled) before outcome reached) : Still before reached := by
  obtain ⟨compile, graph, request, either, -, -, ended⟩ := handed
  have still := obeys_compile_still (P := P) either graph request before
  rwa [ended] at still

theorem obeys_compileByScripting_still (options : OptionTable) (views : Views) :
    (compileByScripting (P := P.journaled) options views).Obeys Still := by
  refine obeys_of_ends fun running =>
    (compileByScripting_handed mild_still.lenient (.refl _) options views (mild_still.scripts views)
      running).mono ?_ ?_
  · rintro executable reached ⟨before, still, -, hands⟩
    exact trans_of Still still hands.handsOver.still
  · rintro cause reached (still | ⟨before, still, hands⟩)
    · exact still
    · exact trans_of Still still hands.handsOver.still

end Capture

section Call

theorem obeys_followModel_still : (followModel (P := P.journaled)).Obeys Still := by
  refine obeys_bind obeys_get fun running => ?_
  split
  · exact obeys_pure _
  · refine obeys_bind (obeys_onSession_still (obeys_resolve_calm _)) fun _ =>
      obeys_bind obeys_get fun resolved => ?_
    split
    · apply obeys_bind ((obeys_notify _).mono fun _ _ => Tells.still)
      intro _
      refine obeys_bind (obeys_bind obeys_get fun _ => ?_) fun _ => obeys_noteRefreshes_still
      exact obeys_onSession_still (obeys_copyToDevice_calm _)
    · exact obeys_pure _

theorem obeys_sendModified_still : (sendModified (P := P.journaled)).Obeys Still := by
  refine obeys_bind obeys_get fun running => ?_
  split
  · apply obeys_bind ((obeys_notify _).mono fun _ _ => Tells.still)
    intro _
    exact obeys_bind obeys_get fun _ => obeys_onSession_still (obeys_copyToDevice_calm _)
  · exact obeys_pure _

theorem obeys_execute_still (inputs : List Value) :
    (execute (P := P.journaled) inputs).Obeys Still := by
  refine obeys_bind obeys_get fun running => ?_
  dsimp only
  apply obeys_bind (obeys_onSession_still (obeys_withExecutable_calm _ fun _ =>
    obeys_noting_calm _ fun _ _ => rfl))
  intro results
  refine obeys_bind (fun state => ⟨rfl, rfl, fun _ => refl_of Calm state.session⟩) fun _ => ?_
  split
  · exact obeys_bind (obeys_onSession_still (obeys_updateDevice_calm _ _)) fun _ => obeys_pure _
  · exact obeys_pure _

end Call

end Executor

end Offload
