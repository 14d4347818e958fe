/-
# What a call does once its arguments are bound

After binding, a call is made of steps of the platform, of notices, and of changes to devices,
models and the executor itself. `Session.Endures` lists what a verdict on sessions has to put up
with on this way: steps of the platform on dense inputs, notices other than the warning of strided
inputs, and the causes for which the library itself refuses. Whatever such a verdict is, the whole
rest of a call and of a compilation abides by it; and meanwhile the executor keeps its role: its
options, its device, its loss, and whether it warned.

The loss of a subject is not part of the platform, so what it does is a condition on the subject.
The induction on a capture is left to the verdicts, since only they know what a dialogue passes on.
-/

import Offload.Proofs.Executor.Compiling
import Offload.Proofs.Inputs.Dense

namespace Offload

open Attempt

namespace Session

variable {P : Platform}

/-- The world as a part of the session with something beside it. -/
def focusBeside {τ : Type} : Focus (τ × Session P) (τ × P.World) where
  get state := (state.1, state.2.world)
  set part state := (part.1, { state.2 with world := part.2 })

/-- The library refuses something for this cause after the arguments were bound. -/
inductive Refuses : Error → Prop where
  | heldForWriting : Refuses .heldForWriting
  | held : Refuses .held
  | notCompiled : Refuses .notCompiled
  | missing : Refuses (.missingArgument "args")

/-- Whatever is done on the way of a call abides by the verdict. -/
structure Endures (verdict : Verdict (Session P)) : Prop where
  tells : ∀ session notice, notice ≠ .stridedInput →
    verdict.good session { session with notices := session.notices ++ [notice] }
  refuses : ∀ session cause, Refuses cause → verdict.bad session cause session
  devices : ∀ session devices, verdict.good session { session with devices := devices }
  models : ∀ session models, verdict.good session { session with models := models }
  forward : ∀ model inputs, (onWorld (P.model.forward model inputs)).Abides verdict
  parameters : ∀ model, (onWorld (P.model.parameters model)).Abides verdict
  layers : ∀ model, (onWorld (P.model.layers model)).Abides verdict
  castLayer : ∀ layer dtype,
    (within focusBeside (P.model.castLayer layer dtype)).Abides verdict.onRest
  inferInput : ∀ position (sample : Tensor), sample.isContiguous = true →
    (within focusBeside (P.inferInput position sample)).Abides verdict.onRest
  castGraphLayer : ∀ layer dtype,
    (within focusBeside (P.castGraphLayer layer dtype)).Abides verdict.onRest
  compileTraced : ∀ graph (request : CompileRequest), AllDense request.inputs →
    (onWorld (P.compileTraced graph request)).Abides verdict
  compileScripted : ∀ graph (request : CompileRequest), AllDense request.inputs →
    (onWorld (P.compileScripted graph request)).Abides verdict
  execute : ∀ executable inputs optimizer, AllDense inputs →
    (onWorld (P.execute executable inputs optimizer)).Abides verdict
  copyToHost : ∀ executable, (onWorld (P.copyToHost executable)).Abides verdict
  copyToDevice : ∀ executable, (onWorld (P.copyToDevice executable)).Abides verdict
  refresh : ∀ hook, (onWorld (P.refresh hook)).Abides verdict

namespace Endures

variable {verdict : Verdict (Session P)}

theorem notify (endures : Endures verdict) {notice : Notice} (quiet : notice ≠ .stridedInput) :
    (Session.notify (P := P) notice).Abides verdict :=
  fun session => endures.tells session notice quiet

theorem updateDevice (endures : Endures verdict) (id : DeviceId) (change : Device P → Device P) :
    (Session.updateDevice id change).Abides verdict :=
  fun session => endures.devices session _

theorem updateCell (endures : Endures verdict) (handle : Handle)
    (change : ModelCell P → ModelCell P) : (Session.updateCell handle change).Abides verdict :=
  fun session => endures.models session _

theorem withExecutable {α : Type} (endures : Endures verdict) (id : DeviceId)
    {use : P.Executable → Attempt P.World α}
    (uses : ∀ executable, (onWorld (use executable)).Abides verdict) :
    (Session.withExecutable id use).Abides verdict := by
  refine abides_bind abides_get fun session => ?_
  split
  · exact uses _
  · exact abides_throw fun session => endures.refuses session _ .notCompiled

theorem sendWeights (endures : Endures verdict) (id : DeviceId) :
    (Session.copyToDevice (P := P) id).Abides verdict :=
  abides_bind (endures.withExecutable id endures.copyToDevice) fun _ => endures.updateDevice id _

theorem fetchWeights (endures : Endures verdict) (id : DeviceId) :
    (Session.copyToHost (P := P) id).Abides verdict :=
  abides_bind (endures.withExecutable id endures.copyToHost) fun _ => endures.updateDevice id _

theorem resolve (endures : Endures verdict) (handle : Handle) :
    (Session.resolve (P := P) handle).Abides verdict := by
  have hooks (hook : Option (RefreshHook P)) : (runHook hook).Abides verdict := by
    rcases hook with _ | ⟨id⟩ | ⟨hook⟩
    · exact abides_pure _
    · refine abides_bind abides_get fun session => ?_
      split
      · exact abides_bind (endures.notify nofun) fun _ =>
          abides_bind (endures.fetchWeights id) fun _ => abides_pure _
      · exact abides_pure _
    · exact endures.refresh hook
  refine abides_bind abides_get fun session => abides_bind (hooks _) fun refreshed => ?_
  dsimp only
  split
  · exact abides_bind (endures.updateCell handle _) fun _ => abides_pure _
  · exact abides_pure _

theorem borrow (endures : Endures verdict) (handle : Handle) :
    (Session.borrow (P := P) handle).Abides verdict := by
  refine abides_bind abides_get fun session => ?_
  dsimp only
  split
  · exact abides_bind (abides_throw fun session => endures.refuses session _ .heldForWriting)
      fun _ => abides_pure _
  · exact abides_pure _

theorem forwardAsIs (endures : Endures verdict) (handle : Handle) (inputs : List Tree) :
    (Session.forwardAsIs (P := P) handle inputs).Abides verdict :=
  abides_bind (endures.borrow handle) fun model => endures.forward model inputs

theorem parametersAsIs (endures : Endures verdict) (handle : Handle) :
    (Session.parametersAsIs (P := P) handle).Abides verdict :=
  abides_bind (endures.borrow handle) fun model => endures.parameters model

theorem layersOf (endures : Endures verdict) (handle : Handle) :
    (Session.layers (P := P) handle).Abides verdict :=
  abides_bind (endures.borrow handle) fun model => endures.layers model

/-- A cast of a shared model changes the models, the world, and nothing else. -/
theorem castShared (endures : Endures verdict) (handle : Handle) (layer : String) (dtype : DType) :
    (Session.castLayer (P := P) handle layer dtype).Abides verdict := by
  have casts : (within (modelFocus handle) (P.model.castLayer layer dtype)).Abides verdict := by
    intro session
    have cast := endures.castLayer layer dtype ((session.cell handle).model, session)
    rw [ends_within] at cast ⊢
    refine cast.mono (fun _ part good => ?_) fun cause part bad => ?_
    · exact verdict.trans good (endures.models _ _)
    · exact verdict.early bad (endures.models _ _)
  refine abides_bind abides_get fun session => ?_
  dsimp only
  split
  · exact abides_bind (abides_throw fun session => endures.refuses session _ .held) fun _ => casts
  · exact casts

end Endures

end Session

namespace Subject

variable {P : Platform} {verdict : Verdict (Session P)}

/-- The loss of the subject, if it has one, abides by the verdict. -/
def Endures (verdict : Verdict (Session P)) (subject : Subject P) : Prop :=
  ∀ loss, subject.loss? = some loss →
    ∀ output target, (Session.onWorld (loss output target)).Abides verdict

variable (endures : Session.Endures verdict)

include endures

theorem abides_layers_of_endures (subject : Subject P) : subject.layers.Abides verdict := by
  cases subject with
  | own model => exact endures.layers model
  | shared handle => exact endures.layersOf handle
  | training handle loss => exact endures.layersOf handle

theorem abides_parameters_of_endures (subject : Subject P) : subject.parameters.Abides verdict := by
  cases subject with
  | own model => exact endures.parameters model
  | shared handle =>
      exact abides_bind (endures.resolve handle) fun _ => endures.parametersAsIs handle
  | training handle loss => exact endures.parametersAsIs handle

theorem abides_forward_of_endures {subject : Subject P} (fit : subject.Endures verdict) (inputs : List Tree) :
    (subject.forward inputs).Abides verdict := by
  cases subject with
  | own model => exact endures.forward model inputs
  | shared handle =>
      exact abides_bind (endures.resolve handle) fun _ => endures.forwardAsIs handle inputs
  | training handle loss =>
      unfold forward trainingForward
      cases inputs with
      | nil => exact abides_throw fun session => endures.refuses session _ .missing
      | cons arguments others =>
          refine abides_bind (endures.forwardAsIs handle _) fun output => ?_
          cases loss with
          | none => exact abides_pure _
          | some loss => exact abides_bind (fit loss rfl _ _) fun _ => abides_pure _

/-- A cast keeps the loss of the subject. -/
theorem ends_castLayer_of_endures (layer : String) (dtype : DType) (subject : Subject P)
    (session : Session P) :
    (castLayer layer dtype).Ends (subject, session)
      (fun _ reached => reached.1.loss? = subject.loss? ∧ verdict.good session reached.2)
      fun cause reached => reached.1.loss? = subject.loss? ∧ verdict.bad session cause reached.2 := by
  rw [castLayer, ends_bind, ends_get]
  cases subject with
  | own model =>
      have cast := endures.castLayer layer dtype (model, session)
      rw [ends_within] at cast ⊢
      exact cast.mono (fun _ _ good => ⟨rfl, good⟩) fun _ _ bad => ⟨rfl, bad⟩
  | shared handle =>
      dsimp only
      rw [onRest, ends_within]
      exact (endures.castShared handle layer dtype session).mono (fun _ _ good => ⟨rfl, good⟩)
        fun _ _ bad => ⟨rfl, bad⟩
  | training handle loss =>
      dsimp only
      rw [onRest, ends_within]
      exact (endures.castShared handle layer dtype session).mono (fun _ _ good => ⟨rfl, good⟩)
        fun _ _ bad => ⟨rfl, bad⟩

end Subject

namespace Executor

variable {P : Platform}

/-- The executor is in the role it was in. -/
structure KeepsRole (before reached : Executor P) : Prop where
  options : reached.options = before.options
  training : reached.training = before.training
  device : reached.device = before.device
  loss : reached.subject.loss? = before.subject.loss?
  warned : reached.warned = before.warned

theorem KeepsRole.refl (executor : Executor P) : KeepsRole executor executor :=
  ⟨rfl, rfl, rfl, rfl, rfl⟩

theorem KeepsRole.trans {first second third : Executor P} (kept : KeepsRole first second)
    (kept' : KeepsRole second third) : KeepsRole first third :=
  ⟨kept'.options.trans kept.options, kept'.training.trans kept.training,
    kept'.device.trans kept.device, kept'.loss.trans kept.loss, kept'.warned.trans kept.warned⟩

theorem KeepsRole.endures {before reached : Executor P} {verdict : Verdict (Session P)}
    (kept : KeepsRole before reached) :
    reached.subject.Endures verdict ↔ before.subject.Endures verdict := by
  rw [Subject.Endures, Subject.Endures, kept.loss]

/-- The executor keeps its role, and its session abides by a verdict if its loss does. -/
def working (verdict : Verdict (Session P)) : Verdict (Running P) where
  good first second := KeepsRole first.executor second.executor ∧
    (first.executor.subject.Endures verdict → verdict.good first.session second.session)
  bad first cause second := KeepsRole first.executor second.executor ∧
    (first.executor.subject.Endures verdict → verdict.bad first.session cause second.session)
  refl _ := ⟨.refl _, fun _ => verdict.refl _⟩
  trans good good' := ⟨good.1.trans good'.1, fun fit =>
    verdict.trans (good.2 fit) (good'.2 (good.1.endures.mpr fit))⟩
  late good bad := ⟨good.1.trans bad.1, fun fit =>
    verdict.late (good.2 fit) (bad.2 (good.1.endures.mpr fit))⟩
  early bad good := ⟨bad.1.trans good.1, fun fit =>
    verdict.early (bad.2 fit) (good.2 (bad.1.endures.mpr fit))⟩
  good_of_bad bad := ⟨bad.1, fun fit => verdict.good_of_bad (bad.2 fit)⟩

variable {verdict : Verdict (Session P)}

theorem abides_onSession_working {α : Type} {step : Attempt (Session P) α} (abides : step.Abides verdict) :
    (onSession step).Abides (working verdict) :=
  abides_within abides (fun _ _ good => ⟨.refl _, fun _ => good⟩)
    fun _ _ _ bad => ⟨.refl _, fun _ => bad⟩

theorem abides_onWorld_working {α : Type} {step : Attempt P.World α}
    (abides : (Session.onWorld step).Abides verdict) : (onWorld step).Abides (working verdict) := by
  intro running
  have ended := abides running.session
  rw [Session.onWorld, ends_within] at ended
  rw [onWorld, ends_within]
  exact ended.mono (fun _ _ good => ⟨.refl _, fun _ => good⟩) fun _ _ bad => ⟨.refl _, fun _ => bad⟩

/-- A question to the subject abides if it abides for every subject whose loss does. -/
theorem abides_question_working {α : Type} {question : Subject P → Attempt (Session P) α}
    (abides : ∀ subject : Subject P, subject.Endures verdict → (question subject).Abides verdict) :
    (do onSession (question (← get).executor.subject)).Abides (working verdict) := by
  intro running
  rw [ends_bind, ends_get, onSession, ends_within]
  unfold Ends
  split <;> rename_i ended
  · exact ⟨.refl _, fun fit => (abides _ fit running.session).ok ended⟩
  · exact ⟨.refl _, fun fit => (abides _ fit running.session).error ended⟩

theorem abides_update_working {change : Executor P → Executor P}
    (keeps : ∀ executor, KeepsRole executor (change executor)) :
    (update change).Abides (working verdict) :=
  fun running => ⟨keeps running.executor, fun _ => verdict.refl running.session⟩

theorem abides_noteRefreshes_working : (noteRefreshes (P := P)).Abides (working verdict) := by
  refine abides_bind abides_get fun running => ?_
  split
  · exact abides_update_working fun _ => ⟨rfl, rfl, rfl, rfl, rfl⟩
  · exact abides_pure _

/-- What is done beside the world on a captured graph, or on a sample of its inputs. -/
theorem abides_onGraph_working {step : Attempt (P.Graph × P.World) Unit}
    (abides : (within Session.focusBeside step).Abides verdict.onRest) :
    (onGraph step).Abides (working verdict).onRest := by
  intro state
  have ended := abides (state.1, state.2.session)
  rw [ends_within] at ended
  rw [onGraph, ends_within]
  exact ended.mono (fun _ _ good => ⟨.refl _, fun _ => good⟩) fun _ _ bad => ⟨.refl _, fun _ => bad⟩

/-- Captures of dense inputs abide by the verdict as well. -/
structure Endures (verdict : Verdict (Session P)) : Prop extends Session.Endures verdict where
  trace : ∀ inputs, AllDense (Tree.leavesOfItems inputs) →
    (capture (P.trace inputs)).Abides (working verdict)
  script : (capture P.script).Abides (working verdict)

section Questions

variable (endures : Session.Endures verdict)

include endures

theorem abides_notify_working {notice : Notice} (quiet : notice ≠ .stridedInput) :
    (notify notice).Abides (working verdict) :=
  abides_onSession_working (endures.notify quiet)

theorem abides_answers_layers_working : (answers (P := P)).layers.Abides (working verdict) :=
  abides_question_working fun subject _ => subject.abides_layers_of_endures endures

theorem abides_answers_parameters_working : (answers (P := P)).parameters.Abides (working verdict) :=
  abides_question_working fun subject _ => subject.abides_parameters_of_endures endures

theorem abides_answers_forward_working (inputs : List Tree) :
    ((answers (P := P)).forward inputs).Abides (working verdict) :=
  abides_question_working fun _ fit => Subject.abides_forward_of_endures endures fit inputs

theorem abides_castLayer_working (layer : String) (dtype : DType) :
    (castLayer (P := P) layer dtype).Abides (working verdict) := by
  intro running
  rw [castLayer, ends_within]
  exact (Subject.ends_castLayer_of_endures endures layer dtype _ _).mono
    (fun _ _ ended => ⟨⟨rfl, rfl, rfl, ended.1, rfl⟩, fun _ => ended.2⟩)
    fun _ _ ended => ⟨⟨rfl, rfl, rfl, ended.1, rfl⟩, fun _ => ended.2⟩

theorem abides_copyToDevice_working : (copyToDevice (P := P)).Abides (working verdict) :=
  abides_bind abides_get fun _ => abides_onSession_working (endures.sendWeights _)

end Questions

/-- A tensor that is an argument on its own is a leaf. -/
theorem mem_leaves_of_sample {arguments : List Tree} {sample : Tensor}
    (there : some sample ∈ arguments.map Tree.tensor?) :
    .tensor sample ∈ Tree.leavesOfItems arguments := by
  induction arguments with
  | nil => cases there
  | cons argument others ih =>
      rw [Tree.leavesOfItems, List.mem_append]
      rcases List.mem_cons.mp there with here | later
      · left
        cases argument with
        | leaf value =>
            cases value with
            | tensor tensor =>
                obtain rfl := Option.some.inj here
                exact List.mem_singleton_self _
            | _ => cases here
        | _ => cases here
      · exact .inr (ih later)

/-- Handing a graph over with dense inputs. -/
theorem abides_handOver_working
    {compile : P.Graph → CompileRequest → Attempt P.World P.Executable}
    (compiles : ∀ graph (request : CompileRequest), AllDense request.inputs →
      (Session.onWorld (compile graph request)).Abides verdict)
    (options : OptionTable) (graph : P.Graph) {inputs : Binding} (dense : AllDense inputs.leaves) :
    (do onWorld (compile graph (← request options inputs))).Abides (working verdict) := by
  intro running
  simp only [request, ends_bind, ends_get, ends_pure]
  exact abides_onWorld_working (compiles graph _ dense) running

section Compile

variable (endures : Endures verdict)

include endures

/-- Telling a graph its inputs abides if all of them are dense. -/
theorem abides_annotateInputs_working (count : Nat) :
    ∀ (samples : List (Option Tensor)) (position : Nat),
      (∀ sample, some sample ∈ samples → sample.isContiguous = true) →
        (onGraph (P.annotateInputs count position samples)).Abides (working verdict).onRest
  | [], _, _ => by
      rw [Platform.annotateInputs, onGraph, within_pure graphFocus_lawful]
      exact abides_pure _
  | none :: later, position, dense =>
      abides_annotateInputs_working count later (position + 1) fun sample there =>
        dense sample (List.mem_cons_of_mem _ there)
  | some sample :: later, position, dense => by
      have rest := abides_annotateInputs_working count later (position + 1) fun sample there =>
        dense sample (List.mem_cons_of_mem _ there)
      rw [Platform.annotateInputs]
      split
      · rw [onGraph, within_bind graphFocus_lawful]
        exact abides_bind
          (abides_onGraph_working (endures.inferInput position sample (dense sample List.mem_cons_self)))
          fun _ => rest
      · exact rest

/-- Capturing the subject by running it on dense inputs, and compiling the graph for them. -/
theorem abides_compileByTracing_working (options : OptionTable) {views : Views}
    (narrowed : AllDense views.narrowed.leaves) (promoted : AllDense views.promoted.leaves) :
    (compileByTracing (P := P) options views).Abides (working verdict) := by
  have base := endures.toEndures
  refine abides_bind (abides_notify_working base nofun) fun _ => ?_
  refine abides_bind (abides_withOwn (Promotion.abides_promoteModel
    (abides_answers_layers_working base) (abides_castLayer_working base) fun _ _ =>
      abides_notify_working base nofun)) fun ⟨_, promotion⟩ => ?_
  intro running
  refine ends_bind_observe (endures.trace _ promoted) ((working verdict).refl running)
    fun outcome captured _ within failing => ?_
  rw [ends_bind]
  refine (Promotion.abides_restore (abides_castLayer_working base) promotion captured).mono
    (fun _ restored kept => ?_) fun _ _ failed => (working verdict).late within failed
  rw [ends_bind]
  refine ends_ofResult (fun graph _ => ?_) fun cause same =>
    (working verdict).early (failing cause same) kept
  refine ends_bind_of_abides (abides_withOwn (Promotion.abides_restore
    (fun layer dtype => abides_onGraph_working (endures.castGraphLayer layer dtype)) promotion))
    ((working verdict).trans within kept) (fun ⟨_, graph⟩ cast within => ?_) fun _ _ => id
  have dense : AllDense (if promotion.anyInput then views.narrowed else views.promoted).leaves := by
    split
    · exact narrowed
    · exact promoted
  exact (abides_handOver_working endures.compileTraced options graph dense cast).mono
    (fun _ _ => (working verdict).trans within) fun _ _ => (working verdict).late within

/-- Capturing the subject from its definition, and compiling the graph for dense inputs. -/
theorem abides_compileByScripting_working (options : OptionTable) {views : Views}
    (promoted : AllDense views.promoted.leaves) :
    (compileByScripting (P := P) options views).Abides (working verdict) := by
  have base := endures.toEndures
  refine abides_bind (abides_notify_working base nofun) fun _ => ?_
  refine abides_bind endures.script fun graph => ?_
  refine abides_bind (abides_withOwn (abides_annotateInputs_working endures _ _ _
    fun sample there => ?_)) fun ⟨_, graph⟩ => ?_
  · exact Value.isStrided_tensor_eq_false.mp (promoted _ (mem_leaves_of_sample there))
  · exact abides_handOver_working endures.compileScripted options graph promoted

/-- Compiling for a dense binding: what does not suit the options is the only failure that the
verdict does not know. -/
theorem ends_compileBinding_working {binding : Binding} (dense : AllDense binding.leaves)
    (running : Running P) :
    (compileBinding binding).Ends running
      (fun _ reached => (working verdict).good running reached)
      fun cause reached => draft running.executor.options binding = .error cause ∧
        (working verdict).good running reached ∨ (working verdict).bad running cause reached := by
  have base := endures.toEndures
  have installs {step : Attempt (Running P) P.Executable} (abides : step.Abides (working verdict)) :
      (do
        let executable ← step
        onSession (Session.setExecutable running.executor.device executable)
        noteRefreshes).Abides (working verdict) :=
    abides_bind abides fun _ => abides_bind (abides_onSession_working (base.updateDevice _ _))
      fun _ => abides_noteRefreshes_working
  unfold compileBinding
  rw [ends_bind, ends_get, ends_bind]
  refine ends_ofResult (fun table flat => ?_) fun cause flat =>
    .inl ⟨by rw [draft, flat]; rfl, (working verdict).refl running⟩
  rw [ends_bind, ends_notify_iff, ends_bind]
  have within : (working verdict).good running { running with
      session := { running.session with
        notices := running.session.notices ++
          [.compiling running.executor.options.deviceIterations running.executor.training] } } :=
    ⟨.refl _, fun _ => base.tells _ _ (by simp)⟩
  refine (ends_views _ binding _).mono ?_ ?_
  · rintro views _ ⟨viewed, rfl⟩
    obtain ⟨narrowed, promoted⟩ := Views.dense viewed dense
    dsimp only
    split
    · exact (installs (abides_compileByTracing_working endures table narrowed promoted) _).mono
        (fun _ _ => (working verdict).trans within)
        fun _ _ failed => .inr ((working verdict).late within failed)
    · exact (installs (abides_compileByScripting_working endures table promoted) _).mono
        (fun _ _ => (working verdict).trans within)
        fun _ _ failed => .inr ((working verdict).late within failed)
  · rintro cause _ ⟨viewed, rfl⟩
    exact .inl ⟨by rw [draft_of_flatten flat, viewed]; rfl, within⟩

end Compile

section Call

variable (endures : Session.Endures verdict)

include endures

theorem abides_followModel_working : (followModel (P := P)).Abides (working verdict) := by
  refine abides_bind abides_get fun running => ?_
  split
  · exact abides_pure _
  · refine abides_bind (abides_onSession_working (endures.resolve _)) fun _ =>
      abides_bind abides_get fun resolved => ?_
    split
    · exact abides_bind (abides_notify_working endures nofun) fun _ =>
        abides_bind (abides_copyToDevice_working endures) fun _ => abides_noteRefreshes_working
    · exact abides_pure _

theorem abides_sendModified_working : (sendModified (P := P)).Abides (working verdict) := by
  refine abides_bind abides_get fun running => ?_
  split
  · exact abides_bind (abides_notify_working endures nofun) fun _ =>
      abides_copyToDevice_working endures
  · exact abides_pure _

theorem abides_execute_working {inputs : List Value} (dense : AllDense inputs) :
    (execute (P := P) inputs).Abides (working verdict) := by
  refine abides_bind abides_get fun running => ?_
  dsimp only
  refine abides_bind (abides_onSession_working (endures.withExecutable _ fun executable =>
    endures.execute executable inputs _ dense)) fun results => ?_
  refine abides_bind (abides_update_working fun _ => ⟨rfl, rfl, rfl, rfl, rfl⟩) fun _ => ?_
  split
  · exact abides_bind (abides_onSession_working (endures.updateDevice _ _)) fun _ => abides_pure _
  · exact abides_pure _

/-- What a call does once the executor is compiled. -/
theorem abides_connect_working {binding : Binding} (dense : AllDense binding.leaves) :
    (do
      let executor := (← get).executor
      if executor.options.connectionType? = some .never then
        notify .notConnecting
        return Output.notExecuted
      if !executor.training then followModel
      sendModified
      return .ofResults (← execute binding.leaves) : Attempt (Running P) Output).Abides
        (working verdict) := by
  have executes : (do
      sendModified
      return Output.ofResults (← execute binding.leaves) : Attempt (Running P) Output).Abides
        (working verdict) :=
    abides_bind (abides_sendModified_working endures) fun _ =>
      abides_bind (abides_execute_working endures dense) fun _ => abides_pure _
  refine abides_bind abides_get fun running => ?_
  dsimp only
  split
  · exact abides_bind (abides_notify_working endures nofun) fun _ => abides_pure _
  · split
    · exact abides_bind (abides_followModel_working endures) fun _ => executes
    · exact executes

end Call

section Course

/-- How a task that binds arguments fails: they do not bind, they do not suit the options of an
executor that is not compiled, or what was done after binding failed. -/
inductive FallsShort (verdict : Verdict (Session P)) (arguments : CallArguments) (before : Running P)
    (cause : Error) (reached : Running P) : Prop where
  | unbound (called : Binding.ofCall (before.executor.subject.signature before.session) arguments =
      .error cause) (same : reached = before)
  | unfit (densified : Bool) (binding : Binding)
      (called : Binding.ofCall (before.executor.subject.signature before.session) arguments =
        .ok (densified, binding))
      (fresh : isCompiled before = false)
      (drafted : draft before.executor.options binding = .error cause)
      (within : (working verdict).good (heeding densified before) reached)
  | stopped (densified : Bool) (binding : Binding)
      (called : Binding.ofCall (before.executor.subject.signature before.session) arguments =
        .ok (densified, binding))
      (failed : (working verdict).bad (heeding densified before) cause reached)

/-- How a task that binds arguments comes through. -/
def ComesThrough (verdict : Verdict (Session P)) (arguments : CallArguments)
    (before reached : Running P) : Prop :=
  ∃ densified binding, Binding.ofCall (before.executor.subject.signature before.session) arguments =
    .ok (densified, binding) ∧ (working verdict).good (heeding densified before) reached

theorem options_heeding (densified : Bool) (running : Running P) :
    (heeding densified running).executor.options = running.executor.options := by
  rw [heeding_eq]

theorem isCompiled_heeding (densified : Bool) (running : Running P) :
    isCompiled (heeding densified running) = isCompiled running := by
  rw [heeding_eq]
  rfl

variable (endures : Endures verdict) (arguments : CallArguments) (before : Running P)

include endures

theorem ends_call_working :
    (call arguments).Ends before (fun _ reached => ComesThrough verdict arguments before reached)
      fun cause reached => FallsShort verdict arguments before cause reached := by
  unfold call
  rw [ends_bind]
  refine (ends_bind_arguments arguments before).mono ?_ fun cause _ ended => .unbound ended.1 ended.2
  rintro binding _ ⟨densified, called, rfl⟩
  have dense := Binding.ofCall_dense called
  rw [ends_bind, ensureCompiled, ends_bind, ends_get]
  have connects {prepared : Running P}
      (within : (working verdict).good (heeding densified before) prepared) :=
    (abides_connect_working endures.toEndures dense prepared).mono
      (fun _ _ good => (⟨densified, binding, called, (working verdict).trans within good⟩ :
        ComesThrough verdict arguments before _))
      fun cause reached bad => (.stopped densified binding called
        ((working verdict).late within bad) : FallsShort verdict arguments before cause reached)
  split
  · exact connects ((working verdict).refl _)
  · next fresh =>
      rw [isCompiled_heeding] at fresh
      refine (ends_compileBinding_working endures dense _).mono (fun _ _ within => connects within) ?_
      rintro cause reached (⟨drafted, within⟩ | failed)
      · rw [options_heeding] at drafted
        exact .unfit densified binding called (by simpa using fresh) drafted within
      · exact .stopped densified binding called failed

theorem ends_compile_working :
    (compile arguments).Ends before
      (fun _ reached => isCompiled before = true ∧ reached = before ∨
        isCompiled before = false ∧ ComesThrough verdict arguments before reached)
      fun cause reached => isCompiled before = false ∧
        FallsShort verdict arguments before cause reached := by
  unfold compile
  rw [ends_bind, ends_get]
  split
  · next compiled => exact .inl ⟨compiled, rfl⟩
  · next fresh =>
      have fresh : isCompiled before = false := by simpa using fresh
      rw [ends_bind]
      refine (ends_bind_arguments arguments before).mono ?_
        fun cause _ ended => ⟨fresh, .unbound ended.1 ended.2⟩
      rintro binding _ ⟨densified, called, rfl⟩
      refine (ends_compileBinding_working endures (Binding.ofCall_dense called) _).mono
        (fun _ _ within => .inr ⟨fresh, densified, binding, called, within⟩) ?_
      rintro cause reached (⟨drafted, within⟩ | failed)
      · rw [options_heeding] at drafted
        exact ⟨fresh, .unfit densified binding called fresh drafted within⟩
      · exact ⟨fresh, .stopped densified binding called failed⟩

end Course

end Executor

end Offload
