/-
# Sessions that cannot be told apart

Two sessions of platforms that simulate each other are similar when their worlds, models, executables
and hooks are related and all else is equal: who holds a model, how often it was refreshed, which
weights are out of date, and what the application was told. Where tensors may be strided in one run
only, the warning of strided inputs is left out of that. Every step of a session keeps two of them
similar, and comes to ends that agree.
-/

import Offload.Proofs.Executor.Views
import Offload.Proofs.Session.Step
import Offload.Proofs.Simulation.Platform

namespace Offload

open Attempt

variable {like : Likeness} {P Q : Platform} {sim : Simulation like P Q} {α β : Type}

/-- The same device, or related hooks outside. -/
inductive RefreshHook.Similar (sim : Simulation like P Q) : RefreshHook P → RefreshHook Q → Prop where
  | device (id : DeviceId) : Similar sim (.device id) (.device id)
  | outside {hook : P.Hook} {hook' : Q.Hook} (related : sim.hooks hook hook') :
      Similar sim (.outside hook) (.outside hook')

/-- Related models that are held and refreshed alike. -/
structure ModelCell.Similar (sim : Simulation like P Q) (cell : ModelCell P) (other : ModelCell Q) :
    Prop where
  model : sim.models cell.model other.model
  readers : cell.readers = other.readers
  writing : cell.writing = other.writing
  hook : Option.Rel (RefreshHook.Similar sim) cell.hook other.hook
  refreshes : cell.refreshes = other.refreshes

/-- Devices with related executables, or none, and the same marks. -/
structure Device.Similar (sim : Simulation like P Q) (device : Device P) (other : Device Q) :
    Prop where
  executable : Option.Rel sim.executables device.executable other.executable
  hostStale : device.hostStale = other.hostStale
  deviceStale : device.deviceStale = other.deviceStale

/-- The application is told the same in both runs. -/
def Likeness.hears (like : Likeness) (notice : Notice) : Bool :=
  like.strict || notice ≠ .stridedInput

namespace Session

/-- Two sessions cannot be told apart. -/
structure Similar (sim : Simulation like P Q) (session : Session P) (other : Session Q) : Prop where
  world : sim.worlds session.world other.world
  notices : session.notices.filter like.hears = other.notices.filter like.hears
  cell : ∀ handle, (session.cell handle).Similar sim (other.cell handle)
  device : ∀ id, (session.device id).Similar sim (other.device id)
  nextModel : session.models.next = other.models.next
  nextDevice : session.devices.next = other.devices.next

section Similar

variable {session : Session P} {other : Session Q}

theorem Similar.isCompiled (similar : session.Similar sim other) (id : DeviceId) :
    session.isCompiled id = other.isCompiled id := by
  have devices := (similar.device id).executable
  rw [Session.isCompiled, Session.isCompiled]
  generalize (session.device id).executable = executable at devices ⊢
  generalize (other.device id).executable = executable' at devices ⊢
  cases devices <;> rfl

theorem Similar.signature (similar : session.Similar sim other) (handle : Handle) :
    session.signature handle = other.signature handle := by
  have cells := similar.cell handle
  simp only [Session.signature, cells.writing, sim.signature cells.model]

/-- The application is told more, the same as far as it is compared. -/
theorem Similar.told (similar : session.Similar sim other) {notices notices' : List Notice}
    (same : notices.filter like.hears = notices'.filter like.hears) :
    Similar sim { session with notices := session.notices ++ notices }
      { other with notices := other.notices ++ notices' } :=
  { similar with
    notices := by rw [List.filter_append, List.filter_append, similar.notices, same] }

/-- One model changes in both sessions. -/
theorem Similar.changed (similar : session.Similar sim other) (handle : Handle)
    {change : ModelCell P → ModelCell P} {change' : ModelCell Q → ModelCell Q}
    (cells : (change (session.cell handle)).Similar sim (change' (other.cell handle))) :
    Similar sim { session with models := session.models.update handle.number change }
      { other with models := other.models.update handle.number change' } := by
  refine { similar with cell := fun asked => ?_ }
  rw [cell_update, cell_update]
  split
  · exact cells
  · exact similar.cell asked

end Similar

theorem alike_onWorld {values : α → β → Prop} {step : Attempt P.World α}
    {step' : Attempt Q.World β} (steps : step.Alike values sim.worlds step') :
    (onWorld step).Alike values (Similar sim) (onWorld step') :=
  alike_within steps (fun _ _ similar => similar.world) fun _ _ _ _ world similar =>
    { similar with world := world }

theorem alike_notify (notice : Notice) :
    (notify (P := P) notice).Alike Eq (Similar sim) (notify notice) :=
  alike_modify fun _ _ similar => similar.told rfl

theorem alike_updateDevice (id : DeviceId) {change : Device P → Device P}
    {change' : Device Q → Device Q}
    (changes : ∀ device device', device.Similar sim device' →
      (change device).Similar sim (change' device')) :
    (updateDevice id change).Alike Eq (Similar sim) (updateDevice id change') := by
  refine alike_modify fun session session' similar => { similar with device := fun other => ?_ }
  rw [device_update, device_update]
  split
  · exact changes _ _ (similar.device id)
  · exact similar.device other

theorem alike_updateCell (handle : Handle) {change : ModelCell P → ModelCell P}
    {change' : ModelCell Q → ModelCell Q}
    (changes : ∀ cell cell', cell.Similar sim cell' → (change cell).Similar sim (change' cell')) :
    (updateCell handle change).Alike Eq (Similar sim) (updateCell handle change') :=
  alike_modify fun _ _ similar => similar.changed handle (changes _ _ (similar.cell handle))

theorem alike_withExecutable {values : α → β → Prop} (id : DeviceId)
    {use : P.Executable → Attempt P.World α} {use' : Q.Executable → Attempt Q.World β}
    (uses : ∀ executable executable', sim.executables executable executable' →
      (use executable).Alike values sim.worlds (use' executable')) :
    (withExecutable id use).Alike values (Similar sim) (withExecutable id use') := by
  apply alike_bind alike_get
  intro session session' similar
  have devices := (similar.device id).executable
  generalize (session.device id).executable = executable at devices ⊢
  generalize (session'.device id).executable = executable' at devices ⊢
  cases devices with
  | none => exact alike_throw _
  | some related => exact alike_onWorld (uses _ _ related)

theorem alike_copyToHost (id : DeviceId) :
    (copyToHost (P := P) id).Alike Eq (Similar sim) (copyToHost id) :=
  alike_bind_eq (alike_withExecutable id fun _ _ => sim.copyToHost) fun _ =>
    alike_updateDevice id fun _ _ similar => { similar with hostStale := rfl }

theorem alike_copyToDevice (id : DeviceId) :
    (copyToDevice (P := P) id).Alike Eq (Similar sim) (copyToDevice id) :=
  alike_bind_eq (alike_withExecutable id fun _ _ => sim.copyToDevice) fun _ =>
    alike_updateDevice id fun _ _ similar => { similar with deviceStale := rfl }

theorem alike_fetchIfStale (id : DeviceId) :
    (fetchIfStale (P := P) id).Alike Eq (Similar sim) (fetchIfStale id) := by
  apply alike_bind alike_get
  intro session session' similar
  rw [(similar.device id).hostStale]
  refine alike_ite ?_ (alike_pure rfl)
  exact alike_bind_eq (alike_notify _) fun _ =>
    alike_bind_eq (alike_copyToHost id) fun _ => alike_pure rfl

theorem alike_runHook {hook : Option (RefreshHook P)} {hook' : Option (RefreshHook Q)}
    (hooks : Option.Rel (RefreshHook.Similar sim) hook hook') :
    (runHook hook).Alike Eq (Similar sim) (runHook hook') := by
  cases hooks with
  | none => exact alike_pure rfl
  | some similar =>
      cases similar with
      | device id => exact alike_fetchIfStale id
      | outside related => exact alike_onWorld (sim.refresh related)

theorem alike_resolve (handle : Handle) :
    (resolve (P := P) handle).Alike Eq (Similar sim) (resolve handle) := by
  apply alike_bind alike_get
  intro session session' similar
  apply alike_bind_eq (alike_runHook (similar.cell handle).hook)
  intro refreshed
  refine alike_ite ?_ (alike_pure rfl)
  exact alike_bind_eq (alike_updateCell handle fun _ _ cells =>
    { cells with refreshes := congrArg Nat.succ cells.refreshes }) fun _ => alike_pure rfl

theorem alike_borrow (handle : Handle) :
    (borrow handle).Alike sim.models (Similar sim) (borrow handle) := by
  apply alike_bind alike_get
  intro session session' similar
  have cells := similar.cell handle
  dsimp only
  rw [cells.writing]
  exact alike_ite (alike_bind_eq (alike_throw _) fun _ => alike_pure cells.model)
    (alike_pure cells.model)

section Asking

variable {inputs inputs' : List Tree}

theorem alike_forwardAsIs (handle : Handle)
    (handed : Tree.AlignedItems like.Handed inputs inputs') :
    (forwardAsIs (P := P) handle inputs).Alike (Tree.Aligned like.Handed) (Similar sim)
      (forwardAsIs handle inputs') :=
  alike_bind (alike_borrow handle) fun _ _ models => alike_onWorld (sim.forward models handed)

theorem alike_parametersAsIs (handle : Handle) :
    (parametersAsIs (P := P) handle).Alike (List.Forall₂ (NamedParameter.Relates like.outer))
      (Similar sim) (parametersAsIs handle) :=
  alike_bind (alike_borrow handle) fun _ _ models => alike_onWorld (sim.parameters models)

theorem alike_layers (handle : Handle) :
    (layers (P := P) handle).Alike Eq (Similar sim) (layers handle) :=
  alike_bind (alike_borrow handle) fun _ _ models => alike_onWorld (sim.layers models)

theorem alike_forward (handle : Handle) (handed : Tree.AlignedItems like.Handed inputs inputs') :
    (forward (P := P) handle inputs).Alike (Tree.Aligned like.Handed) (Similar sim)
      (forward handle inputs') :=
  alike_bind_eq (alike_resolve handle) fun _ => alike_forwardAsIs handle handed

theorem alike_parameters (handle : Handle) :
    (parameters (P := P) handle).Alike (List.Forall₂ (NamedParameter.Relates like.outer))
      (Similar sim) (parameters handle) :=
  alike_bind_eq (alike_resolve handle) fun _ => alike_parametersAsIs handle

end Asking

theorem alike_castLayer (handle : Handle) (layer : String) (dtype : DType) :
    (castLayer (P := P) handle layer dtype).Alike Eq (Similar sim) (castLayer handle layer dtype) := by
  have casts : (within (modelFocus handle) (P.model.castLayer layer dtype)).Alike Eq (Similar sim)
      (within (modelFocus handle) (Q.model.castLayer layer dtype)) := by
    refine alike_within (sim.castLayer layer dtype)
      (fun _ _ similar => ⟨(similar.cell handle).model, similar.world⟩)
      fun _ _ _ _ parts similar => ?_
    exact { similar.changed handle { similar.cell handle with model := parts.1 } with
      world := parts.2 }
  apply alike_bind alike_get
  intro session session' similar
  rw [ModelCell.isFree, ModelCell.isFree, (similar.cell handle).readers,
    (similar.cell handle).writing]
  exact alike_ite (alike_bind_eq (alike_throw _) fun _ => casts) casts

end Session

/-! ## Subjects -/

/-- Related models, or the same shared one, with related losses when it is trained. -/
inductive Subject.Similar (sim : Simulation like P Q) : Subject P → Subject Q → Prop where
  | own {model : P.Model} {model' : Q.Model} (related : sim.models model model') :
      Similar sim (.own model) (.own model')
  | shared (handle : Handle) : Similar sim (.shared handle) (.shared handle)
  | training (handle : Handle) {loss : Option (Loss P)} {loss' : Option (Loss Q)}
      (related : Option.Rel sim.losses loss loss') :
      Similar sim (.training handle loss) (.training handle loss')

namespace Subject

variable {subject : Subject P} {other : Subject Q}

theorem Similar.signature (similar : subject.Similar sim other) {session : Session P}
    {session' : Session Q} (sessions : session.Similar sim session') :
    subject.signature session = other.signature session' := by
  cases similar with
  | own related => exact sim.signature related
  | shared handle => exact sessions.signature handle
  | training handle related => rfl

theorem Similar.followed? (similar : subject.Similar sim other) :
    subject.followed? = other.followed? := by
  cases similar <;> rfl

theorem Similar.alike_layers (similar : subject.Similar sim other) :
    subject.layers.Alike Eq (Session.Similar sim) other.layers := by
  cases similar with
  | own related => exact Session.alike_onWorld (sim.layers related)
  | shared handle => exact Session.alike_layers handle
  | training handle related => exact Session.alike_layers handle

theorem Similar.alike_parameters (similar : subject.Similar sim other) :
    subject.parameters.Alike (List.Forall₂ (NamedParameter.Relates like.outer))
      (Session.Similar sim) other.parameters := by
  cases similar with
  | own related => exact Session.alike_onWorld (sim.parameters related)
  | shared handle => exact Session.alike_parameters handle
  | training handle related => exact Session.alike_parametersAsIs handle

theorem Similar.alike_forward (similar : subject.Similar sim other) {inputs inputs' : List Tree}
    (handed : Tree.AlignedItems like.Handed inputs inputs') :
    (subject.forward inputs).Alike (Tree.Aligned like.Handed) (Session.Similar sim)
      (other.forward inputs') := by
  cases similar with
  | own related => exact Session.alike_onWorld (sim.forward related handed)
  | shared handle => exact Session.alike_forward handle handed
  | training handle losses =>
      match inputs, inputs', handed with
      | [], [], _ => exact alike_throw _
      | _ :: others, _ :: others', ⟨first, rest⟩ =>
          refine alike_bind (Session.alike_forwardAsIs handle ⟨first, trivial⟩)
            fun output output' outputs => ?_
          have target : Tree.Aligned like.Handed (others.head?.getD .absent)
              (others'.head?.getD .absent) := by
            match others, others', rest with
            | [], [], _ => exact .other rfl
            | _ :: _, _ :: _, ⟨target, _⟩ => exact target
          cases losses with
          | none => exact alike_pure outputs
          | some related =>
              exact alike_bind (Session.alike_onWorld (sim.loss related outputs target))
                fun _ _ computed => alike_pure ⟨outputs, computed, trivial⟩

/-- Casting a layer is alike for similar subjects, and keeps them so. -/
theorem alike_castLayer (layer : String) (dtype : DType) :
    (castLayer (P := P) layer dtype).Alike Eq (Both (Similar sim) (Session.Similar sim))
      (castLayer layer dtype) := by
  apply alike_bind alike_get
  intro state state' similar
  obtain ⟨subject, session⟩ := state
  obtain ⟨subject', session'⟩ := state'
  obtain ⟨subjects, -⟩ := similar
  dsimp only at subjects ⊢
  cases subjects with
  | own related =>
      exact alike_within (sim.castLayer layer dtype)
        (fun _ _ similar => ⟨related, similar.2.world⟩)
        fun _ _ _ _ part similar => ⟨.own part.1, { similar.2 with world := part.2 }⟩
  | shared handle => exact alike_onRest_both (Session.alike_castLayer handle layer dtype)
  | training handle related => exact alike_onRest_both (Session.alike_castLayer handle layer dtype)

end Subject

end Offload
