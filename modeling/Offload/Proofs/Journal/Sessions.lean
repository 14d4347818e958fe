/-
# Watched sessions

A journaled platform does what the platform does: it simulates it, with worlds that differ in the
journal and executables that differ in the tag. A session of it shows a session of the platform when
the two differ in nothing else.
-/

import Offload.Proofs.Simulation.Calls

namespace Offload

open Attempt

variable {P : Platform} {α : Type}

/-- An executor may hold and hand over the same tensors only. -/
def Likeness.exact : Likeness where
  inner := Eq
  outer := Eq
  strict := true
  refl _ := rfl
  outer_of_inner _ _ := id
  dtype := congrArg Tensor.dtype
  isContiguous _ _ _ := congrArg Tensor.isContiguous
  contiguous same := same ▸ .refl (fun _ => rfl) _
  narrow _ _ _ same := same ▸ .refl (fun _ => rfl) _
  toFullPrecision same := same ▸ .refl (fun _ => rfl) _

namespace Journaled

variable {World τ : Type}

/-- A world that was watched and the world itself. -/
def Shows (state : Journaled World) (world : World) : Prop := state.world = world

theorem alike_noting (operation : Operation) (step : Attempt World α) :
    (noting operation step).Alike Eq Shows step := by
  intro state world related
  have ends := ends_noting operation step state
  rw [show state.world = world from related] at ends
  unfold Ends at ends
  generalize (noting operation step).perform state = noted at *
  obtain ⟨outcome, reached⟩ := noted
  cases outcome with
  | ok value =>
      obtain ⟨world', ended, rfl⟩ := ends
      rw [ended]
      exact .ok rfl rfl
  | error cause =>
      obtain ⟨world', ended, rfl⟩ := ends
      rw [ended]
      exact .error rfl

theorem alike_notingBeside (operation : Operation) (step : Attempt (τ × World) α) :
    (notingBeside operation step).Alike Eq (Beside Shows) step := by
  intro state state' related
  have ends := ends_notingBeside operation step state
  rw [show (state.1, state.2.world) = state' from Prod.ext related.1 related.2] at ends
  unfold Ends at ends
  generalize (notingBeside operation step).perform state = noted at *
  obtain ⟨outcome, reached⟩ := noted
  cases outcome with
  | ok value =>
      obtain ⟨part, ended, rfl⟩ := ends
      rw [ended]
      exact .ok rfl ⟨rfl, rfl⟩
  | error cause =>
      obtain ⟨part, ended, rfl⟩ := ends
      rw [ended]
      exact .error ⟨rfl, rfl⟩

/-- An executable that was tagged and the executable itself. -/
def Tags {Executable : Type} (tagged : Tagged Executable) (executable : Executable) : Prop :=
  tagged.executable = executable

theorem alike_compiling {Executable : Type} (request : CompileRequest)
    (step : Attempt World Executable) : (compiling request step).Alike Tags Shows step := by
  intro state world related
  have noted := alike_noting
    (.compile ⟨state.entries.countP Entry.compiles, request.training⟩ request)
    step state world related
  rw [compiling, perform_bind, perform_get]
  simp only [perform_bind]
  generalize (noting _ step).perform state = ended at *
  generalize step.perform world = ended' at *
  cases noted with
  | ok same related => exact .ok same related
  | error related => exact .error related

end Journaled

/-- A hook of a platform, on the platform with its journal. -/
def RefreshHook.journaled : RefreshHook P → RefreshHook P.journaled
  | .device id => .device id
  | .outside hook => .outside hook

/-- What handles share, on the platform with its journal. -/
def ModelCell.journaled (cell : ModelCell P) : ModelCell P.journaled where
  model := cell.model
  readers := cell.readers
  writing := cell.writing
  hook := cell.hook.map RefreshHook.journaled
  refreshes := cell.refreshes

/-- A device without the tag of its executable. -/
def Device.untagged (device : Device P.journaled) : Device P where
  executable := device.executable.map Tagged.executable
  hostStale := device.hostStale
  deviceStale := device.deviceStale

/-- A dialogue goes the same way whether it is written down or not. -/
theorem Capture.alike_journaled {World : Type} (operation : Operation)
    (dialogue : Capture World α) :
    (dialogue.journaled operation).Alike .exact Journaled.Shows Eq dialogue := by
  intro σ σ' states focus focus' answers answers' agree
  induction dialogue with
  | done outcome =>
      intro state state' related
      have written := agree.moves _ _ ((focus.get state).write operation (Journaled.succeeds outcome))
        (focus'.get state') related (agree.looks _ _ related)
      rw [agree.rests] at written
      exact alike_ofResult outcome _ _ written
  | look next ih =>
      intro state state' related
      have seen : (focus.get state).world = focus'.get state' := agree.looks state state' related
      have goes := ih (focus.get state).world state state' related
      simp only [Capture.journaled, run, perform_bind, perform_get]
      rw [seen] at goes ⊢
      exact goes
  | leave world next ih =>
      intro state state' related
      exact ih _ _ (agree.moves state state' _ world related rfl)
  | signature next ih =>
      intro state state' related
      have goes := ih (answers.signature state) state state' related
      simp only [Capture.journaled, run, perform_bind, perform_get]
      rw [agree.signature state state' related] at goes ⊢
      exact goes
  | layers next ih => exact alike_bind_eq (alike_observe agree.layers) ih
  | parameters next ih =>
      have asked := agree.parameters.mono fun _ _ same =>
        List.forall₂_eq_eq_eq ▸ same.imp fun _ _ => NamedParameter.Relates.eq
      exact alike_bind_eq (alike_observe asked) ih
  | forward inputs next ih =>
      have ran := (agree.forward inputs inputs (.refl (Value.Relates.refl fun _ => rfl) _)).mono
        fun _ _ same => same.eq fun _ _ => Value.Relates.eq
      exact alike_bind_eq (alike_observe ran) ih

/-- A loss is computed over the world alone. -/
theorem Loss.alike_journaled (loss : Loss P) (output target : Tree) :
    (loss.journaled output target).Alike Eq Journaled.Shows (loss output target) := by
  intro state world related
  rw [Loss.journaled, perform_within]
  rw [show Journaled.focus.get state = world from related]
  generalize (loss output target).perform world = ended
  obtain ⟨outcome, reached⟩ := ended
  cases outcome with
  | ok value => exact .ok rfl rfl
  | error cause => exact .error rfl

open Journaled in
/-- A platform with a journal cannot be told from the platform. -/
def Platform.watching (P : Platform) : Simulation .exact P.journaled P where
  worlds := Shows
  models := Eq
  graphs := Eq
  executables := Tags
  hooks := Eq
  results := Eq
  losses loss plain := loss = plain.journaled
  signature := congrArg P.model.signature
  forward := by
    rintro model _ inputs inputs' rfl handed
    obtain rfl := handed.eq fun _ _ => Value.Relates.eq
    exact (alike_noting _ _).of_eq (.refl (Value.Relates.refl fun _ => rfl))
  parameters := by
    rintro model _ rfl
    exact (alike_noting _ _).of_eq fun _ => List.forall₂_same.mpr fun _ _ => ⟨rfl, rfl⟩
  layers := by
    rintro model _ rfl
    exact alike_noting _ _
  castLayer layer dtype := alike_notingBeside _ _
  trace := by
    intro inputs inputs' handed
    obtain rfl := handed.eq fun _ _ => Value.Relates.eq
    exact Capture.alike_journaled _ _
  script := Capture.alike_journaled _ _
  inputCount := congrArg P.inputCount
  inferInput := by
    rintro position sample _ rfl
    exact alike_notingBeside _ _
  castGraphLayer layer dtype := alike_notingBeside _ _
  compileTraced := by
    rintro graph _ request request' rfl requests
    obtain rfl := requests.eq
    exact alike_compiling _ _
  compileScripted := by
    rintro graph _ request request' rfl requests
    obtain rfl := requests.eq
    exact alike_compiling _ _
  execute := by
    rintro tagged _ inputs inputs' rfl handed optimizer
    obtain rfl := List.forall₂_eq_eq_eq ▸ handed.imp fun _ _ => Value.Relates.eq
    exact (alike_noting _ _).of_eq (.refl (Value.Relates.refl fun _ => rfl))
  copyToHost := by
    rintro tagged _ rfl
    exact alike_noting _ _
  copyToDevice := by
    rintro tagged _ rfl
    exact alike_noting _ _
  refresh := by
    rintro hook _ rfl
    exact alike_noting _ _
  loss := by
    rintro _ loss rfl output output' target target' outputs targets
    obtain rfl := outputs.eq fun _ _ => Value.Relates.eq
    obtain rfl := targets.eq fun _ _ => Value.Relates.eq
    exact (loss.alike_journaled output target).of_eq (.refl (Value.Relates.refl fun _ => rfl))

/-- Two places are related by a reading when one holds what is read of the other. -/
theorem Option.rel_eq_iff_map_eq {β γ : Type} {read : β → γ} {value : Option β} {other : Option γ} :
    Option.Rel (fun value other => read value = other) value other ↔ value.map read = other := by
  constructor
  · rintro (⟨same⟩ | _)
    · exact congrArg some same
    · rfl
  · rintro rfl
    cases value with
    | none => exact .none
    | some value => exact .some rfl

theorem Option.rel_eq_iff_eq_map {β γ : Type} {write : γ → β} {value : Option β} {other : Option γ} :
    Option.Rel (fun value other => value = write other) value other ↔ value = other.map write := by
  constructor
  · rintro (⟨same⟩ | _)
    · exact congrArg some same
    · rfl
  · rintro rfl
    cases other with
    | none => exact .none
    | some other => exact .some rfl

theorem RefreshHook.similar_watching_iff {hook : RefreshHook P.journaled} {plain : RefreshHook P} :
    hook.Similar P.watching plain ↔ hook = plain.journaled := by
  constructor
  · rintro (⟨id⟩ | ⟨rfl⟩) <;> rfl
  · rintro rfl
    cases plain with
    | device id => exact .device id
    | outside hook => exact .outside rfl

theorem ModelCell.similar_watching_iff {cell : ModelCell P.journaled} {plain : ModelCell P} :
    cell.Similar P.watching plain ↔ cell = plain.journaled := by
  have hooks : Option.Rel (RefreshHook.Similar P.watching) cell.hook plain.hook ↔
      cell.hook = plain.hook.map RefreshHook.journaled := by
    simp only [← Option.rel_eq_iff_eq_map, ← RefreshHook.similar_watching_iff]
  constructor
  · rintro ⟨model, readers, writing, hook, refreshes⟩
    obtain ⟨_, _, _, _, _⟩ := cell
    obtain rfl : _ = plain.model := model
    exact ModelCell.mk.injEq .. ▸ ⟨rfl, readers, writing, hooks.mp hook, refreshes⟩
  · rintro rfl
    exact ⟨rfl, rfl, rfl, hooks.mpr rfl, rfl⟩

theorem Device.similar_watching_iff {device : Device P.journaled} {plain : Device P} :
    device.Similar P.watching plain ↔ device.untagged = plain := by
  constructor
  · rintro ⟨executable, hostStale, deviceStale⟩
    exact Device.mk.injEq .. ▸ ⟨Option.rel_eq_iff_map_eq.mp executable, hostStale, deviceStale⟩
  · rintro rfl
    exact ⟨Option.rel_eq_iff_map_eq.mpr rfl, rfl, rfl⟩

namespace Session

/-- The sessions differ in the journal and the tags only. -/
structure Shows (session : Session P.journaled) (plain : Session P) : Prop where
  world : session.world.world = plain.world
  notices : session.notices = plain.notices
  cell : ∀ handle, session.cell handle = (plain.cell handle).journaled
  device : ∀ id, (session.device id).untagged = plain.device id
  nextModel : session.models.next = plain.models.next
  nextDevice : session.devices.next = plain.devices.next

/-- The sessions differ in the journal and the tags only when they cannot be told apart. -/
theorem shows_iff (session : Session P.journaled) (plain : Session P) :
    Shows session plain ↔ session.Similar P.watching plain := by
  have hears : Likeness.exact.hears = fun _ => true := rfl
  have notices : session.notices = plain.notices ↔ session.notices.filter Likeness.exact.hears =
      plain.notices.filter Likeness.exact.hears := by
    rw [hears, List.filter_true, List.filter_true]
  constructor
  · rintro ⟨world, told, cell, device, nextModel, nextDevice⟩
    exact ⟨world, notices.mp told, fun handle => ModelCell.similar_watching_iff.mpr (cell handle),
      fun id => Device.similar_watching_iff.mpr (device id), nextModel, nextDevice⟩
  · rintro ⟨world, told, cell, device, nextModel, nextDevice⟩
    exact ⟨world, notices.mpr told, fun handle => ModelCell.similar_watching_iff.mp (cell handle),
      fun id => Device.similar_watching_iff.mp (device id), nextModel, nextDevice⟩

/-- Hooks are installed alike. -/
theorem alike_installHook (handle : Handle) (hook : RefreshHook P) :
    (installHook handle hook.journaled).Alike Eq Shows (installHook handle hook) := by
  refine alike_modify fun session session' shows => { shows with cell := fun other => ?_ }
  rw [cell_update, cell_update]
  split
  · rw [shows.cell]
    rfl
  · exact shows.cell other

/-- A model that is shared gets the same handle. -/
theorem alike_addModel (model : P.Model) :
    (addModel (P := P.journaled) model).Alike Eq Shows (addModel model) := by
  intro session plain shows
  refine .ok (congrArg Handle.mk shows.nextModel)
    { shows with cell := fun handle => ?_, nextModel := congrArg Nat.succ shows.nextModel }
  change (session.models.add ⟨model, 0, false, none, 0⟩).2.get handle.number =
    ModelCell.journaled ((plain.models.add ⟨model, 0, false, none, 0⟩).2.get handle.number)
  rw [Store.get_add, Store.get_add, shows.nextModel]
  split
  · rfl
  · exact shows.cell handle

/-- A device that is added gets the same number. -/
theorem alike_addDevice : (addDevice (P := P.journaled)).Alike Eq Shows addDevice := by
  intro session plain shows
  refine .ok (congrArg DeviceId.mk shows.nextDevice)
    { shows with device := fun id => ?_, nextDevice := congrArg Nat.succ shows.nextDevice }
  change Device.untagged ((session.devices.add default).2.get id.number) =
    (plain.devices.add default).2.get id.number
  rw [Store.get_add, Store.get_add, shows.nextDevice]
  split
  · rfl
  · exact shows.device id

end Session

end Offload
