/-
# Rehearsals look at contents only

A rehearsal records what it was asked for and hands inputs back as they are, so it cannot tell tensors
of the same contents apart. Two of its worlds are the same when their records are, event by event and
up to layouts, and all else of them is equal; its models, graphs and executables are the same only if
they are equal.
-/

import Offload.Proofs.Contents.Platform
import Offload.Rehearsal.Platform

namespace Offload.Rehearsal

open Attempt

/-- The same happened, up to layouts. -/
inductive Event.Same : Event → Event → Prop where
  | refl (event : Event) : Same event event
  | trace {inputs inputs' : List Tree} (same : Tree.AlignedItems Value.Same inputs inputs') :
      Same (.trace inputs) (.trace inputs')
  | traced {output output' : Tree} (same : output.Aligned Value.Same output') :
      Same (.traced output) (.traced output')
  | infer (position : Nat) {sample sample' : Tensor} (same : Tensor.SameContents sample sample') :
      Same (.infer position sample) (.infer position sample')
  | compile (frontend : Frontend) {request request' : CompileRequest}
      (same : request.Relates Value.Same request') (graph : Graph) :
      Same (.compile frontend request graph) (.compile frontend request' graph)
  | execute (executable : Executable) {inputs inputs' : List Value}
      (same : List.Forall₂ Value.Same inputs inputs') (optimizer : Option Descriptor) :
      Same (.execute executable inputs optimizer) (.execute executable inputs' optimizer)

/-- The same happened, up to layouts, and all else is equal. -/
structure World.Same (world other : World) : Prop where
  failing : world.failing = other.failing
  events : List.Forall₂ Event.Same world.events other.events
  nextExecutable : world.nextExecutable = other.nextExecutable
  outputs : world.outputs = other.outputs
  scriptInputs : world.scriptInputs = other.scriptInputs
  hooks : world.hooks = other.hooks

theorem World.Same.refl (world : World) : world.Same world :=
  ⟨rfl, List.forall₂_same.mpr fun event _ => .refl event, rfl, rfl, rfl, rfl⟩

/-! ## What is asked of worlds -/

theorem alike_record {event event' : Event} (events : event.Same event') :
    (record event).Alike Eq World.Same (record event') :=
  alike_modify fun _ _ same =>
    { same with events := List.rel_append same.events (.cons events .nil) }

theorem alike_check (operation : String) :
    (check operation).Alike Eq World.Same (check operation) := by
  apply alike_bind alike_get
  intro world other same
  rw [same.failing]
  exact alike_ite (alike_throw _) (alike_pure rfl)

theorem alike_perform {event event' : Event} (events : event.Same event') (operation : String) :
    (perform event operation).Alike Eq World.Same (perform event' operation) :=
  alike_bind_eq (alike_record events) fun _ => alike_check operation

theorem alike_forward (model : Model) {inputs inputs' : List Tree}
    (same : Tree.AlignedItems Value.Same inputs inputs') :
    (model.forward inputs).Alike (Tree.Aligned Value.Same) World.Same (model.forward inputs') := by
  refine alike_bind_eq (alike_check _) fun _ => alike_ite (alike_pure same) ?_
  match inputs, inputs', same with
  | [], [], _ => exact alike_throw _
  | _ :: _, _ :: _, ⟨first, _⟩ => exact alike_pure first

theorem alike_readParameters (model : Model) :
    model.readParameters.Alike Eq World.Same model.readParameters :=
  alike_bind_eq (alike_check _) fun _ => alike_pure rfl

theorem alike_castLayer (layer : String) (dtype : DType) :
    (Model.castLayer layer dtype).Alike Eq (Both Eq World.Same) (Model.castLayer layer dtype) := by
  apply alike_bind_eq (alike_onRest_both (alike_perform (.refl _) _))
  intro _
  apply alike_bind alike_get
  intro state state' same
  dsimp only
  rw [same.1]
  obtain ⟨outcome, parameters⟩ := Model.castParameters layer dtype state'.1.parameters
  have converts : (do
      modify fun state => ({ state'.1 with parameters := parameters }, state.2)
      ofResult outcome : Attempt (Model × World) Unit).Alike Eq (Both Eq World.Same) (do
      modify fun state => ({ state'.1 with parameters := parameters }, state.2)
      ofResult outcome) :=
    alike_bind_eq (alike_modify fun _ _ same => ⟨rfl, same.2⟩) fun _ => alike_ofResult _
  exact alike_ite (alike_bind_eq (alike_throw _) fun _ => converts) converts

/-! ## Captures -/

theorem same_trace {inputs inputs' : List Tree} (same : Tree.AlignedItems Value.Same inputs inputs') :
    (trace inputs).Same World.Same Eq (trace inputs') := by
  refine (Capture.Same.ofAttempt (alike_perform (.trace same) _)).andThen fun _ _ _ => ?_
  have layers : (Capture.askLayers : Capture World _).Same World.Same Eq Capture.askLayers :=
    .layers fun answer => .done (.refl (fun _ => rfl) answer)
  refine layers.andThen fun layers _ equal => ?_
  rw [← equal]
  refine (Capture.Same.ofAttempt (alike_record (.refl _))).andThen fun _ _ _ => ?_
  have runs : (Capture.askForward inputs : Capture World _).Same World.Same
      (Tree.Aligned Value.Same) (Capture.askForward inputs') :=
    .forward same fun _ _ agree => .done agree
  refine runs.andThen fun output output' outputs => ?_
  refine (Capture.Same.ofAttempt (alike_record (.traced outputs))).andThen fun _ _ _ => ?_
  exact .done (.ok (congrArg Graph.ofInputs same.length))

theorem same_script : script.Same World.Same Eq script := by
  refine (Capture.Same.ofAttempt (alike_perform (.refl _) _)).andThen fun _ _ _ => ?_
  have signature : (Capture.askSignature : Capture World _).Same World.Same Eq
      Capture.askSignature := .signature fun _ => .done (.ok rfl)
  refine signature.andThen fun signature _ equal => ?_
  rw [← equal]
  refine (Capture.Same.ofAttempt alike_get).andThen fun world world' same => ?_
  rw [same.scriptInputs]
  exact .done (.ok rfl)

/-! ## Graphs and executables -/

theorem alike_inferInput (position : Nat) {sample sample' : Tensor}
    (same : Tensor.SameContents sample sample') :
    (inferInput position sample).Alike Eq (Both Eq World.Same) (inferInput position sample') :=
  alike_bind_eq (alike_onRest_both (alike_perform (.infer position same) _)) fun _ =>
    alike_modify fun _ _ same => ⟨congrArg (Graph.infer · position) same.1, same.2⟩

theorem alike_castGraphLayer (layer : String) (dtype : DType) :
    (castGraphLayer layer dtype).Alike Eq (Both Eq World.Same) (castGraphLayer layer dtype) :=
  alike_bind_eq (alike_onRest_both (alike_perform (.refl _) _)) fun _ =>
    alike_modify fun _ _ same => ⟨congrArg (Graph.cast · layer dtype) same.1, same.2⟩

theorem alike_compile (frontend : Frontend) (graph : Graph) {request request' : CompileRequest}
    (same : request.Relates Value.Same request') :
    (compile frontend graph request).Alike Eq World.Same (compile frontend graph request') := by
  apply alike_bind_eq (alike_perform (.compile frontend same graph) _)
  intro _
  apply alike_bind alike_get
  intro world other worlds
  have next : ({ world with nextExecutable := world.nextExecutable + 1 } : World).Same
      { other with nextExecutable := other.nextExecutable + 1 } :=
    { worlds with nextExecutable := congrArg Nat.succ worlds.nextExecutable }
  refine alike_bind_eq (alike_modify fun _ _ _ => next) fun _ => alike_pure ?_
  rw [worlds.nextExecutable, same.training]

theorem alike_execute (executable : Executable) {inputs inputs' : List Value}
    (same : List.Forall₂ Value.Same inputs inputs') (optimizer : Option Descriptor) :
    (execute executable inputs optimizer).Alike (Tree.AlignedItems Value.Same) World.Same
      (execute executable inputs' optimizer) := by
  apply alike_bind_eq (alike_perform (.execute executable same optimizer) _)
  intro _
  refine alike_bind alike_get fun world other worlds => alike_pure ?_
  rw [worlds.outputs]
  cases other.outputs with
  | some outputs => exact .refl (Value.Relates.refl .refl) outputs
  | none =>
      induction same with
      | nil => trivial
      | cons first _ ih => exact ⟨first, ih⟩

theorem alike_refresh (hook : Nat) : (refresh hook).Alike Eq World.Same (refresh hook) := by
  apply alike_bind alike_get
  intro world other same
  rw [same.hooks]
  apply alike_bind_eq (alike_perform (.refl _) _)
  intro _
  refine alike_bind_eq (alike_modify fun _ _ same => ?_) fun _ => alike_pure rfl
  exact { same with hooks := by rw [same.hooks] }

/-- A rehearsal looks at contents only. -/
def indifference (printsPrograms : Bool) : Indifference (platform printsPrograms) where
  worlds := World.Same
  models := Eq
  graphs := Eq
  executables := Eq
  results := Tensor.SameContents
  sameWorld := .refl
  sameModel _ := rfl
  sameExecutable _ := rfl
  sameResult := id
  signature equal := congrArg Model.signature equal
  forward := by
    rintro model _ inputs inputs' rfl same
    exact alike_forward model same
  parameters := by
    rintro model _ rfl
    refine (alike_readParameters model).mono fun parameters _ equal => ?_
    exact equal ▸ List.forall₂_same.mpr fun parameter _ => ⟨rfl, .refl parameter.2⟩
  layers := by
    rintro model _ rfl
    exact alike_bind_eq (alike_readParameters model) fun _ => alike_pure rfl
  castLayer := alike_castLayer
  trace := same_trace
  script := same_script
  inputCount := congrArg Graph.inputCount
  inferInput := alike_inferInput
  castGraphLayer := alike_castGraphLayer
  compileTraced := by
    rintro graph _ request request' rfl same
    exact alike_compile .trace graph same
  compileScripted := by
    rintro graph _ request request' rfl same
    exact alike_compile .script graph same
  execute := by
    rintro executable _ inputs inputs' rfl same optimizer
    exact alike_execute executable same optimizer
  copyToHost := by
    rintro executable _ rfl
    exact alike_perform (.refl _) _
  copyToDevice := by
    rintro executable _ rfl
    exact alike_perform (.refl _) _
  refresh := alike_refresh

end Offload.Rehearsal
