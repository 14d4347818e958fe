/-
# What the host keeps

Two statements about the types of the model on the host, for every call and every compilation from
every state of a session. A model that never refuses a cast keeps its types unless it was captured
by running it; then every layer with reduced precision settles on the first such type it has, so
the types are kept exactly if every such layer has one type only. And where a cast to full
precision was refused, the layers that were promoted before it stay so: the types are kept exactly
if there was no such layer.
-/

import Offload.Proofs.Precision.Capture
import Offload.Rehearsal.Platform

namespace Offload

/-- A use of a wrapper that compiles it if that was not done. -/
inductive Use where
  | call (arguments : CallArguments)
  | compile (arguments : CallArguments)

/-- Use a running executor; what a call gives back does not matter. -/
def Use.run {P : Platform} : Use → Attempt (Running P) Unit
  | .call arguments => do let _ ← Executor.call arguments
  | .compile arguments => Executor.compile arguments

namespace Executor

open Attempt ParameterTypes

variable {P : Platform} {types : P.Model → ParameterTypes}

/-- Every use treats the model on the host. -/
theorem ends_use (faithful : P.model.Faithful types) (executor : Executor P)
    (session : Session P.journaled) (use : Use) :
    use.run.Ends ⟨executor.journaled, session⟩
      (fun _ reached => Treated types ⟨executor.journaled, session⟩ reached)
      fun _ reached => Failed types ⟨executor.journaled, session⟩ reached := by
  have journaled : executor.journaled.subject.IsJournaled := ⟨executor.subject, rfl⟩
  cases use with
  | call arguments =>
      rw [Use.run, ends_bind]
      exact (ends_call_treated faithful journaled arguments).mono (fun _ _ => id) fun _ _ => id
  | compile arguments => exact ends_compile_treated faithful journaled arguments

section Sketch

/-- What can be asked of a model that is nothing but its types. Casts of some layers to full
precision are refused. -/
def sketchInterface (refuses : String → Bool) : ModelInterface Rehearsal.World ParameterTypes where
  signature _ := .empty
  forward _ _ := return .absent
  parameters types :=
    return types.map fun entry => (entry.1, .dense (.made 0) entry.2 [] ⟨[]⟩)
  castLayer layer dtype :=
    if refuses layer ∧ dtype = .f32 then throw (.unknownLayer layer)
    else modify fun state => (state.1.cast [layer] dtype, state.2)

/-- A rehearsal with models that are nothing but their types. -/
@[reducible]
def sketch (refuses : String → Bool) : Platform :=
  { Rehearsal.platform true with
    Model := ParameterTypes
    model := sketchInterface refuses
    blankModel := [] }

theorem faithful_sketch (refuses : String → Bool) : (sketchInterface refuses).Faithful id where
  parameters types world := by
    change (types.map _).map _ = types
    rw [List.map_map]
    exact List.map_id types
  layers _ := rfl
  cast types world layer dtype _ := by
    simp only [sketchInterface]
    split
    · next refused => exact ⟨refused.2, rfl⟩
    · rfl

/-- A sketch refuses nothing. -/
def nothing : String → Bool := fun _ => false

theorem reliable_sketch : (sketchInterface nothing).Reliable id := fun _ _ _ _ _ => trivial

/-- A wrapper of the first model that is shared, which hands every result back. -/
def firstWatcher (P : Platform) : Executor P :=
  ⟨.shared ⟨0⟩, Options.initial.put "anchor_mode" (.int AnchorMode.all.code), false, ⟨0⟩, none,
    none, 0, false⟩

/-- A session in which a model was just shared. -/
def sketched (refuses : String → Bool) (types : ParameterTypes) :
    Session (sketch refuses).journaled :=
  ((Session.addModel (P := (sketch refuses).journaled) types).perform
    (.start (.start Rehearsal.World.initial))).2

/-- A wrapper that was not used yet. -/
def unused (refuses : String → Bool) (types : ParameterTypes) :
    Running (sketch refuses).journaled :=
  ⟨(firstWatcher (sketch refuses)).journaled, sketched refuses types⟩

/-- How the first call of the wrapper ends. -/
def calledOnce (refuses : String → Bool) (types : ParameterTypes) :
    Result Unit × Running (sketch refuses).journaled :=
  (Use.call ⟨[], []⟩).run.perform (unused refuses types)

end Sketch

/-- A reliable model keeps its types exactly if it was not captured by running it, or if every
layer with reduced precision has one type only. Captured or not, and whatever failed, what its
types have become is known. -/
theorem host_keeps_types_iff_uniform (faithful : P.model.Faithful types)
    (reliable : P.model.Reliable types) (executor : Executor P) (session : Session P.journaled)
    (use : Use) :
    let before : Running P.journaled := ⟨executor.journaled, session⟩
    let reached := (use.run.perform before).2
    (types (hostModel reached) =
      if .traced ∈ milestones before reached then settle (types (hostModel before))
      else types (hostModel before)) ∧
    (types (hostModel reached) = types (hostModel before) ↔
      (.traced ∈ milestones before reached → Uniform (types (hostModel before)))) := by
  intro before reached
  have treated : Treated types before reached := by
    apply Ends.reached
    apply (ends_use faithful executor session use).mono (fun _ _ => id)
    intro _ _ failed
    exact failed.resolve_right fun ⟨_, stuck⟩ => stuck.unreliable reliable
  cases treated with
  | untouched leads => simp [leads.milestones, leads.types]
  | settled leads => simp [leads.milestones, leads.types, settle_eq_self_iff]

/-- Layers of one type each, of reduced and of full precision. -/
def plainLayers : ParameterTypes :=
  [("fc.weight", .f16), ("fc.bias", .f16), ("norm.weight", .f32)]

/-- A model of such layers was captured and kept its types. -/
theorem captured_host_keeps_plain_layers :
    .traced ∈ milestones (unused nothing plainLayers) (calledOnce nothing plainLayers).2 ∧
      id (hostModel (calledOnce nothing plainLayers).2) =
        id (hostModel (unused nothing plainLayers)) := by
  have traced : .traced ∈ milestones (unused nothing plainLayers)
      (calledOnce nothing plainLayers).2 := by decide +kernel
  have uniform : Uniform (id (hostModel (unused nothing plainLayers))) := by decide +kernel
  refine ⟨traced, ?_⟩
  unfold calledOnce unused
  unfold unused at uniform
  exact (host_keeps_types_iff_uniform (faithful_sketch nothing) reliable_sketch (firstWatcher _)
    (sketched nothing plainLayers) (.call ⟨[], []⟩)).2.mpr fun _ => uniform

/-- A layer with one type of reduced precision and one of full precision. -/
def mixedLayer : ParameterTypes := [("fc.weight", .f16), ("fc.bias", .f32)]

/-- Such a layer comes back with reduced precision only, although every cast did what it should. -/
theorem captured_host_loses_mixed_layer :
    (sketch nothing).model.Faithful id ∧ (sketch nothing).model.Reliable id ∧
      .traced ∈ milestones (unused nothing mixedLayer) (calledOnce nothing mixedLayer).2 ∧
      hostModel (unused nothing mixedLayer) = mixedLayer ∧
      hostModel (calledOnce nothing mixedLayer).2 = [("fc.weight", .f16), ("fc.bias", .f16)] :=
  ⟨faithful_sketch nothing, reliable_sketch, by decide +kernel⟩

/-- A use in which a cast to full precision was refused fails. The layers that were promoted before
it have full precision from then on and are not recognised any more; the types are kept exactly if
there was none. -/
theorem refused_cast_keeps_promoted (faithful : P.model.Faithful types) (executor : Executor P)
    (session : Session P.journaled) (use : Use) (layer : String)
    (refused : .refused layer ∈ milestones ⟨executor.journaled, session⟩
      (use.run.perform ⟨executor.journaled, session⟩).2) :
    let before : Running P.journaled := ⟨executor.journaled, session⟩
    let reached := (use.run.perform before).2
    let earlier := (types (hostModel before)).promotedBefore layer
    (∃ cause, (use.run.perform before).1 = .error cause) ∧
      types (hostModel reached) = (types (hostModel before)).cast earlier .f32 ∧
      (∀ other, (types (hostModel reached)).half? other =
        if other ∈ earlier then none else (types (hostModel before)).half? other) ∧
      (types (hostModel reached) = types (hostModel before) ↔ earlier = []) := by
  intro before reached earlier
  have ends := ends_use faithful executor session use
  have unrefused {state : Running P.journaled} (treated : Treated types before state) :
      .refused layer ∉ milestones before state := by
    cases treated with
    | untouched leads => simp [leads.milestones]
    | settled leads => simp [leads.milestones]
  rcases ended : use.run.perform before with ⟨cause | value, state⟩
  · have same : reached = state := congrArg Prod.snd ended
    obtain ⟨stopped, -, leads⟩ : ∃ stopped, Stuck types stopped before state :=
      (ends.error ended).resolve_left fun treated => unrefused treated (same ▸ refused)
    obtain rfl : layer = stopped := by
      have passed : .refused layer ∈ milestones before state := same ▸ refused
      simpa [leads.milestones] using passed
    rw [same, leads.types]
    exact ⟨⟨cause, rfl⟩, rfl, half?_cast _ _,
      cast_eq_self_iff fun other => half_of_mem_promotedBefore⟩
  · have same : reached = state := congrArg Prod.snd ended
    exact absurd (same ▸ refused) (unrefused (ends.ok ended))

/-- Two layers of reduced precision. -/
def twoLayers : ParameterTypes := [("a.weight", .f16), ("b.weight", .f16)]

/-- The second layer cannot be promoted, so the first one stays promoted. -/
theorem failed_call_keeps_first_promoted :
    .refused "b" ∈ milestones (unused (· == "b") twoLayers) (calledOnce (· == "b") twoLayers).2 ∧
      (∃ cause, (calledOnce (· == "b") twoLayers).1 = .error cause) ∧
      id (hostModel (calledOnce (· == "b") twoLayers).2) =
        (id (hostModel (unused (· == "b") twoLayers))).cast
          ((id (hostModel (unused (· == "b") twoLayers))).promotedBefore "b") .f32 := by
  have refused : .refused "b" ∈ milestones (unused (· == "b") twoLayers)
      (calledOnce (· == "b") twoLayers).2 := by decide +kernel
  refine ⟨refused, ?_⟩
  unfold calledOnce unused at refused ⊢
  have keeps := refused_cast_keeps_promoted (faithful_sketch (· == "b")) (firstWatcher _)
    (sketched (· == "b") twoLayers) (.call ⟨[], []⟩) "b" refused
  exact ⟨keeps.1, keeps.2.1⟩

/-- The model is not what it was: the first layer has full precision now. -/
theorem failed_call_loses_first_type :
    (sketch (· == "b")).model.Faithful id ∧ twoLayers.Uniform ∧
      .refused "b" ∈ milestones (unused (· == "b") twoLayers) (calledOnce (· == "b") twoLayers).2 ∧
      (calledOnce (· == "b") twoLayers).1.isOk = false ∧
      hostModel (unused (· == "b") twoLayers) = twoLayers ∧
      hostModel (calledOnce (· == "b") twoLayers).2 =
        [("a.weight", .f32), ("b.weight", .f16)] :=
  ⟨faithful_sketch _, by decide +kernel⟩

end Executor

end Offload
