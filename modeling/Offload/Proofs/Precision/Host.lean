/-
# The model on the host

Where the model is that an executor compiles, and what casting one of its layers comes to. The
types of a model are a function of the model that its operations are faithful to: they are what a
reading of the parameters shows, and a cast converts its layer as a whole or changes nothing. A
reliable model never refuses a cast. On the way of a capture it then suffices to follow two things,
the types that the model has come to and the milestones that the journal shows.
-/

import Offload.Proofs.Executor.Host
import Offload.Proofs.Precision.Calm
import Offload.Proofs.Precision.Types

namespace Offload

open Attempt

namespace ModelInterface

variable {World Model : Type}

/-- The operations of a model keep to its types. A cast of one of its layers converts the whole
layer, or it was one to full precision and changes no type. -/
structure Faithful (interface : ModelInterface World Model) (types : Model → ParameterTypes) :
    Prop where
  parameters : ∀ model world, (interface.parameters model).Ends world
    (fun parameters _ => ParameterTypes.of parameters = types model) fun _ _ => True
  layers : ∀ model, interface.layers model =
    do return LayerInfo.ofParameters (← interface.parameters model)
  cast : ∀ model world layer dtype, layer ∈ (types model).names →
    (interface.castLayer layer dtype).Ends (model, world)
      (fun _ part => types part.1 = (types model).cast [layer] dtype)
      fun _ part => dtype = .f32 ∧ types part.1 = types model

/-- No cast of a layer of the model is refused. -/
def Reliable (interface : ModelInterface World Model) (types : Model → ParameterTypes) : Prop :=
  ∀ model world layer dtype, layer ∈ (types model).names →
    (interface.castLayer layer dtype).Ends (model, world) (fun _ _ => True) fun _ _ => False

/-- Asking for the layers of a faithful model gives its types by layer. -/
theorem Faithful.ends_layers {interface : ModelInterface World Model}
    {types : Model → ParameterTypes} (faithful : interface.Faithful types) (model : Model)
    (world : World) :
    (interface.layers model).Ends world (fun layers _ => layers = (types model).layers)
      fun _ _ => True := by
  rw [faithful.layers, ends_bind]
  refine (faithful.parameters model world).mono (fun parameters _ read => ?_) fun _ _ => id
  rw [ends_pure, ParameterTypes.ofParameters_eq, read]

end ModelInterface

namespace Executor

variable {P : Platform}

/-- The model that a running executor compiles. -/
def hostModel (running : Running P.journaled) : P.Model :=
  match running.executor.subject with
  | .own model => model
  | .shared handle => (running.session.cell handle).model
  | .training handle _ => (running.session.cell handle).model

/-- Nobody holds the model that a running executor compiles; its own it holds itself. -/
def isFree (running : Running P.journaled) : Bool :=
  match running.executor.subject with
  | .own _ => true
  | .shared handle => (running.session.cell handle).isFree
  | .training handle _ => (running.session.cell handle).isFree

theorem hostModel_eq (running : Running P.journaled) : hostModel running = host running := by
  rw [hostModel, host]
  cases running.executor.subject <;> rfl

theorem isFree_eq (running : Running P.journaled) : isFree running = hostFree running := by
  rw [isFree, hostFree]
  cases running.executor.subject <;> rfl

/-- The milestones that were passed from one state to another. -/
def milestones (before reached : Running P.journaled) : List Milestone :=
  (reached.session.world.entries.drop before.session.world.entries.length).filterMap
    Entry.milestone?

theorem Still.hostModel {before reached : Running P.journaled} (still : Still before reached)
    (journaled : before.executor.subject.IsJournaled) :
    hostModel reached = hostModel before := by
  rw [hostModel_eq, hostModel_eq]
  exact host_eq_of_same still.subject (still.calm journaled).model

theorem Still.isFree {before reached : Running P.journaled} (still : Still before reached)
    (journaled : before.executor.subject.IsJournaled) : isFree reached = isFree before := by
  rw [isFree_eq, isFree_eq]
  exact hostFree_eq_of_same still.subject (still.calm journaled).free

/-- Some milestones were passed on the way, and the model has come to have some types. -/
structure Leads (types : P.Model → ParameterTypes) (passed : List Milestone)
    (result : ParameterTypes) (before reached : Running P.journaled) : Prop where
  journaled : reached.executor.subject.IsJournaled
  free : isFree reached = isFree before
  entries : ∃ more, reached.session.world.entries = before.session.world.entries ++ more ∧
    more.filterMap Entry.milestone? = passed
  types : types (hostModel reached) = result

section Leads

variable {types : P.Model → ParameterTypes} {passed passed' : List Milestone}
  {result result' : ParameterTypes} {before middle reached : Running P.journaled}

/-- What leads to some types passed exactly the milestones it names. -/
theorem Leads.milestones (leads : Leads types passed result before reached) :
    milestones before reached = passed := by
  obtain ⟨more, grown, shown⟩ := leads.entries
  rw [Executor.milestones, grown, List.drop_left, shown]

theorem Leads.trans (leads : Leads types passed result before middle)
    (later : Leads types passed' result' middle reached) :
    Leads types (passed ++ passed') result' before reached := by
  obtain ⟨more, grown, shown⟩ := leads.entries
  obtain ⟨more', grown', shown'⟩ := later.entries
  refine ⟨later.journaled, later.free.trans leads.free, ⟨more ++ more', ?_, ?_⟩, later.types⟩
  · rw [grown', grown, List.append_assoc]
  · rw [List.filterMap_append, shown, shown']

/-- A still step leads to the types there were. -/
theorem Still.leads (still : Still before reached) (types : P.Model → ParameterTypes)
    (journaled : before.executor.subject.IsJournaled) :
    Leads types [] (types (Executor.hostModel before)) before reached := by
  obtain ⟨-, more, grown, plain⟩ := (still.calm journaled).journal
  refine ⟨still.subject ▸ journaled, still.isFree journaled, ⟨more, grown, ?_⟩, ?_⟩
  · rw [List.filterMap_eq_nil_iff]
    exact fun entry there => (plain entry there).2
  · rw [still.hostModel journaled]

/-- A still step after the others changes nothing of what they lead to. -/
theorem Leads.still (leads : Leads types passed result before middle)
    (still : Still middle reached) :
    Leads types passed result before reached := by
  have stays := leads.trans (still.leads types leads.journaled)
  rwa [List.append_nil, leads.types] at stays

/-- A still step before the others changes nothing of what they lead to. -/
theorem Leads.after (leads : Leads types passed result middle reached) (still : Still before middle)
    (journaled : before.executor.subject.IsJournaled) : Leads types passed result before reached :=
  (still.leads types journaled).trans leads

end Leads

section Cast

variable {types : P.Model → ParameterTypes} {running : Running P.journaled}

/-- What a cast of a layer of a faithful model leaves on the journaled platform. -/
private theorem ends_modelCast (faithful : P.model.Faithful types) {layer : String} {dtype : DType}
    (state : P.Model × Journaled P.World) (listed : layer ∈ (types state.1).names) :
    (P.journaled.model.castLayer layer dtype).Ends state
      (fun _ part => types part.1 = (types state.1).cast [layer] dtype ∧
        ∃ world, part.2 = state.2.asked (.castLayer layer dtype) true world)
      fun _ part => (dtype = .f32 ∧ types part.1 = types state.1 ∧ ¬ P.model.Reliable types) ∧
        ∃ world, part.2 = state.2.asked (.castLayer layer dtype) false world := by
  have casts := faithful.cast state.1 state.2.world layer dtype listed
  apply (Journaled.ends_notingBeside _ _ state).mono
  · rintro _ _ ⟨part, ended, rfl⟩
    exact ⟨casts.ok ended, part.2, rfl⟩
  · rintro cause _ ⟨part, ended, rfl⟩
    obtain ⟨full, kept⟩ := casts.error ended
    refine ⟨⟨full, kept, fun reliable => ?_⟩, part.2, rfl⟩
    exact (reliable state.1 state.2.world layer dtype listed).error ended

/-- The model on the host and the world, as a part of a running executor. -/
def hostFocus : Focus (Running P.journaled) (P.Model × Journaled P.World) where
  get running := (hostModel running, running.session.world)
  set part running :=
    match running.executor.subject with
    | .own _ =>
        { executor := { running.executor with subject := .own part.1 }
          session := { running.session with world := part.2 } }
    | .shared handle =>
        { running with session := (Session.modelFocus handle).set part running.session }
    | .training handle _ =>
        { running with session := (Session.modelFocus handle).set part running.session }

theorem hostFocus_eq : hostFocus (P := P) = hostPart := by
  have gets : (hostFocus (P := P)).get = (hostPart (P := P.journaled)).get :=
    funext fun running => congrArg (·, running.session.world) (hostModel_eq running)
  have sets : (hostFocus (P := P)).set = (hostPart (P := P.journaled)).set := by
    funext part running
    rw [hostFocus, hostPart]
    dsimp only
    cases running.executor.subject <;> rfl
  exact congrArg₂ Focus.mk gets sets

/-- A cast changes the model on the host unless somebody holds it. -/
theorem castLayer_eq (layer : String) (dtype : DType) :
    castLayer (P := P.journaled) layer dtype = (do
      if isFree (← get) then Attempt.within hostFocus (P.journaled.model.castLayer layer dtype)
      else throw .held) := by
  simp only [castLayer_eq_hostPart, isFree_eq, hostFocus_eq]

@[simp]
theorem world_hostFocus (part : P.Model × Journaled P.World) (running : Running P.journaled) :
    (hostFocus.set part running).session.world = part.2 := by
  rw [hostFocus_eq]
  exact (replaces_hostPart part running).world

/-- A model that was put on the host is found there, and as free as the one before it. -/
theorem hostFocus_set (part : P.Model × Journaled P.World) {running : Running P.journaled}
    (journaled : running.executor.subject.IsJournaled) :
    (hostFocus.set part running).executor.subject.IsJournaled ∧
      isFree (hostFocus.set part running) = isFree running ∧
      hostModel (hostFocus.set part running) = part.1 := by
  have replaces := replaces_hostPart part running
  rw [hostFocus_eq, isFree_eq, isFree_eq, hostModel_eq]
  refine ⟨?_, replaces.free, replaces.host⟩
  rw [hostPart]
  dsimp only
  split
  · exact ⟨.own part.1, rfl⟩
  · exact journaled
  · exact journaled

/-- What asking something of the model on the host leads to. -/
private theorem leads_asked {operation : Operation} {succeeded : Bool} {world : P.World}
    {result : ParameterTypes} {part : P.Model × Journaled P.World}
    (journaled : running.executor.subject.IsJournaled)
    (asked : part.2 = running.session.world.asked operation succeeded world)
    (came : types part.1 = result) :
    Leads types (Entry.milestone? ⟨operation, succeeded, running.session.world.demanding⟩).toList
      result running (hostFocus.set part running) := by
  obtain ⟨stays, free, model⟩ := hostFocus_set part journaled
  refine ⟨stays, free, ⟨_, by rw [world_hostFocus, asked]; rfl, ?_⟩, by rw [model, came]⟩
  simp [List.filterMap_cons]
  split <;> simp [*]

/-- Casting a layer converts it and needs the model to be free. A failure leaves the types: either
the model was held, or the cast was refused, which the journal shows. -/
theorem ends_castLayer (faithful : P.model.Faithful types)
    (journaled : running.executor.subject.IsJournaled) {layer : String} {dtype : DType}
    (listed : layer ∈ (types (hostModel running)).names) :
    (castLayer layer dtype).Ends running
      (fun _ reached => isFree running = true ∧
        Leads types [] ((types (hostModel running)).cast [layer] dtype) running reached)
      fun _ reached => (isFree running = false ∧ Still running reached) ∨
        (¬ P.model.Reliable types ∧ dtype = .f32 ∧
          Leads types [.refused layer] (types (hostModel running)) running reached) := by
  rw [castLayer_eq, ends_bind, ends_get]
  split
  · next free =>
      refine ends_within.mpr ((ends_modelCast faithful (hostFocus.get running) listed).mono ?_ ?_)
      · rintro _ part ⟨converted, world, beside⟩
        have leads := leads_asked journaled beside converted
        rw [Entry.milestone?_cast] at leads
        exact ⟨free, leads⟩
      · intro _ part ended
        obtain ⟨⟨rfl, kept, unreliable⟩, world, beside⟩ := ended
        exact .inr ⟨unreliable, rfl, leads_asked journaled beside kept⟩
  · next held => exact .inl ⟨by simpa using held, refl_of Still running⟩

end Cast

end Executor

end Offload
