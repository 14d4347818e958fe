/-
# Wrapping a model

A wrapper gets a device that was not given out before, so nothing that the session knows of other
devices changes. Watching a model changes nothing else; training it makes the new device the hook
through which the host is refreshed, and as nothing was trained so far, host and trainer start
out with the same weights.
-/

import Offload.Proofs.Weights.Call

namespace Offload

open Attempt

variable {P : Platform} {handle : Handle} {lead : Option DeviceId} {session : Session P.journaled}

namespace Session

theorem Balanced.housing (balanced : Balanced handle lead session)
    (housed : ∀ id, lead = some id → id.number < session.devices.next) :
    Balanced handle lead (housing session) where
  hook := balanced.hook
  refreshes := balanced.refreshes
  ahead := balanced.ahead
  stale id chosen := by
    rw [housing_device_of_lt (housed id chosen)]
    exact balanced.stale id chosen
  untrained none := balanced.untrained fun id chosen => by
    rw [← housing_device_of_lt (housed id chosen)]
    exact none id chosen
  registered :=
    { role := fun id tagged there =>
        balanced.registered.role id tagged (executable_of_housing there)
      numbered := fun id tagged there =>
        balanced.registered.numbered id tagged (executable_of_housing there)
      distinct := fun id other tagged tagged' there there' =>
        balanced.registered.distinct id other tagged tagged' (executable_of_housing there)
          (executable_of_housing there') }
  unmarked id := by
    rw [housing_device]
    split
    · rfl
    · exact balanced.unmarked id
  undemanded := balanced.undemanded
  upToDate := balanced.upToDate

/-- A model that nobody trained gets its trainer. -/
theorem Balanced.appoint {id : DeviceId} (balanced : Balanced handle none session)
    (untouched : session.device id = default) :
    Balanced handle (some id) { session with
      models := session.models.update handle.number fun cell =>
        { cell with hook := some (.device id) } } := by
  have newest : session.ledger.host = session.ledger.trainer := balanced.untrained fun _ => nofun
  exact
    { hook := by rw [cell_update, if_pos rfl]; rfl
      refreshes := by rw [cell_update, if_pos rfl]; exact balanced.refreshes
      ahead := balanced.ahead
      stale := fun other chosen => by
        obtain rfl : id = other := by simpa using chosen
        change (session.device id).hostStale = true ↔ _
        rw [untouched]
        exact ⟨nofun, fun behind => absurd newest (Nat.ne_of_lt behind)⟩
      untrained := fun _ => newest
      registered :=
        { role := fun other tagged there => by
            refine ⟨fun trains => absurd ((balanced.registered.role other tagged there).mp trains)
              nofun, fun chosen => ?_⟩
            obtain rfl : id = other := by simpa using chosen
            have none : (session.device id).executable = some tagged := there
            rw [untouched] at none
            exact nomatch none
          numbered := balanced.registered.numbered
          distinct := balanced.registered.distinct }
      unmarked := balanced.unmarked
      undemanded := balanced.undemanded
      upToDate := balanced.upToDate }

end Session

namespace Executor

open Session

/-- A wrapper is attached to the model of a session, and its device was given out. -/
structure Enrolled (handle : Handle) (lead : Option DeviceId) (session : Session P.journaled)
    (executor : Executor P.journaled) : Prop where
  attached : executor.Attached handle lead session
  housed : executor.device.number < session.devices.next

/-- Wrappers stay enrolled in a session that spares their devices. -/
theorem Enrolled.spared {handle : Handle} {lead : Option DeviceId}
    {before reached : Session P.journaled} {executor : Executor P.journaled}
    {touched : DeviceId → Prop} (enrolled : Enrolled handle lead before executor)
    (spares : Spares touched before reached) (apart : ¬ touched executor.device) :
    Enrolled handle lead reached executor where
  attached := enrolled.attached.spared spares apart
  housed := spares.next ▸ enrolled.housed

/-- A wrapper that was carried stays enrolled. -/
theorem Enrolled.carried {handle : Handle} {lead : Option DeviceId}
    {before reached : Running P.journaled}
    (enrolled : Enrolled handle lead before.session before.executor)
    (carried : Carried handle lead before reached) :
    Enrolled handle lead reached.session reached.executor where
  attached := carried.attached
  housed := by
    rw [carried.device]
    exact carried.spares.next ▸ enrolled.housed

/-- Wrappers stay enrolled when a device is added. -/
theorem Enrolled.housing {executor : Executor P.journaled}
    (enrolled : Enrolled handle lead session executor) :
    Enrolled handle lead (housing session) executor where
  attached :=
    { serves := enrolled.attached.serves
      follows := enrolled.attached.follows
      leads := enrolled.attached.leads
      role := enrolled.attached.role
      seen := fun watches tagged there =>
        enrolled.attached.seen watches tagged (executable_of_housing there) }
  housed := Nat.lt_succ_of_lt enrolled.housed

/-- A wrapper that was just made to watch is enrolled. -/
theorem enrolled_watcher (housed : ∀ id, lead = some id → id.number < session.devices.next)
    (options : Options) :
    Enrolled handle lead (housing session)
      (recruit (.shared handle) options false none session) where
  attached :=
    { serves := .inl rfl
      follows := fun _ => rfl
      leads := nofun
      role := ⟨nofun, fun chosen => absurd (housed _ chosen) (Nat.lt_irrefl _)⟩
      seen := fun _ _ there => by
        rw [recruit_fresh] at there
        exact nomatch there }
  housed := Nat.lt_succ_self _

/-- A wrapper that was just made to train is enrolled, and leads. -/
theorem enrolled_trainer (options : Options) (loss : Option (Loss P))
    (optimizer : Option Descriptor)
    {reached : Session P.journaled} (devices : reached.devices = (housing session).devices) :
    Enrolled handle (some ⟨session.devices.next⟩) reached
      (recruit (.training handle (loss.map Loss.journaled)) options true optimizer session) where
  attached :=
    { serves := .inr ⟨loss, rfl⟩
      follows := nofun
      leads := fun _ => rfl
      role := ⟨fun _ => rfl, fun _ => rfl⟩
      seen := nofun }
  housed := by
    rw [devices]
    exact Nat.lt_succ_self _

/-- Those who watch a model that nobody trains go on when it gets its trainer. -/
theorem Enrolled.appoint {executor : Executor P.journaled} {reached : Session P.journaled}
    (enrolled : Enrolled handle none session executor)
    (devices : reached.devices = (Session.housing session).devices)
    (world : reached.world = session.world) :
    Enrolled handle (some ⟨session.devices.next⟩) reached executor := by
  have watches : executor.training = false := by
    rw [Bool.eq_false_iff, ne_eq, enrolled.attached.role]
    exact nofun
  have added := enrolled.housing
  refine ⟨?_, devices ▸ added.housed⟩
  refine
    { serves := added.attached.serves
      follows := added.attached.follows
      leads := added.attached.leads
      role := ⟨fun trains => absurd (watches.symm.trans trains) nofun, fun chosen => ?_⟩
      seen := fun watches tagged there => ?_ }
  · have same : session.devices.next = executor.device.number :=
      congrArg DeviceId.number (Option.some.inj chosen)
    exact absurd enrolled.housed (same ▸ Nat.lt_irrefl _)
  · rw [Session.device, devices] at there
    rw [Session.ledger, world]
    exact added.attached.seen watches tagged there

theorem ends_inferenceModel (handle : Handle) (options : Options) (session : Session P.journaled) :
    (inferenceModel handle options).Ends session
      (fun executor reached => reached = housing session ∧
        ∃ options, executor = recruit (.shared handle) options false none session)
      fun _ reached => reached = session := by
  rw [inferenceModel, ends_bind]
  exact ends_ofResult (fun options _ => ⟨rfl, options, rfl⟩) fun _ _ => rfl

theorem ends_trainingModel (handle : Handle) (options : Options) (loss : Option (Loss P.journaled))
    (optimizer : Option HostOptimizer) (session : Session P.journaled) :
    (trainingModel handle options loss optimizer).Ends session
      (fun executor reached =>
        (∃ options descriptor,
          executor = recruit (.training handle loss) options true (some descriptor) session) ∧
        reached = { housing session with
          models := session.models.update handle.number fun cell =>
            { cell with hook := some (.device executor.device) } })
      fun _ reached => reached = session := by
  rw [trainingModel, ends_bind]
  refine ends_ofResult (fun options _ => ?_) fun _ _ => rfl
  rw [ends_bind]
  refine ends_ofResult (fun descriptor _ => ?_) fun _ _ => rfl
  exact ⟨⟨options, descriptor, rfl⟩, rfl⟩

end Executor

end Offload
