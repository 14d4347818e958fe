/-
# Steps of a session

What the session's own definitions do, as later proofs need it: changing a device or a model leaves
all others alone, an executable is used if there is one, and something asked of a journaled
platform leaves an entry and nothing else.
-/

import Offload.Proofs.Journal.Growth

namespace Offload.Session

variable {P : Platform}

@[simp]
theorem device_update (session : Session P) (id other : DeviceId) (change : Device P → Device P) :
    device { session with devices := session.devices.update id.number change } other =
      if other = id then change (session.device id) else session.device other := by
  obtain ⟨number⟩ := id
  obtain ⟨number'⟩ := other
  simp [device]

@[simp]
theorem cell_update (session : Session P) (handle other : Handle)
    (change : ModelCell P → ModelCell P) :
    cell { session with models := session.models.update handle.number change } other =
      if other = handle then change (session.cell handle) else session.cell other := by
  obtain ⟨number⟩ := handle
  obtain ⟨number'⟩ := other
  simp [cell]

/-- The executable of a device is used if there is one. -/
theorem ends_withExecutable {α : Type} {id : DeviceId} {use : P.Executable → Attempt P.World α}
    {session : Session P} {good : α → Session P → Prop} {bad : Error → Session P → Prop} :
    (withExecutable id use).Ends session good bad ↔
      match (session.device id).executable with
      | some executable => (onWorld (use executable)).Ends session good bad
      | none => bad .notCompiled session := by
  simp only [withExecutable, Attempt.ends_bind, Attempt.ends_get]
  cases (session.device id).executable <;> rfl

/-- Something was asked of a journaled platform, with an outcome. -/
def asked (operation : Operation) (succeeded : Bool) (world : P.World)
    (session : Session P.journaled) : Session P.journaled :=
  { session with world := session.world.asked operation succeeded world }

@[simp]
theorem asked_entries (operation : Operation) (succeeded : Bool) (world : P.World)
    (session : Session P.journaled) :
    (session.asked operation succeeded world).world.entries =
      session.world.entries ++ [⟨operation, succeeded, session.world.demanding⟩] := rfl

/-- The number that the next executable gets. -/
def compiled (session : Session P.journaled) : Nat := session.world.entries.countP Entry.compiles

/-- Something was asked of the executable of a device, and with its success the device changed. -/
def did (operation : Operation) (world : P.World) (id : DeviceId)
    (change : Device P.journaled → Device P.journaled) (session : Session P.journaled) :
    Session P.journaled :=
  { session.asked operation true world with
    devices := session.devices.update id.number change }

section Did

variable {operation : Operation} {world : P.World} {id : DeviceId}
  {change : Device P.journaled → Device P.journaled} {session : Session P.journaled}

@[simp]
theorem did_entries : (session.did operation world id change).world.entries =
    session.world.entries ++ [⟨operation, true, session.world.demanding⟩] := rfl

@[simp]
theorem did_compiled : (session.did operation world id change).compiled =
    session.compiled + [(⟨operation, true, session.world.demanding⟩ : Entry)].countP
      Entry.compiles :=
  List.countP_append

@[simp]
theorem did_device (other : DeviceId) : (session.did operation world id change).device other =
    if other = id then change (session.device id) else session.device other :=
  device_update session id other change

@[simp]
theorem did_cell (handle : Handle) :
    (session.did operation world id change).cell handle = session.cell handle := rfl

end Did

/-- A step of the platform that is noted comes to its own end, and leaves its entry and nothing
else. -/
theorem ends_onWorld_noted {α : Type} (operation : Operation) (step : Attempt P.World α)
    (session : Session P.journaled) :
    (onWorld (P := P.journaled) (Journaled.noting operation step)).Ends session
      (fun value reached => ∃ world, step.perform session.world.world = (.ok value, world) ∧
        reached = session.asked operation true world)
      fun cause reached => ∃ world, step.perform session.world.world = (.error cause, world) ∧
        reached = session.asked operation false world := by
  rw [onWorld, Attempt.ends_within]
  exact (Journaled.ends_noting operation step _).mono
    (fun _ _ ⟨world, ended, same⟩ => ⟨world, ended, by rw [same]; rfl⟩)
    fun _ _ ⟨world, ended, same⟩ => ⟨world, ended, by rw [same]; rfl⟩

/-- A step of the platform that is noted leaves its entry and nothing else. -/
theorem ends_onWorld_noting {α : Type} (operation : Operation) (step : Attempt P.World α)
    (session : Session P.journaled) :
    (onWorld (P := P.journaled) (Journaled.noting operation step)).Ends session
      (fun _ reached => ∃ world, reached = session.asked operation true world)
      fun _ reached => ∃ world, reached = session.asked operation false world :=
  (ends_onWorld_noted operation step session).mono (fun _ _ ⟨world, _, same⟩ => ⟨world, same⟩)
    fun _ _ ⟨world, _, same⟩ => ⟨world, same⟩

/-- A copy that is noted changes the device if it succeeds. It fails for want of an executable, or
as the platform does. -/
theorem ends_copying {operation : Tag → Operation} {step : P.Executable → Attempt P.World Unit}
    (id : DeviceId) (change : Device P.journaled → Device P.journaled)
    (session : Session P.journaled) :
    (do
      withExecutable (P := P.journaled) id fun tagged =>
        Journaled.noting (operation tagged.tag) (step tagged.executable)
      updateDevice id change : Attempt (Session P.journaled) Unit).Ends session
      (fun _ reached => ∃ tagged world, (session.device id).executable = some tagged ∧
        (step tagged.executable).perform session.world.world = (.ok (), world) ∧
        reached = session.did (operation tagged.tag) world id change)
      fun cause reached =>
        ((session.device id).executable = none ∧ cause = .notCompiled ∧ reached = session) ∨
        ∃ tagged world, (session.device id).executable = some tagged ∧
          (step tagged.executable).perform session.world.world = (.error cause, world) ∧
          reached = session.asked (operation tagged.tag) false world := by
  rw [Attempt.ends_bind, ends_withExecutable]
  split
  · next tagged there =>
      apply (ends_onWorld_noted _ _ session).mono
      · rintro _ _ ⟨world, ended, rfl⟩
        exact ⟨tagged, world, there, ended, rfl⟩
      · rintro cause _ ⟨world, ended, rfl⟩
        exact .inr ⟨tagged, world, there, ended, rfl⟩
  · next none => exact .inl ⟨none, rfl, rfl⟩

section Housing

variable {session : Session P.journaled}

/-- A session with one more device, on which nothing was compiled. -/
def housing (session : Session P.journaled) : Session P.journaled :=
  { session with devices := (session.devices.add default).2 }

theorem housing_device (session : Session P.journaled) (id : DeviceId) :
    (housing session).device id =
      if id.number = session.devices.next then default else session.device id := by
  simp [housing, Session.device]

/-- The device of a wrapper is not the new one. -/
theorem housing_device_of_lt {id : DeviceId} (housed : id.number < session.devices.next) :
    (housing session).device id = session.device id := by
  rw [housing_device, if_neg (Nat.ne_of_lt housed)]

/-- An executable of a session with one more device was there before. -/
theorem executable_of_housing {id : DeviceId} {tagged : Tagged P.Executable}
    (there : ((housing session).device id).executable = some tagged) :
    (session.device id).executable = some tagged := by
  rw [housing_device] at there
  split at there
  · exact nomatch there
  · exact there

end Housing

/-- What is asked of the platform from now on is demanded, or no longer. -/
def demand (demanding : Bool) (session : Session P.journaled) :
    Session P.journaled :=
  { session with world := { session.world with demanding := demanding } }

end Offload.Session

namespace Offload.Executor

open Session

variable {P : Platform}

/-- A new wrapper, as it is before it was ever called. -/
def recruit (subject : Subject P.journaled) (options : Options) (training : Bool)
    (optimizer : Option Descriptor) (session : Session P.journaled) : Executor P.journaled where
  subject := subject
  options := options
  training := training
  device := ⟨session.devices.next⟩
  optimizer := optimizer
  requested := optimizer
  refreshesSeen := 0
  warned := false

/-- A new wrapper has no executable. -/
theorem recruit_fresh (subject : Subject P.journaled) (options : Options) (training : Bool)
    (optimizer : Option Descriptor) (session : Session P.journaled) :
    (housing session).device (recruit subject options training optimizer session).device =
      default :=
  (housing_device session _).trans (if_pos rfl)

theorem perform_make (subject : Subject P.journaled) (options : Options) (training : Bool)
    (optimizer : Option Descriptor) (session : Session P.journaled) :
    (make subject options training optimizer).perform session =
      (.ok (recruit subject options training optimizer session), housing session) := rfl

end Offload.Executor
