/-
# What an application asks of an executor

All tasks that an application can give an executor, and how each may end. A call ends as `Called`
says; setting an optimizer changes what is requested or nothing; any other task is a chain of
deeds. The copies that are tasks of their own are written down as demanded.
-/

import Offload.Proofs.Executor.Record

namespace Offload

open Attempt Session

/-- What an application can ask of an executor. -/
inductive Task where
  | call (arguments : CallArguments)
  | compile (arguments : CallArguments)
  | setOptimizer (optimizer : HostOptimizer)
  | markHostModified
  | copyToHost
  | copyToDevice
  | programText

/-- The task is a copy by hand. -/
def Task.isCopy : Task → Bool
  | copyToHost => true
  | copyToDevice => true
  | _ => false

/-- The task neither calls, nor sets an optimizer, nor copies or marks by hand. -/
def Task.isPlain : Task → Bool
  | compile _ => true
  | programText => true
  | _ => false

variable {P : Platform}

/-- A running executor whose entries are now written as demanded, or no longer. -/
def Running.demand (demanding : Bool) (running : Running P.journaled) : Running P.journaled :=
  { running with session := running.session.demand demanding }

namespace Executor

variable {α : Type}

/-- Do something that the application demands itself. -/
def demanding (step : Attempt (Running P.journaled) α) : Attempt (Running P.journaled) α := do
  modify (Running.demand true)
  let outcome ← step.observe
  modify (Running.demand false)
  Attempt.ofResult outcome

/-- Do what is asked; only a call has something to give back. -/
def runTask : Task → Attempt (Running P.journaled) (Option Output)
  | .call arguments => do return some (← call arguments)
  | .compile arguments => do
      compile arguments
      return none
  | .setOptimizer optimizer => do
      setOptimizer optimizer
      return none
  | .markHostModified => do
      markHostModified
      return none
  | .copyToHost => do
      demanding copyToHost
      return none
  | .copyToDevice => do
      demanding copyToDevice
      return none
  | .programText => do
      let _ ← programText
      return none

/-- How a task may end. -/
inductive Worked (before : Running P.journaled) :
    Task → Result (Option Output) → Running P.journaled → Prop where
  | called (arguments : CallArguments) (outcome : Result Output) (reached : Running P.journaled)
      (called : Called arguments before outcome reached) :
      Worked before (.call arguments) (outcome.map some) reached
  | accepted (optimizer : HostOptimizer) (descriptor : Descriptor)
      (described : Descriptor.ofHost optimizer = .ok descriptor) :
      Worked before (.setOptimizer optimizer) (.ok none)
        { before with executor := { before.executor with requested := some descriptor } }
  | rejected (optimizer : HostOptimizer) (cause : Error) :
      Worked before (.setOptimizer optimizer) (.error cause) before
  /-- The weights on the device were marked as older than those on the host. -/
  | marked :
      Worked before .markHostModified (.ok none) { before with
        session := { before.session with
          devices := before.session.devices.update before.executor.device.number fun device =>
            { device with deviceStale := true } } }
  | plain (task : Task) (outcome : Result (Option Output)) (binding : Binding)
      (reached : Running P.journaled) (kind : task.isPlain = true)
      (deeds : Deeds binding before reached) : Worked before task outcome reached
  | copied (task : Task) (outcome : Result (Option Output)) (binding : Binding)
      (reached : Running P.journaled) (kind : task.isCopy = true)
      (deeds : Deeds binding (before.demand true) reached) :
      Worked before task outcome (reached.demand false)

section Ends

variable {before : Running P.journaled}

/-- A step that uses the executable is a deed if there is one, and otherwise does nothing. -/
theorem ends_copyToDevice_deeds (demanded : before.session.world.demanding = true) :
    (copyToDevice (P := P.journaled)).Ends before (fun _ reached => Deeds default before reached)
      fun _ reached => Deeds default before reached := by
  cases there : executable? before with
  | some tagged =>
      exact (ends_sending default there (.inl demanded) (.inl demanded)).mono
        (fun _ _ ended => .single ended.1) fun _ _ ended => .single ended.1
  | none =>
      rw [copyToDevice, ends_bind, ends_get, ends_onSession]
      refine (ends_copying _ _ _).mono ?_ ?_
      · rintro _ _ ⟨tagged, world, found, -, rfl⟩
        cases there.symm.trans found
      · rintro cause _ (⟨-, -, rfl⟩ | ⟨tagged, world, found, -, rfl⟩)
        · exact .refl
        · cases there.symm.trans found

theorem ends_copyToHost_deeds (demanded : before.session.world.demanding = true) :
    (copyToHost (P := P.journaled)).Ends before (fun _ reached => Deeds default before reached)
      fun _ reached => Deeds default before reached := by
  rw [copyToHost, ends_bind, ends_get, ends_onSession]
  refine (ends_copying _ _ _).mono ?_ ?_
  · rintro _ _ ⟨tagged, world, there, -, rfl⟩
    exact .single (.fetches tagged world there demanded)
  · rintro cause _ (⟨-, -, rfl⟩ | ⟨tagged, world, there, -, rfl⟩)
    · exact .refl
    · exact .single (.misses tagged world there demanded)

theorem ends_programText_deeds :
    (programText (P := P.journaled)).Ends before (fun _ reached => Deeds default before reached)
      fun _ reached => Deeds default before reached := by
  rw [programText, ends_bind, ends_get, ends_onSession, ends_withExecutable]
  split
  · next tagged there =>
      apply (ends_onWorld_noted _ _ _).mono
      · rintro _ _ ⟨world, -, rfl⟩
        exact .single (.reads tagged true world there)
      · rintro cause _ ⟨world, -, rfl⟩
        exact .single (.reads tagged false world there)
  · exact .refl

/-- What is demanded is done while entries are written so. -/
theorem ends_demanding {step : Attempt (Running P.journaled) α}
    {rel : Running P.journaled → Prop}
    (ends : step.Ends (before.demand true) (fun _ reached => rel reached) fun _ reached => rel reached) :
    (demanding step).Ends before (fun _ reached => ∃ ready, rel ready ∧ reached = ready.demand false)
      fun _ reached => ∃ ready, rel ready ∧ reached = ready.demand false := by
  simp only [demanding, ends_bind, ends_modify, ends_observe]
  refine ends.mono (fun value ready within => ?_) fun cause ready within => ?_
  · exact ⟨ready, within, rfl⟩
  · exact ⟨ready, within, rfl⟩

/-- Every task ends as it may. -/
theorem ends_runTask (task : Task) (journaled : before.executor.subject.IsJournaled) :
    (runTask task).Ends before (fun output reached => Worked before task (.ok output) reached)
      fun cause reached => Worked before task (.error cause) reached := by
  cases task with
  | call arguments =>
      rw [runTask, ends_bind]
      exact (ends_call_called arguments journaled).mono
        (fun output reached called => .called arguments (.ok output) reached called)
        fun cause reached called => .called arguments (.error cause) reached called
  | compile arguments =>
      rw [runTask, ends_bind]
      refine (ends_compile_deeds arguments journaled).mono ?_ ?_ <;>
      · rintro _ reached ⟨binding, deeds⟩
        exact .plain _ _ binding reached rfl deeds
  | setOptimizer optimizer =>
      rw [runTask, ends_bind, setOptimizer, ends_bind]
      exact ends_ofResult (fun descriptor described => .accepted optimizer descriptor described)
        fun cause _ => .rejected optimizer cause
  | markHostModified =>
      rw [runTask, ends_bind, markHostModified, ends_bind, ends_get, ends_onSession, markDeviceStale,
        updateDevice, ends_modify]
      exact .marked
  | copyToHost =>
      rw [runTask, ends_bind]
      refine (ends_demanding (ends_copyToHost_deeds rfl)).mono ?_ ?_ <;>
      · rintro _ _ ⟨ready, deeds, rfl⟩
        exact .copied _ _ default ready rfl deeds
  | copyToDevice =>
      rw [runTask, ends_bind]
      refine (ends_demanding (ends_copyToDevice_deeds rfl)).mono ?_ ?_ <;>
      · rintro _ _ ⟨ready, deeds, rfl⟩
        exact .copied _ _ default ready rfl deeds
  | programText =>
      rw [runTask, ends_bind]
      exact ends_programText_deeds.mono (fun _ reached deeds => .plain _ _ default reached rfl deeds)
        fun _ reached deeds => .plain _ _ default reached rfl deeds

theorem worked_runTask (task : Task) (journaled : before.executor.subject.IsJournaled) :
    Worked before task ((runTask task).perform before).1 ((runTask task).perform before).2 := by
  have ends := ends_runTask task journaled
  unfold Ends at ends
  split at ends <;> rename_i ended <;> rw [ended] <;> exact ends

end Ends

end Executor

end Offload
