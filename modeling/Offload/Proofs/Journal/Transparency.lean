/-
# Watching changes nothing

An executor of a platform can be put to work on the platform with a journal. What comes of it is
the same: every call, every compilation and every copy gives the same result or fails for the same
cause, and the session of the one still shows the session of the other. So what a journal tells of
a run happened in the run without it.
-/

import Offload.Proofs.Journal.Sessions

namespace Offload

open Attempt

variable {P : Platform}

theorem Subject.similar_watching_iff {subject : Subject P.journaled} {plain : Subject P} :
    subject.Similar P.watching plain ↔ subject = plain.journaled := by
  constructor
  · rintro (⟨rfl⟩ | ⟨handle⟩ | ⟨handle, losses⟩)
    · rfl
    · rfl
    · exact congrArg (Subject.training handle) (Option.rel_eq_iff_eq_map.mp losses)
  · rintro rfl
    cases plain with
    | own model => exact .own rfl
    | shared handle => exact .shared handle
    | training handle loss => exact .training handle (Option.rel_eq_iff_eq_map.mpr rfl)

theorem Executor.similar_watching_iff {executor : Executor P.journaled} {plain : Executor P} :
    executor.Similar P.watching plain ↔ executor = plain.journaled := by
  constructor
  · rintro ⟨subject, options, training, device, optimizer, requested, refreshesSeen, warned⟩
    exact Executor.mk.injEq .. ▸ ⟨Subject.similar_watching_iff.mp subject, options, training, device,
      optimizer, requested, refreshesSeen, warned rfl⟩
  · rintro rfl
    exact ⟨Subject.similar_watching_iff.mpr rfl, rfl, rfl, rfl, rfl, rfl, rfl, fun _ => rfl⟩

namespace Executor

/-- An executor at work on a platform, with a journal and without. -/
def Shows (running : Running P.journaled) (plain : Running P) : Prop :=
  running.executor = plain.executor.journaled ∧ Session.Shows running.session plain.session

/-- Running executors differ in the journal and the tags only when they cannot be told apart. -/
theorem shows_iff (running : Running P.journaled) (plain : Running P) :
    Shows running plain ↔ running.Similar P.watching plain := by
  rw [Shows, Session.shows_iff, ← Executor.similar_watching_iff]
  exact ⟨fun ⟨executor, session⟩ => ⟨executor, session⟩,
    fun ⟨executor, session⟩ => ⟨executor, session⟩⟩

/-- A call comes to the same with a journal and without. -/
theorem watched_call (arguments : CallArguments) :
    (call (P := P.journaled) arguments).Alike Eq Shows (call arguments) := by
  have same : CallArguments.Aligned Likeness.exact.Held arguments arguments :=
    .refl (Value.Relates.refl fun _ => rfl) _
  have calls := @alike_call _ _ _ P.watching _ _ same
  exact (calls.mono fun _ _ => Output.Relates.eq).of_iff shows_iff

/-- A compilation comes to the same with a journal and without. -/
theorem watched_compile (arguments : CallArguments) :
    (compile (P := P.journaled) arguments).Alike Eq Shows (compile arguments) := by
  have same : CallArguments.Aligned Likeness.exact.Held arguments arguments :=
    .refl (Value.Relates.refl fun _ => rfl) _
  exact (@alike_compile _ _ _ P.watching _ _ same).of_iff shows_iff

/-- Fetching the weights comes to the same with a journal and without. -/
theorem watched_copyToHost :
    (copyToHost (P := P.journaled)).Alike Eq Shows copyToHost :=
  (@alike_copyToHost _ _ _ P.watching).of_iff shows_iff

/-- Sending the weights comes to the same with a journal and without. -/
theorem watched_copyToDevice :
    (copyToDevice (P := P.journaled)).Alike Eq Shows copyToDevice :=
  (@alike_copyToDevice _ _ _ P.watching).of_iff shows_iff

section Recruit

/-- An executor on the platform with a journal and the executor itself. -/
def Embeds (executor : Executor P.journaled) (plain : Executor P) : Prop :=
  executor = plain.journaled

theorem alike_make (subject : Subject P) (options : Options) (training : Bool)
    (optimizer : Option Descriptor) :
    (make subject.journaled options training optimizer).Alike Embeds Session.Shows
      (make subject options training optimizer) :=
  alike_bind_eq Session.alike_addDevice fun _ => alike_pure rfl

/-- Wrapping a model for inference comes to the same with a journal and without. -/
theorem alike_inferenceModel (handle : Handle) (options : Options) :
    (inferenceModel (P := P.journaled) handle options).Alike Embeds Session.Shows
      (inferenceModel handle options) :=
  alike_bind_eq (alike_ofResult _) fun _ => alike_make (.shared handle) _ false none

/-- Wrapping a model for training comes to the same with a journal and without. -/
theorem alike_trainingModel (handle : Handle) (options : Options) (loss : Option (Loss P))
    (optimizer : Option HostOptimizer) :
    (trainingModel handle options (loss.map Loss.journaled) optimizer).Alike Embeds Session.Shows
      (trainingModel handle options loss optimizer) := by
  apply alike_bind_eq (alike_ofResult _)
  intro options
  apply alike_bind_eq (alike_ofResult _)
  intro descriptor
  apply alike_bind (alike_make (.training handle loss) options true (some descriptor))
  intro executor plain embeds
  rw [show executor = plain.journaled from embeds]
  exact alike_bind_eq (Session.alike_installHook handle (.device plain.device)) fun _ =>
    alike_pure rfl

end Recruit

end Executor

end Offload
