/-
# What an executor prepares

Up to the point where a graph is handed over, compiling leaves an executor as it was but for its
subject, whose own model may have been cast, and for what it told; its session ran errands. A
civil executor, whose platform and loss never claim that an executable is missing, prepares without
failing for that.
-/

import Offload.Proofs.Executor.Compiling
import Offload.Proofs.Session.Errand

namespace Offload

namespace Subject

variable {P : Platform} {civil : Prop} {capturing : Bool}

open Session

theorem abides_layers (subject : Subject P) (spares : civil → P.Spares .notCompiled) :
    subject.journaled.layers.Abides (errandsVerdict capturing civil) := by
  cases subject with
  | own model => exact (tolerates_errands spares).layers model
  | shared handle => exact Session.abides_layers (tolerates_errands spares) handle
  | training handle loss => exact Session.abides_layers (tolerates_errands spares) handle

theorem abides_parameters (subject : Subject P) (spares : civil → P.Spares .notCompiled) :
    subject.journaled.parameters.Abides (errandsVerdict capturing civil) := by
  cases subject with
  | own model => exact (tolerates_errands spares).parameters model
  | shared handle => exact Session.abides_parameters spares handle
  | training handle loss => exact abides_parametersAsIs (tolerates_errands spares) handle

theorem abides_forward (subject : Subject P) (spares : civil → P.Spares .notCompiled)
    (losses : civil → subject.journaled.Spares .notCompiled) (inputs : List Tree) :
    (subject.journaled.forward inputs).Abides (errandsVerdict capturing civil) := by
  cases subject with
  | own model => exact (tolerates_errands spares).forward model inputs
  | shared handle => exact Session.abides_forward spares handle inputs
  | training handle loss =>
      refine abides_trainingForward (tolerates_errands spares) handle loss ?_ inputs
      intro other same
      exact abides_loss fun holds => losses holds other.journaled (by rw [same]; rfl)

end Subject

namespace Executor

open Attempt Session

variable {P : Platform} {α : Type} {capturing : Bool}

/-- The executor is what it was, but for its subject and its warnings. -/
def SameButSubject (before reached : Executor P) : Prop :=
  reached = { before with subject := reached.subject, warned := reached.warned }

/-- The subject has the same loss and follows the same model; it may be another model of its own,
but never if it trains one. -/
structure Succeeds (before reached : Subject P.journaled) : Prop where
  trains : ∀ handle loss, before = .training handle loss → reached = before
  loss : reached.loss? = before.loss?
  followed : reached.followed? = before.followed?
  journaled : before.IsJournaled → reached.IsJournaled

/-- The executor is what it was, but for its subject and its warnings, and its session ran errands,
which are captures only if that is allowed. -/
structure Prepares (capturing : Bool) (before reached : Running P.journaled) : Prop where
  executor : SameButSubject before.executor reached.executor
  subject : Succeeds before.executor.subject reached.executor.subject
  errands : before.executor.subject.IsJournaled → Errands capturing before.session reached.session

instance : IsPreorder (Running P.journaled) (Prepares capturing) where
  refl _ := ⟨rfl, ⟨fun _ _ _ => rfl, rfl, rfl, id⟩, fun _ => .refl⟩
  trans first second third earlier later :=
    { executor := by
        have same : third.executor = _ := later.executor
        rw [SameButSubject, same, show second.executor = _ from earlier.executor]
      subject :=
        { trains := fun handle loss same =>
            have kept := earlier.subject.trains handle loss same
            (later.subject.trains handle loss (kept.trans same)).trans kept
          loss := later.subject.loss.trans earlier.subject.loss
          followed := later.subject.followed.trans earlier.subject.followed
          journaled := later.subject.journaled ∘ earlier.subject.journaled }
      errands := fun journaled =>
        (earlier.errands journaled).trans (later.errands (earlier.subject.journaled journaled)) }

theorem Prepares.toCapture {before reached : Running P.journaled}
    (prepares : Prepares false before reached) : Prepares capturing before reached :=
  ⟨prepares.executor, prepares.subject, fun journaled => (prepares.errands journaled).toCapture⟩

/-- Nothing outside the library claims that an executable is missing, and only compiled devices are
marked as ahead of the host. -/
structure Civil (running : Running P.journaled) : Prop where
  platform : P.Spares .notCompiled
  subject : running.executor.subject.Spares .notCompiled
  journaled : running.executor.subject.IsJournaled
  supplied : running.session.Supplied

theorem Prepares.civil {before reached : Running P.journaled}
    (prepares : Prepares capturing before reached) (civil : Civil before) : Civil reached where
  platform := civil.platform
  subject own has := civil.subject own (prepares.subject.loss ▸ has)
  journaled := prepares.subject.journaled civil.journaled
  supplied := (prepares.errands civil.journaled).supplied civil.supplied

/-- What is done prepares, and a civil executor does not fail for a missing executable. -/
def preparing (capturing : Bool) : Verdict (Running P.journaled) :=
  .barring (Prepares capturing) Civil Prepares.civil .notCompiled

/-- Errands of the session prepare, and leave the executor as it is. -/
theorem prepares_session {running : Running P.journaled} {session : Session P.journaled}
    (errands : running.executor.subject.IsJournaled → Errands capturing running.session session) :
    Prepares capturing running { running with session := session } :=
  ⟨rfl, ⟨fun _ _ _ => rfl, rfl, rfl, id⟩, errands⟩

theorem Tells.prepares {before reached : Running P.journaled} (tells : Tells before reached) :
    Prepares capturing before reached := by
  obtain ⟨notices, warned, rfl⟩ := tells
  exact ⟨rfl, ⟨fun _ _ _ => rfl, rfl, rfl, id⟩, fun _ =>
    .single (.turns before.session.world.world notices before.session.models fun _ => rfl)⟩

/-- What is done for a subject of the platform prepares if it runs errands; of other subjects
nothing is said. -/
theorem ends_preparing {step : Attempt (Session P.journaled) α} {running : Running P.journaled}
    (runs : ∀ plain : Subject P, running.executor.subject = plain.journaled →
      step.Abides (errandsVerdict capturing
        (P.Spares .notCompiled ∧ plain.journaled.Spares .notCompiled))) :
    (onSession step).Ends running (fun _ reached => (preparing capturing).good running reached)
      ((preparing capturing).bad running) := by
  apply ends_onSession.mpr
  by_cases journaled : running.executor.subject.IsJournaled
  · obtain ⟨plain, same⟩ := journaled
    refine (runs plain same running.session).mono
      (fun _ session errands => prepares_session fun _ => errands) ?_
    intro cause session failed
    exact ⟨prepares_session fun _ => failed.1, fun civil =>
      failed.2 ⟨⟨civil.platform, same ▸ civil.subject⟩, civil.supplied⟩⟩
  · refine (ends_somehow _ _).mono (fun _ session _ => ?_) fun cause session _ => ?_
    · exact prepares_session fun there => absurd there journaled
    · exact ⟨prepares_session fun there => absurd there journaled, fun civil =>
        absurd civil.journaled journaled⟩

/-- A question to the subject prepares if it runs errands for every subject of the platform. -/
theorem abides_question {question : Subject P.journaled → Attempt (Session P.journaled) α}
    (abides : ∀ plain : Subject P, (question plain.journaled).Abides
      (errandsVerdict capturing (P.Spares .notCompiled ∧ plain.journaled.Spares .notCompiled))) :
    (do onSession (question (← get).executor.subject)).Abides (preparing capturing) := by
  intro running
  rw [ends_bind, ends_get]
  exact ends_preparing fun plain same => same ▸ abides plain

/-- Casting a layer of the subject prepares: its own model may become another one. -/
theorem abides_castLayer (layer : String) (dtype : DType) :
    (castLayer (P := P.journaled) layer dtype).Abides (preparing capturing) := by
  intro running
  have shared (handle : Handle) (subject : Subject P.journaled)
      (same : running.executor.subject = subject) :
      (onRest (Session.castLayer handle layer dtype) : Attempt (Subject P.journaled × _) Unit).Ends
        (subject, running.session)
        (fun _ part => (preparing capturing).good running (subjectFocus.set part running))
        fun cause part =>
          (preparing capturing).bad running cause (subjectFocus.set part running) := by
    have casts : (Session.castLayer (P := P.journaled) handle layer dtype).Abides
        (errandsVerdict capturing (P.Spares .notCompiled)) :=
      Session.abides_castLayer id handle layer dtype
    rw [onRest, ends_within, ← same]
    refine (casts running.session).mono (fun _ session errands => prepares_session fun _ => errands) ?_
    intro cause session failed
    exact ⟨prepares_session fun _ => failed.1, fun civil =>
      failed.2 ⟨civil.platform, civil.supplied⟩⟩
  rw [castLayer, ends_within, Subject.castLayer, ends_bind, ends_get]
  simp only [subjectFocus] at shared ⊢
  cases same : running.executor.subject with
  | own model =>
      have prepares (succeeded : Bool) (part : P.Model × P.World) : Prepares capturing running
          { executor := { running.executor with subject := .own part.1 }
            session := running.session.asked (.castLayer layer dtype) succeeded part.2 } :=
        { executor := rfl
          subject := ⟨fun _ _ trains => (by cases same.symm.trans trains), by rw [same]; rfl,
            by rw [same]; rfl, fun _ => ⟨.own part.1, rfl⟩⟩
          errands := fun _ => .single (.asks (.castLayer layer dtype) succeeded part.2 rfl) }
      rw [ends_within]
      refine (Journaled.ends_notingBeside _ _ _).mono ?_ ?_
      · rintro _ _ ⟨part, -, rfl⟩
        exact prepares true part
      · rintro cause _ ⟨part, ended, rfl⟩
        exact ⟨prepares false part, fun civil => (civil.platform.castLayer layer dtype _).error ended⟩
  | shared handle => exact shared handle _ same
  | training handle loss => exact shared handle _ same

/-- Work on a captured graph prepares. -/
theorem abides_onGraph {operation : Operation} {step : Attempt (P.Graph × P.World) Unit}
    (errand : operation.isErrand capturing = true)
    (spares : P.Spares .notCompiled → step.Abides (.sparing .notCompiled)) :
    (onGraph (P := P.journaled) (Journaled.notingBeside operation step)).Abides
      (preparing capturing).onRest := by
  intro state
  have prepares (succeeded : Bool) (world : P.World) :
      Prepares capturing state.2
        (worldFocus.set (state.2.session.world.asked operation succeeded world) state.2) :=
    prepares_session fun _ => .single (.asks operation succeeded world errand)
  rw [onGraph, ends_within]
  refine (Journaled.ends_notingBeside operation step _).mono ?_ ?_
  · rintro _ _ ⟨part, -, rfl⟩
    exact prepares true part.2
  · rintro cause _ ⟨part, ended, rfl⟩
    exact ⟨prepares false part.2, fun civil => (spares civil.platform _).error ended⟩

section Capture

theorem abides_layersAnswer : (answers (P := P.journaled)).layers.Abides (preparing capturing) :=
  abides_question fun plain => plain.abides_layers And.left

theorem abides_parametersAnswer :
    (answers (P := P.journaled)).parameters.Abides (preparing capturing) :=
  abides_question fun plain => plain.abides_parameters And.left

theorem abides_forwardAnswer (inputs : List Tree) :
    ((answers (P := P.journaled)).forward inputs).Abides (preparing capturing) :=
  abides_question fun plain => plain.abides_forward And.left And.right inputs

/-- The world may turn while something is prepared. -/
theorem prepares_turning (running : Running P.journaled) (world : P.World) :
    Prepares capturing running
      (worldFocus.set { worldFocus.get running with world := world } running) :=
  prepares_session fun _ =>
    .single (.turns world running.session.notices running.session.models fun _ => rfl)

/-- A capture prepares, whatever it asks. -/
theorem abides_capture {operation : Operation} (errand : operation.isErrand capturing = true)
    (dialogue : Capture P.World P.Graph)
    (spares : P.Spares .notCompiled → dialogue.Spares .notCompiled) :
    (capture (P := P.journaled) (dialogue.journaled operation)).Abides (preparing capturing) :=
  Capture.abides_journaled abides_layersAnswer abides_parametersAnswer abides_forwardAnswer
    prepares_turning (fun running succeeded => prepares_session fun _ =>
      .single (.asks operation succeeded running.session.world.world errand))
    dialogue fun _ civil => spares civil.platform

/-- What a capture asks prepares without a capture; in the end it writes its entry. -/
theorem capture_prepares (operation : Operation) (dialogue : Capture P.World P.Graph)
    (running : Running P.journaled) :
    ∃ middle succeeded, Prepares false running middle ∧
      ((capture (P := P.journaled) (dialogue.journaled operation)).perform running).2 =
        worldFocus.set ((worldFocus.get middle).write operation succeeded) middle := by
  have obeys {β : Type} {question : Attempt (Running P.journaled) β}
      (abides : question.Abides (preparing false)) : question.Obeys (Prepares false) :=
    abides.reached
  exact dialogue.writes_journaled (obeys abides_layersAnswer) (obeys abides_parametersAnswer)
    (fun inputs => obeys (abides_forwardAnswer inputs)) prepares_turning running

end Capture

theorem patient_preparing : Patient (P := P.journaled) (preparing capturing) where
  notices _ notices := Tells.prepares ⟨notices, _, rfl⟩
  layers := abides_layersAnswer
  cast := abides_castLayer
  inferInput position sample := abides_onGraph rfl fun spares => spares.inferInput position sample
  castGraph layer dtype := abides_onGraph rfl fun spares => spares.castGraphLayer layer dtype

/-- What prepares without a capture prepares. -/
theorem preparing_le : (preparing (P := P) false).Le (preparing true) where
  good prepares := prepares.toCapture
  bad failed := ⟨failed.1.toCapture, failed.2⟩

theorem abides_frontend (tracing : Bool) (views : Views) :
    (capture (frontend P.journaled tracing views)).Abides (preparing true) := by
  unfold frontend
  split
  · exact abides_capture rfl _ fun spares => spares.trace _
  · exact abides_capture rfl P.script fun spares => spares.script

end Executor

end Offload
