/-
# Wrappers of one model

An executor is attached to a model if it watches or trains it, and if its count of refreshes is
the one its device had reached when it last received weights. Compilations and calls of attached
executors carry the balance: afterwards the session is balanced, the executor is attached, and all
other devices are spared. On the way to an execution a watching executor has gone through a
refresh and a send, so it computes with the newest weights the host has seen.
-/

import Offload.Proofs.Weights.Refresh

namespace Offload.Executor

open Attempt Session

variable {P : Platform} {handle : Handle} {trainer : Option DeviceId}

/-- A subject that is the model, or the model with a loss. -/
def Serves (handle : Handle) (subject : Subject P.journaled) : Prop :=
  subject = .shared handle ∨
    ∃ loss : Option (Loss P), subject = .training handle (loss.map Loss.journaled)

/-- What a wrapper of the model, or the trainer itself, knows of its session. -/
structure Attached (handle : Handle) (trainer : Option DeviceId) (executor : Executor P.journaled)
    (session : Session P.journaled) : Prop where
  serves : Serves handle executor.subject
  follows : executor.training = false → executor.subject = .shared handle
  leads : executor.training = true → executor.subject.followed? = none
  role : executor.training = true ↔ trainer = some executor.device
  seen : executor.training = false → ∀ tagged,
    (session.device executor.device).executable = some tagged →
      executor.refreshesSeen = session.ledger.refreshesAt tagged.tag.number

/-- An executor stays attached to a session that spares its device. -/
theorem Attached.spared {executor : Executor P.journaled} {before reached : Session P.journaled}
    {touched : DeviceId → Prop} (attached : Attached handle trainer executor before)
    (spares : Spares touched before reached) (apart : ¬ touched executor.device) :
    Attached handle trainer executor reached where
  serves := attached.serves
  follows := attached.follows
  leads := attached.leads
  role := attached.role
  seen watches tagged there := by
    rw [spares.executable _ apart] at there
    rw [spares.refreshesAt _ _ apart there]
    exact attached.seen watches tagged there

/-- What an executor has pushed and requested of optimizers, and its warnings, do not matter. -/
theorem Attached.of_same {executor other : Executor P.journaled} {session : Session P.journaled}
    (attached : Attached handle trainer executor session)
    (subject : other.subject = executor.subject)
    (training : other.training = executor.training) (device : other.device = executor.device)
    (seen : other.refreshesSeen = executor.refreshesSeen) :
    Attached handle trainer other session where
  serves := subject ▸ attached.serves
  follows := by rw [training, subject]; exact attached.follows
  leads := by rw [training, subject]; exact attached.leads
  role := by rw [training, device]; exact attached.role
  seen := by rw [training, device, seen]; exact attached.seen

/-- The session is balanced and the executor attached, and all other devices were spared. -/
structure Carried (handle : Handle) (trainer : Option DeviceId)
    (before reached : Running P.journaled) : Prop where
  balanced : Balanced handle trainer reached.session
  attached : Attached handle trainer reached.executor reached.session
  device : reached.executor.device = before.executor.device
  spares : Spares (· = before.executor.device) before.session reached.session

theorem Carried.trans {first second third : Running P.journaled}
    (earlier : Carried handle trainer first second) (later : Carried handle trainer second third) :
    Carried handle trainer first third where
  balanced := later.balanced
  attached := later.attached
  device := later.device.trans earlier.device
  spares := trans_of (Spares _) earlier.spares (earlier.device ▸ later.spares)

/-- Whoever starts balanced and attached is carried. -/
def Carries (handle : Handle) (trainer : Option DeviceId) (before reached : Running P.journaled) :
    Prop :=
  Balanced handle trainer before.session → Attached handle trainer before.executor before.session →
    Carried handle trainer before reached

instance : IsPreorder (Running P.journaled) (Carries handle trainer) where
  refl running balanced attached := ⟨balanced, attached, rfl, refl_of (Spares _) running.session⟩
  trans _ _ _ first second balanced attached :=
    have carried := first balanced attached
    carried.trans (second carried.balanced carried.attached)

section Quiet

/-- The executor changed in nothing that matters, and its session is steady. -/
structure Quiet (handle : Handle) (trainer : Option DeviceId)
    (before reached : Running P.journaled) : Prop where
  device : reached.executor.device = before.executor.device
  steady : Serves handle before.executor.subject →
    reached.executor = { before.executor with warned := reached.executor.warned } ∧
      Steady handle trainer before.session reached.session

instance : IsPreorder (Running P.journaled) (Quiet handle trainer) where
  refl running := ⟨rfl, fun _ => ⟨rfl, refl_of (Steady _ _) running.session⟩⟩
  trans _ second third first later := by
    refine ⟨later.device.trans first.device, fun serves => ?_⟩
    obtain ⟨same, steady⟩ := first.steady serves
    have served : Serves handle second.executor.subject := by rw [same]; exact serves
    obtain ⟨same', steady'⟩ := later.steady served
    exact ⟨by rw [same', same], trans_of (Steady _ _) steady steady'⟩

theorem Quiet.carries {before reached : Running P.journaled}
    (quiet : Quiet handle trainer before reached) : Carries handle trainer before reached := by
  intro balanced attached
  obtain ⟨same, steady⟩ := quiet.steady attached.serves
  obtain ⟨kept, spares⟩ := steady balanced
  have moved := attached.spared spares id
  refine ⟨kept, ?_, quiet.device, spares.mono fun _ => False.elim⟩
  exact moved.of_same (by rw [same]) (by rw [same]) (by rw [same]) (by rw [same])

theorem Tells.quiet {before reached : Running P.journaled} (tells : Tells before reached) :
    Quiet handle trainer before reached := by
  obtain ⟨notices, warned, rfl⟩ := tells
  have idles : Idles handle before.session { before.session with notices := notices } :=
    ⟨refl_of _ before.session.world, rfl, rfl, rfl⟩
  exact ⟨rfl, fun _ => ⟨rfl, idles.steady⟩⟩

/-- A question to the subject is quiet if it is steady for the subjects that serve the model. -/
theorem obeys_question {α : Type} {question : Subject P.journaled → Attempt (Session P.journaled) α}
    (steady : ∀ subject, Serves handle subject →
      (question subject).Obeys (Steady handle trainer)) :
    (do onSession (question (← get).executor.subject)).Obeys (Quiet handle trainer) :=
  fun running => ⟨rfl, fun serves => ⟨rfl, steady _ serves running.session⟩⟩

theorem obeys_subjectLayers {subject : Subject P.journaled} (serves : Serves handle subject) :
    subject.layers.Obeys (Steady handle trainer) := by
  have steady : (Session.layers (P := P.journaled) handle).Obeys (Steady handle trainer) :=
    (obeys_layers bears_idles handle).mono fun _ _ idles => idles.steady
  rcases serves with rfl | ⟨loss, rfl⟩ <;> exact steady

theorem obeys_subjectParameters {subject : Subject P.journaled} (serves : Serves handle subject) :
    subject.parameters.Obeys (Steady handle trainer) := by
  rcases serves with rfl | ⟨loss, rfl⟩
  · exact obeys_parameters
  · exact (obeys_parametersAsIs bears_idles handle).mono fun _ _ idles => idles.steady

theorem obeys_subjectForward {subject : Subject P.journaled} (serves : Serves handle subject)
    (inputs : List Tree) : (subject.forward inputs).Obeys (Steady handle trainer) := by
  rcases serves with rfl | ⟨loss, rfl⟩
  · exact obeys_forward inputs
  · exact (obeys_trainingForward bears_idles handle loss inputs).mono fun _ _ idles => idles.steady

/-- Casting a layer leaves the subject what it is. -/
theorem obeys_castLayer (layer : String) (dtype : DType) :
    (castLayer (P := P.journaled) layer dtype).Obeys (Quiet handle trainer) := by
  intro running
  refine ⟨rfl, fun serves => ?_⟩
  have steady : Steady handle trainer running.session
      ((Session.castLayer handle layer dtype).perform running.session).2 :=
    (Session.obeys_castLayer layer dtype running.session).steady
  simp only [castLayer, Subject.castLayer, perform_within, subjectFocus, perform_bind, perform_get]
  rcases serves with shared | ⟨loss, trains⟩
  · simp only [shared, perform_onRest]
    exact ⟨trivial, steady⟩
  · simp only [trains, perform_onRest]
    exact ⟨trivial, steady⟩

/-- A capture that is written down is quiet, whatever it asks. -/
theorem obeys_capture {operation : Operation} (idle : ∀ succeeded demanded,
      (⟨operation, succeeded, demanded⟩ : Entry).isIdle) (dialogue : Capture P.World P.Graph) :
    (capture (P := P.journaled) (dialogue.journaled operation)).Obeys (Quiet handle trainer) := by
  have quiet (running : Running P.journaled) (session : Session P.journaled)
      (idles : Idles handle running.session session) :
      Quiet handle trainer running { running with session := session } :=
    ⟨rfl, fun _ => ⟨rfl, idles.steady⟩⟩
  refine Capture.obeys_journaled (obeys_question fun _ => obeys_subjectLayers)
    (obeys_question fun _ => obeys_subjectParameters)
    (fun inputs => obeys_question fun _ serves => obeys_subjectForward serves inputs)
    (fun running world => quiet running
      { running.session with world := { running.session.world with world := world } }
      ⟨⟨rfl, [], (List.append_nil _).symm, by simp⟩, rfl, rfl, rfl⟩)
    (fun running succeeded => quiet running
      { running.session with world := running.session.world.write operation succeeded }
      (idles_asked running.session.world.world running.session (idle _ _))) dialogue

/-- Work on a captured graph leaves an idle entry at most. -/
theorem obeys_onGraph {operation : Operation} {step : Attempt (P.Graph × P.World) Unit}
    (idle : ∀ succeeded demanded, (⟨operation, succeeded, demanded⟩ : Entry).isIdle) :
    (onGraph (P := P.journaled) (Journaled.notingBeside operation step)).Obeys
      (OnRest (Quiet handle trainer)) := by
  have grows : (Journaled.notingBeside operation step).Obeys
      (OnRest (Journaled.Grows fun entry => entry.isIdle)) :=
    Journaled.obeys_notingBeside step idle
  refine obeys_within grows fun state part grows => ?_
  exact ⟨rfl, fun _ => ⟨rfl, Idles.steady ⟨grows, rfl, rfl, rfl⟩⟩⟩

theorem gentle_quiet : Gentle (P := P.journaled) (Quiet handle trainer) where
  device quiet := quiet.device
  tells := Tells.quiet
  layers := obeys_question fun _ => obeys_subjectLayers
  cast := obeys_castLayer
  trace inputs := obeys_capture (fun _ _ => rfl) (P.trace inputs)
  script := obeys_capture (fun _ _ => rfl) P.script
  inferInput _ _ := obeys_onGraph fun _ _ => rfl
  castGraph _ _ := obeys_onGraph fun _ _ => rfl

end Quiet

section Compile

/-- What handing a graph over to a journaled platform leaves in its journal. -/
theorem HandsOver.journaled {before reached : Running P.journaled}
    {outcome : Result (Tagged P.Executable)}
    (handed : HandsOver (P := P.journaled) before outcome reached) :
    match outcome with
    | .ok tagged => ∃ request world,
        tagged.tag = ⟨before.session.compiled, before.executor.training⟩ ∧
          reached = { before with
            session := before.session.asked (.compile tagged.tag request) true world }
    | .error _ => ∃ tag request world, reached = { before with
        session := before.session.asked (.compile tag request) false world } := by
  obtain ⟨compile, graph, request, either, role, -, ended⟩ := handed
  obtain ⟨step, same⟩ : ∃ step, compile graph request = Journaled.compiling request step := by
    rcases either with rfl | rfl
    · exact ⟨P.compileTraced graph request, rfl⟩
    · exact ⟨P.compileScripted graph request, rfl⟩
  have ends : (onWorld (P := P.journaled) (compile graph request)).Ends before
      (fun tagged reached => ∃ world,
        tagged.tag = ⟨before.session.compiled, before.executor.training⟩ ∧
          reached = { before with
            session := before.session.asked (.compile tagged.tag request) true world })
      fun _ reached => ∃ tag world, reached = { before with
        session := before.session.asked (.compile tag request) false world } := by
    rw [same, onWorld, ends_within]
    apply (Journaled.ends_compiling request step _).mono
    · rintro tagged _ ⟨tag, world, -, rfl⟩
      exact ⟨world, by rw [tag, role]; rfl, rfl⟩
    · rintro _ _ ⟨tag, world, -, rfl⟩
      exact ⟨tag, world, rfl⟩
  unfold Ends at ends
  rw [ended] at ends
  cases outcome with
  | ok tagged => exact ⟨request, ends⟩
  | error cause =>
      obtain ⟨tag, world, same⟩ := ends
      exact ⟨tag, request, world, same⟩

/-- Installing an executable that was just compiled. -/
theorem carries_install {running : Running P.journaled} {tagged : Tagged P.Executable}
    {request : CompileRequest} {world : P.World}
    (fresh : (running.session.device running.executor.device).executable = none)
    (tag : tagged.tag = ⟨running.session.compiled, running.executor.training⟩) :
    Carries handle trainer running
      (install tagged { running with
        session := running.session.asked (.compile tagged.tag request) true world }) := by
  intro balanced attached
  have number : tagged.tag.number = running.session.compiled := congrArg Tag.number tag
  have role : tagged.tag.training = running.executor.training := congrArg Tag.training tag
  refine
    { balanced := balanced.compile fresh number (by rw [role]; exact attached.role)
      attached := ?_
      device := rfl
      spares := balanced.spares_compile number }
  refine
    { serves := attached.serves
      follows := attached.follows
      leads := attached.leads
      role := attached.role
      seen := fun watches found there => ?_ }
  change ((running.session.did (.compile tagged.tag request) world running.executor.device
    fun device => { device with executable := some tagged }).device _).executable = _ at there
  change Option.getD _ _ = (running.session.did (.compile tagged.tag request) world
    running.executor.device fun device =>
      { device with executable := some tagged }).ledger.refreshesAt _
  have new : tagged = found := by simpa [install] using there
  have silent : tagged.tag.training = false := role.trans watches
  have follows : running.executor.subject.followed? = some handle := by
    rw [attached.follows watches]
    rfl
  rw [did_ledger, ← new, Ledger.after_compile, Ledger.receive, if_neg (by simp [silent])]
  simp only [follows, Option.map_some, Option.getD_some, Function.update_self]
  exact balanced.refreshes

/-- Compilation carries an executor that has no executable; a success gives it one. -/
theorem ends_compileBinding_carries {running : Running P.journaled} (binding : Binding)
    (fresh : (running.session.device running.executor.device).executable = none)
    (balanced : Balanced handle trainer running.session)
    (attached : Attached handle trainer running.executor running.session) :
    (compileBinding binding).Ends running
      (fun _ reached => Carried handle trainer running reached ∧
        ∃ tagged, (reached.session.device reached.executor.device).executable = some tagged)
      fun _ reached => Carried handle trainer running reached := by
  have gentle : Gentle (P := P.journaled) (Quiet handle trainer) := gentle_quiet
  apply (ends_compileBinding gentle binding running).mono
  · intro _ _ ended
    obtain ⟨before, tagged, handed, quiet, passed, rfl⟩ := ended
    have carried := quiet.carries balanced attached
    obtain ⟨request, world, tag, rfl⟩ := passed.journaled
    have untouched : (before.session.device before.executor.device).executable = none := by
      rw [quiet.device, ((quiet.steady attached.serves).2 balanced).2.executable _ id]
      exact fresh
    refine ⟨carried.trans (carries_install untouched tag carried.balanced carried.attached),
      tagged, ?_⟩
    simp [install]
  · rintro cause reached (quiet | ⟨before, quiet, passed⟩)
    · exact quiet.carries balanced attached
    · have carried := quiet.carries balanced attached
      obtain ⟨tag, request, world, rfl⟩ := passed.journaled
      have idles : Idles handle before.session
          (before.session.asked (.compile tag request) false world) :=
        idles_asked world before.session rfl
      have quiet' : Quiet handle trainer before
          { before with session := before.session.asked (.compile tag request) false world } :=
        ⟨rfl, fun _ => ⟨rfl, idles.steady⟩⟩
      exact carried.trans (quiet'.carries carried.balanced carried.attached)

end Compile

end Offload.Executor
