/-
# How chronicles grow

Reading a model is not told of, a cast is told of with the model it found and the model it left,
and a capture is told of when it is over. `Passes` follows a running executor through such steps:
it says what was told on the way, which model the executor has come to compile, and that all else
about it is as it was.
-/

import Offload.Proofs.Chronicle.Basic
import Offload.Proofs.Executor.Compiling
import Offload.Proofs.Executor.Host
import Offload.Proofs.Session.Reading

namespace Offload

open Attempt

variable {P : Platform}

namespace Chronicled

/-- Nothing was told. -/
def Silent (before reached : Chronicled P) : Prop := reached.happenings = before.happenings

instance : IsPreorder (Chronicled P) Silent where
  refl _ := rfl
  trans _ _ _ first second := second.trans first

theorem obeys_focus_silent {α : Type} (step : Attempt P.World α) :
    (Attempt.within focus step).Obeys Silent :=
  fun _ => rfl

theorem reads_silent (P : Platform) : P.chronicled.ReadsWithin Silent where
  forward _ _ := obeys_focus_silent _
  parameters _ := obeys_focus_silent _
  layers _ := obeys_focus_silent _
  refresh _ := obeys_focus_silent _
  copyToHost _ := obeys_focus_silent _

end Chronicled

/-- The loss of a platform is not told of on the platform with its chronicle. -/
theorem Subject.lossWithin_silent (subject : Subject P) :
    subject.chronicled.LossWithin Chronicled.Silent := by
  intro loss there output target
  cases subject with
  | own model => exact nomatch there
  | shared handle => exact nomatch there
  | training handle loss =>
      obtain ⟨plain, -, rfl⟩ := Option.map_eq_some_iff.mp there
      exact Chronicled.obeys_focus_silent _

section Capture

variable {σ α : Type} {rel : σ → σ → Prop} [IsPreorder σ rel] {answers : ModelAnswers σ}
  {focus : Focus σ (Chronicled P)} {happening : Result α → Happening P}

/-- A capture that is told of stays within what its questions obey and what changing the world
obeys, and then tells its outcome. The induction is on the dialogue. -/
theorem Capture.ends_chronicled (layers : answers.layers.Obeys rel)
    (parameters : answers.parameters.Obeys rel)
    (forward : ∀ inputs, (answers.forward inputs).Obeys rel)
    (moves : ∀ state world, rel state (focus.set { focus.get state with world := world } state))
    (dialogue : Capture P.World α) (state : σ) :
    ∃ outcome middle, rel state middle ∧
      ((dialogue.chronicled happening).run answers focus).perform state =
        (outcome, focus.set ((focus.get middle).tell (happening outcome)) middle) := by
  have asks {β : Type} {question : Attempt σ β} (obeys : question.Obeys rel)
      {rest : Result β → Capture P.World α}
      (ih : ∀ answer state, ∃ outcome middle, rel state middle ∧
        (((rest answer).chronicled happening).run answers focus).perform state =
          (outcome, focus.set ((focus.get middle).tell (happening outcome)) middle)) (state : σ) :
      ∃ outcome middle, rel state middle ∧
        (question.observe >>= fun answer =>
          ((rest answer).chronicled happening).run answers focus).perform state =
          (outcome, focus.set ((focus.get middle).tell (happening outcome)) middle) := by
    rw [perform_bind, perform_observe]
    obtain ⟨outcome, middle, stays, ended⟩ :=
      ih (question.perform state).1 (question.perform state).2
    exact ⟨outcome, middle, trans_of rel (obeys state) stays, ended⟩
  induction dialogue generalizing state with
  | done outcome => exact ⟨outcome, state, refl_of rel state, rfl⟩
  | look next ih => exact ih (focus.get state).world state
  | leave world next ih =>
      obtain ⟨outcome, middle, stays, ended⟩ :=
        ih (focus.set { focus.get state with world := world } state)
      exact ⟨outcome, middle, trans_of rel (moves state world) stays, ended⟩
  | signature next ih => exact ih (answers.signature state) state
  | layers next ih => exact asks layers ih state
  | parameters next ih => exact asks parameters ih state
  | forward inputs next ih => exact asks (forward inputs) ih state

end Capture

namespace Executor

open Chronicled Session

/-- The model that a running executor compiles on a platform with a chronicle. -/
abbrev hostOf (running : Running P.chronicled) : P.Model := host (P := P.chronicled) running

/-- Some things were told on the way, and the executor is what it was but for its subject, which is
held as before. -/
structure Passes (told : List (Happening P)) (before reached : Running P.chronicled) : Prop where
  executor : reached.executor = { before.executor with subject := reached.executor.subject }
  loss : reached.executor.subject.LossWithin Silent
  free : hostFree reached = hostFree before
  happenings : reached.session.world.happenings = before.session.world.happenings ++ told

section Passes

variable {told told' : List (Happening P)} {before middle reached : Running P.chronicled}

theorem passes_refl {running : Running P.chronicled}
    (loss : running.executor.subject.LossWithin Silent) : Passes [] running running :=
  ⟨rfl, loss, rfl, (List.append_nil _).symm⟩

theorem Passes.trans (passes : Passes told before middle) (later : Passes told' middle reached) :
    Passes (told ++ told') before reached where
  executor := by rw [later.executor, passes.executor]
  loss := later.loss
  free := later.free.trans passes.free
  happenings := by rw [later.happenings, passes.happenings, List.append_assoc]

/-- A graph is compiled with the role and the optimizer that the executor had. -/
theorem Passes.requestOf (passes : Passes told before reached) (table : OptionTable)
    (inputs : Binding) :
    requestOf reached.executor table inputs = requestOf before.executor table inputs := by
  rw [passes.executor]
  rfl

/-- Where models were read at most, the model is the one it was. -/
theorem Reads.hostOf (reads : Reads Silent before reached)
    (loss : before.executor.subject.LossWithin Silent) : hostOf reached = hostOf before :=
  host_eq_of_same (congrArg Executor.subject reads.executor) (reads.session loss).model

/-- Where models were read at most, nothing was told. -/
theorem Reads.passes (reads : Reads Silent before reached)
    (loss : before.executor.subject.LossWithin Silent) : Passes [] before reached := by
  have unmoved := reads.session loss
  have free : hostFree reached = hostFree before :=
    hostFree_eq_of_same (congrArg Executor.subject reads.executor) unmoved.free
  have happenings := unmoved.world
  exact ⟨by rw [reads.executor], reads.executor ▸ loss, free, by rwa [List.append_nil]⟩

theorem Passes.after (passes : Passes told middle reached) (reads : Reads Silent before middle)
    (loss : before.executor.subject.LossWithin Silent) : Passes told before reached :=
  (reads.passes loss).trans passes

end Passes

section Steps

variable {running : Running P.chronicled} (loss : running.executor.subject.LossWithin Silent)

include loss

/-- What the application is told is not told of in the chronicle. -/
theorem ends_notify_told {notice : Notice} {good : Unit → Running P.chronicled → Prop}
    {bad : Error → Running P.chronicled → Prop}
    (next : ∀ noticed, Passes [] running noticed → hostOf noticed = hostOf running →
      good () noticed) :
    (notify notice).Ends running good bad := by
  have reads : Reads Silent running
      ((notify notice : Attempt (Running P.chronicled) Unit).perform running).2 :=
    obeys_notify_reads notice running
  exact next _ (reads.passes loss) (reads.hostOf loss)

/-- A model that was put in place is found there, and what was told of it was told. -/
private theorem passes_hostPart (model : P.Model) (world : P.World) (happening : Happening P) :
    Passes [happening] running (hostPart.set
        (model, { running.session.world with world := world }.tell happening) running) ∧
      hostOf (hostPart.set (model, { running.session.world with world := world }.tell happening)
        running) = model := by
  have replaces := replaces_hostPart (P := P.chronicled)
    (model, { running.session.world with world := world }.tell happening) running
  refine ⟨⟨replaces.executor, ?_, replaces.free, ?_⟩, replaces.host⟩
  · rw [Subject.LossWithin, replaces.loss]
    exact loss
  · rw [replaces.world]
    rfl

/-- A cast is told of with the model it found and the model it left. It is as the model's own cast,
unless somebody holds the model. -/
theorem ends_castLayer_told (layer : String) (dtype : DType) :
    (castLayer (P := P.chronicled) layer dtype).Ends running
      (fun _ reached => hostFree running = true ∧
        Passes [.castLayer (hostOf running) layer dtype (.ok ()) (hostOf reached)] running reached ∧
        ∃ world world', (P.model.castLayer layer dtype).perform (hostOf running, world) =
          (.ok (), hostOf reached, world'))
      fun cause reached =>
        if hostFree running then
          Passes [.castLayer (hostOf running) layer dtype (.error cause) (hostOf reached)] running
            reached
        else cause = .held ∧ reached = running := by
  rw [ends_castLayer_iff]
  split
  · next free =>
      unfold Ends
      rw [Chronicled.perform_tellingBeside]
      rcases ended : (P.model.castLayer layer dtype).perform
        (hostOf running, running.session.world.world) with ⟨cause | _, model, world⟩
      · obtain ⟨passes, left⟩ := passes_hostPart loss model world
          (.castLayer (hostOf running) layer dtype (.error cause) model)
        simp only
        rw [left]
        exact passes
      · obtain ⟨passes, left⟩ := passes_hostPart loss model world
          (.castLayer (hostOf running) layer dtype (.ok ()) model)
        simp only
        rw [left]
        exact ⟨free, passes, _, _, ended⟩
  · exact ⟨rfl, rfl⟩

/-- A capture by running the model is told of when it is over, and leaves the model. -/
theorem ends_trace_told (inputs : List Tree) :
    (capture (P.chronicled.trace inputs)).observe.Ends running
      (fun (captured : Result P.Graph) reached =>
        Passes [.trace inputs captured] running reached ∧ hostOf reached = hostOf running)
      fun _ _ => False := by
  have moves (state : Running P.chronicled) (world : P.World) :
      Reads Silent state
        (worldFocus.set { worldFocus.get state with world := world } state) :=
    ⟨rfl, fun _ => ⟨rfl, fun _ => rfl, fun _ => rfl⟩⟩
  obtain ⟨outcome, middle, reads, ended⟩ := (P.trace inputs).ends_chronicled
    (obeys_layers_reads (reads_silent P)) (obeys_parameters_reads (reads_silent P))
    (obeys_forward_reads (reads_silent P)) moves running
  have tells : Passes [.trace inputs outcome] middle
      (worldFocus.set ((worldFocus.get middle).tell (.trace inputs outcome)) middle) :=
    ⟨rfl, (reads.passes loss).loss, rfl, rfl⟩
  unfold Ends
  rw [perform_observe, capture, ended]
  exact ⟨tells.after reads loss, reads.hostOf loss⟩

/-- A cast in a graph is told of with the graph it found and the graph it left. -/
theorem ends_castGraphLayer_told (graph : P.Graph) (layer : String) (dtype : DType) :
    (onGraph (P := P.chronicled) (P.chronicled.castGraphLayer layer dtype)).Ends (graph, running)
      (fun _ reached => Passes [.castGraphLayer graph layer dtype (.ok ()) reached.1] running
        reached.2)
      fun cause reached => Passes [.castGraphLayer graph layer dtype (.error cause) reached.1]
        running reached.2 := by
  have part : (graphFocus (P := P.chronicled)).get (graph, running) =
      (graph, running.session.world) := rfl
  rw [onGraph, ends_within, part]
  unfold Ends
  rw [Chronicled.perform_tellingBeside]
  generalize (P.castGraphLayer layer dtype).perform (graph, running.session.world.world) = ended
  obtain ⟨cause | _, left, world⟩ := ended <;> exact ⟨rfl, loss, rfl, rfl⟩

/-- Compiling a captured graph is told of with its outcome. -/
theorem ends_compileTraced_told (graph : P.Graph) (request : CompileRequest) :
    (onWorld (P := P.chronicled) (P.chronicled.compileTraced graph request)).Ends running
      (fun executable reached =>
        Passes [.compileTraced graph request (.ok executable)] running reached)
      fun cause reached =>
        Passes [.compileTraced graph request (.error cause)] running reached := by
  rw [onWorld, ends_within]
  unfold Ends
  rw [Chronicled.perform_telling]
  generalize (P.compileTraced graph request).perform (worldFocus.get running).world = ended
  obtain ⟨cause | _, world⟩ := ended <;> exact ⟨rfl, loss, rfl, rfl⟩

end Steps

end Executor

end Offload
