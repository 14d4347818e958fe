/-
# What compilation leaves

Compilation is a long way that ends with handing a graph over. `Lenient` and `Patient` collect what
a verdict has to put up with on that way beside the capture: notices, questions to the subject,
casts, and work on the captured graph. Whatever such a verdict one picks, and whatever coarser one
the capture abides by, compilation abides by them until the graph is handed over together with its
inputs, and a successful one then gives the device its executable and takes note of the refreshes
it has seen. Relations that do not look at the outcome are the verdicts `Mild` and `Gentle` speak
of.
-/

import Offload.Proofs.Executor.Views

namespace Offload

namespace Promotion

open Attempt

variable {σ : Type} {verdict : Verdict σ}

theorem abides_promoteModel {access : LayerAccess σ} (layers : access.layers.Abides verdict)
    (cast : ∀ layer dtype, (access.cast layer dtype).Abides verdict)
    (report : ∀ layer dtype, (access.report (.promotingLayer layer dtype)).Abides verdict) :
    (promoteModel access).Abides verdict.onRest := by
  refine abides_bind (abides_onRest layers) fun infos => abides_forM infos fun layer _ => ?_
  unfold promoteLayer
  split
  · exact abides_pure _
  · apply abides_bind (abides_onRest (report _ _))
    intro _
    exact abides_bind (abides_onRest (cast _ _)) fun _ =>
      abides_modify fun state => verdict.refl state.2

theorem abides_restore {cast : String → DType → Attempt σ Unit}
    (casts : ∀ layer dtype, (cast layer dtype).Abides verdict) (promotion : Promotion) :
    (promotion.restore cast).Abides verdict :=
  abides_forM _ fun _ _ => casts _ _

theorem obeys_restore {rel : σ → σ → Prop} [IsPreorder σ rel]
    {cast : String → DType → Attempt σ Unit}
    (casts : ∀ layer dtype, (cast layer dtype).Obeys rel) (promotion : Promotion) :
    (promotion.restore cast).Obeys rel :=
  obeys_forM _ fun _ _ => casts _ _

/-- It is recorded alike whether an input was promoted. -/
def SameInputs (before reached : Promotion × σ) : Prop := reached.1.anyInput = before.1.anyInput

instance : IsPreorder (Promotion × σ) SameInputs where
  refl _ := rfl
  trans _ _ _ first second := second.trans first

/-- Promoting the layers of a model promotes no input. -/
theorem obeys_promoteModel_sameInputs (access : LayerAccess σ) :
    (promoteModel access).Obeys SameInputs := by
  have rest {α : Type} (step : Attempt σ α) : (onRest step : Attempt (Promotion × σ) α).Obeys
      SameInputs := fun _ => rfl
  refine obeys_bind (rest _) fun infos => obeys_forM infos fun layer _ => ?_
  unfold promoteLayer
  split
  · exact obeys_pure _
  · exact obeys_bind (rest _) fun _ => obeys_bind (rest _) fun _ _ => rfl

end Promotion

namespace Executor

open Attempt

variable {P : Platform}

/-- What is done beside a capture of the subject from its definition abides by the verdict. -/
structure Lenient (verdict : Verdict (Running P)) : Prop where
  notices : ∀ running notices,
    verdict.good running { running with session := { running.session with notices := notices } }
  inferInput : ∀ position sample, (onGraph (P.inferInput position sample)).Abides verdict.onRest

/-- What is done beside a capture of the subject by running it abides by the verdict as well. -/
structure Patient (verdict : Verdict (Running P)) : Prop extends Lenient verdict where
  layers : (answers (P := P)).layers.Abides verdict
  cast : ∀ layer dtype, (castLayer layer dtype).Abides verdict
  castGraph : ∀ layer dtype, (onGraph (P.castGraphLayer layer dtype)).Abides verdict.onRest

/-- How the subject is captured: by running it on the promoted view, or from its definition. -/
def frontend (P : Platform) (tracing : Bool) (views : Views) : Capture P.World P.Graph :=
  if tracing then P.trace views.promoted.arguments else P.script

/-- What both ways to compile do before they hand the graph over stays within the relation. -/
structure Mild (rel : Running P → Running P → Prop) : Prop where
  device : ∀ {before reached}, rel before reached →
    reached.executor.device = before.executor.device
  tells : ∀ {before reached}, Tells before reached → rel before reached
  layers : (answers (P := P)).layers.Obeys rel
  script : (capture P.script).Obeys rel
  inferInput : ∀ position sample, (onGraph (P.inferInput position sample)).Obeys (OnRest rel)
  castGraph : ∀ layer dtype, (onGraph (P.castGraphLayer layer dtype)).Obeys (OnRest rel)

/-- Casting the model and capturing it by running it stay within the relation as well. -/
structure Gentle (rel : Running P → Running P → Prop) : Prop extends Mild rel where
  cast : ∀ layer dtype, (castLayer layer dtype).Obeys rel
  trace : ∀ inputs, (capture (P.trace inputs)).Obeys rel

section Plain

variable {rel : Running P → Running P → Prop} [IsPreorder (Running P) rel]

theorem Mild.lenient (mild : Mild rel) : Lenient (.plain rel) where
  notices _ notices := mild.tells ⟨notices, _, rfl⟩
  inferInput position sample := abides_plain_onRest.mpr (mild.inferInput position sample)

theorem Gentle.patient (gentle : Gentle rel) : Patient (.plain rel) where
  toLenient := gentle.lenient
  layers := abides_plain.mpr gentle.layers
  cast layer dtype := abides_plain.mpr (gentle.cast layer dtype)
  castGraph layer dtype := abides_plain_onRest.mpr (gentle.castGraph layer dtype)

theorem Mild.scripts (mild : Mild rel) (views : Views) :
    (capture (frontend P false views)).Abides (.plain rel) := abides_plain.mpr mild.script

theorem Gentle.captures (gentle : Gentle rel) (tracing : Bool) (views : Views) :
    (capture (frontend P tracing views)).Abides (.plain rel) := by
  unfold frontend
  split
  · exact abides_plain.mpr (gentle.trace _)
  · exact gentle.scripts views

end Plain

section HandOver

/-- What the graph of an executor is compiled with. -/
def requestOf (executor : Executor P) (table : OptionTable) (inputs : Binding) : CompileRequest :=
  ⟨inputs.leaves, table, executor.training, executor.optimizer⟩

/-- A graph is handed over for compilation. A graph captured by running the subject comes with the
view before promotion if that promoted something, and a graph captured from the definition with the
promoted view. -/
inductive Hands (tracing : Bool) (table : OptionTable) (views : Views) (before : Running P)
    (outcome : Result P.Executable) (reached : Running P) : Prop where
  | traced (graph : P.Graph) (inputs : Binding) (frontend : tracing = true)
      (picked : inputs = if views.promotion.anyInput then views.narrowed else views.promoted)
      (ended : (onWorld (P.compileTraced graph (requestOf before.executor table inputs))).perform
        before = (outcome, reached))
  | scripted (graph : P.Graph) (frontend : tracing = false)
      (ended : (onWorld (P.compileScripted graph
        (requestOf before.executor table views.promoted))).perform before = (outcome, reached))

/-- A graph is handed over for compilation, with the role and the optimizer of the executor. -/
def HandsOver (before : Running P) (outcome : Result P.Executable) (reached : Running P) : Prop :=
  ∃ (compile : P.Graph → CompileRequest → Attempt P.World P.Executable) (graph : P.Graph)
    (request : CompileRequest),
    (compile = P.compileTraced ∨ compile = P.compileScripted) ∧
      request.training = before.executor.training ∧
      request.optimizer = before.executor.optimizer ∧
      (onWorld (compile graph request)).perform before = (outcome, reached)

theorem Hands.handsOver {tracing : Bool} {table : OptionTable} {views : Views}
    {before reached : Running P} {outcome : Result P.Executable}
    (hands : Hands tracing table views before outcome reached) :
    HandsOver before outcome reached := by
  cases hands with
  | traced graph inputs _ _ ended => exact ⟨_, graph, _, .inl rfl, rfl, rfl, ended⟩
  | scripted graph _ ended => exact ⟨_, graph, _, .inr rfl, rfl, rfl, ended⟩

theorem HandsOver.executor {before reached : Running P} {outcome : Result P.Executable}
    (handed : HandsOver before outcome reached) : reached.executor = before.executor := by
  obtain ⟨_, _, _, _, _, _, ended⟩ := handed
  exact (congrArg (fun pair => pair.2.executor) ended).symm

variable {beside verdict : Verdict (Running P)}

/-- The subject was captured with success on the way, which abides by a verdict before and after. -/
def Captured (beside : Verdict (Running P)) (dialogue : Capture P.World P.Graph)
    (running before : Running P) : Prop :=
  ∃ start graph captured, beside.good running start ∧
    (capture dialogue).perform start = (.ok graph, captured) ∧ beside.good captured before

/-- Where the two ways to compile may end: an executable was handed out, or the graph was never
handed over, or it was refused. -/
def EndsHanded (beside verdict : Verdict (Running P)) (tracing : Bool) (table : OptionTable)
    (views : Views) (step : Attempt (Running P) P.Executable) (running : Running P) : Prop :=
  step.Ends running
    (fun executable reached => ∃ before, verdict.good running before ∧
      Captured beside (frontend P tracing views) running before ∧
      Hands tracing table views before (.ok executable) reached)
    fun cause reached => verdict.bad running cause reached ∨ ∃ before,
      verdict.good running before ∧ Hands tracing table views before (.error cause) reached

/-- The last step of both ways to compile. -/
theorem ends_handOver {tracing : Bool} {table : OptionTable} {views : Views}
    {running before : Running P} {graph : P.Graph} {inputs : Binding}
    {compile : P.Graph → CompileRequest → Attempt P.World P.Executable}
    (within : verdict.good running before)
    (captured : Captured beside (frontend P tracing views) running before)
    (hands : ∀ outcome reached, (onWorld (compile graph
        (requestOf before.executor table inputs))).perform before = (outcome, reached) →
      Hands tracing table views before outcome reached) :
    (do onWorld (compile graph (← request table inputs))).Ends before
      (fun executable reached => ∃ before, verdict.good running before ∧
        Captured beside (frontend P tracing views) running before ∧
        Hands tracing table views before (.ok executable) reached)
      fun cause reached => verdict.bad running cause reached ∨ ∃ before,
        verdict.good running before ∧ Hands tracing table views before (.error cause) reached := by
  simp only [request, ends_bind, ends_get, ends_pure]
  unfold Ends
  split
  · exact ⟨before, within, captured, hands _ _ ‹_›⟩
  · exact .inr ⟨before, within, hands _ _ ‹_›⟩

theorem graphFocus_lawful : (graphFocus (P := P)).Lawful where
  get_set _ _ := rfl
  set_set _ _ _ := rfl
  set_get _ := rfl

theorem abides_annotateInputs (lenient : Lenient beside) (count : Nat) :
    ∀ (samples : List (Option Tensor)) (position : Nat),
      (onGraph (P.annotateInputs count position samples)).Abides beside.onRest
  | [], _ => by
      rw [Platform.annotateInputs, onGraph, within_pure graphFocus_lawful]
      exact abides_pure _
  | none :: later, position => abides_annotateInputs lenient count later (position + 1)
  | some sample :: later, position => by
      have rest := abides_annotateInputs lenient count later (position + 1)
      rw [Platform.annotateInputs]
      split
      · rw [onGraph, within_bind graphFocus_lawful]
        exact abides_bind (lenient.inferInput position sample) fun _ => rest
      · exact rest

/-- Capturing a subject by running it abides until the graph is handed over. The outcome of the
capture is only passed on when the layers of the subject were cast back. -/
theorem compileByTracing_handed (patient : Patient beside) (covers : beside.Le verdict)
    (table : OptionTable) (views : Views)
    (captures : (capture (frontend P true views)).Abides verdict) (running : Running P) :
    EndsHanded beside verdict true table views (compileByTracing table views) running := by
  have tells (notice : Notice) : (notify notice : Attempt (Running P) Unit).Abides beside :=
    fun running => ends_notify_iff.mpr (patient.notices running _)
  have promotes : (Promotion.promoteModel (layerAccess (P := P))).Abides beside.onRest :=
    Promotion.abides_promoteModel patient.layers patient.cast fun _ _ => tells _
  unfold EndsHanded compileByTracing
  refine ends_bind_of_abides (tells _) (beside.refl running) (fun _ noticed began => ?_)
    fun _ _ failed => .inl (covers.bad failed)
  rw [ends_bind]
  have inputs : (withOwn views.promotion (Promotion.promoteModel layerAccess)).Ends noticed
      (fun ended _ => ended.2.anyInput = views.promotion.anyInput) fun _ _ => True :=
    ends_withOwn.mpr (((Promotion.obeys_promoteModel_sameInputs layerAccess).ends _).mono
      (fun _ _ => id) fun _ _ _ => trivial)
  refine ((abides_withOwn promotes noticed).and inputs).mono
    (fun ⟨_, promotion⟩ promoted ended => ?_)
    fun _ _ failed => .inl (covers.bad (beside.late began failed.1))
  have same : promotion.anyInput = views.promotion.anyInput := ended.2
  have began := beside.trans began ended.1
  refine ends_bind_observe captures (covers.good began)
    fun outcome traced performed within failing => ?_
  rw [ends_bind]
  refine (Promotion.abides_restore patient.cast promotion traced).mono
    (fun _ restored kept => ?_) fun _ _ failed => .inl (verdict.late within (covers.bad failed))
  have within := verdict.trans within (covers.good kept)
  rw [ends_bind]
  refine ends_ofResult (fun graph succeeded => ?_) fun cause same =>
    .inl (verdict.early (failing cause same) (covers.good kept))
  rw [ends_bind]
  refine (abides_withOwn (Promotion.abides_restore patient.castGraph promotion) restored).mono
    (fun ⟨_, graph'⟩ cast kept' => ?_)
    fun _ _ failed => .inl (verdict.late within (covers.bad failed))
  have captured : Captured beside (frontend P true views) running cast :=
    ⟨promoted, graph, traced, began, succeeded ▸ performed, beside.trans kept kept'⟩
  refine ends_handOver (verdict.trans within (covers.good kept')) captured
    fun outcome reached ended => .traced graph' _ rfl (by rw [same]) ended

/-- Capturing a subject from its definition abides until the graph is handed over. -/
theorem compileByScripting_handed (lenient : Lenient beside) (covers : beside.Le verdict)
    (table : OptionTable) (views : Views)
    (captures : (capture (frontend P false views)).Abides verdict) (running : Running P) :
    EndsHanded beside verdict false table views (compileByScripting table views) running := by
  unfold EndsHanded compileByScripting
  rw [ends_bind, ends_notify_iff]
  have began := lenient.notices running (running.session.notices ++ [.scripting])
  rw [ends_bind]
  refine ((captures _).and (ends_perform _ _)).mono (fun graph scripted ended => ?_)
    fun _ _ failed => .inl (verdict.late (covers.good began) failed.1)
  have within := verdict.trans (covers.good began) ended.1
  rw [ends_bind]
  refine (abides_withOwn (abides_annotateInputs lenient _ _ _) scripted).mono
    (fun ⟨_, graph'⟩ annotated kept => ?_)
    fun _ _ failed => .inl (verdict.late within (covers.bad failed))
  have captured : Captured beside (frontend P false views) running annotated :=
    ⟨_, graph, scripted, began, ended.2, kept⟩
  exact ends_handOver (verdict.trans within (covers.good kept)) captured
    fun outcome reached ended => .scripted graph' rfl ended

end HandOver

/-- The device of an executor gets an executable, and the executor takes note of the refreshes of
the model it follows. -/
def install (executable : P.Executable) (running : Running P) : Running P :=
  let refreshes? := running.executor.subject.followed?.map fun handle =>
    (running.session.cell handle).refreshes
  { executor :=
      { running.executor with refreshesSeen := refreshes?.getD running.executor.refreshesSeen }
    session :=
      { running.session with
        devices := running.session.devices.update running.executor.device.number fun device =>
          { device with executable := some executable } } }

/-- Giving the device its executable and taking note of the refreshes cannot fail. -/
theorem ends_install (executable : P.Executable) (running : Running P) :
    (do onSession (Session.setExecutable running.executor.device executable); noteRefreshes).Ends
      running (fun _ reached => reached = install executable running) fun _ _ => False := by
  simp only [onSession, ends_bind, ends_within, Session.setExecutable, Session.updateDevice,
    ends_modify, noteRefreshes, ends_get]
  cases followed : running.executor.subject.followed? with
  | none => simp [followedRefreshes?, followed, sessionFocus, install]
  | some handle =>
      simp [followedRefreshes?, followed, sessionFocus, install, update, Session.cell]

/-- An executor was compiled for bound inputs: the executable that was handed out is installed. -/
inductive Compiles (beside verdict : Verdict (Running P)) (binding : Binding)
    (running reached : Running P) : Prop where
  | mk (table : OptionTable) (views : Views) (before : Running P) (executable : P.Executable)
      (handed : Running P) (drafted : draft running.executor.options binding = .ok (table, views))
      (within : verdict.good running before)
      (captured : Captured beside (frontend P running.executor.options.traceModel views) running
        before)
      (hands : Hands running.executor.options.traceModel table views before (.ok executable) handed)
      (installed : reached = install executable handed)

/-- How compiling for bound inputs fails: they do not suit the options, something failed before the
graph was handed over, or it was refused. -/
inductive Abandons (verdict : Verdict (Running P)) (binding : Binding) (running : Running P)
    (cause : Error) (reached : Running P) : Prop where
  | unfit (drafted : draft running.executor.options binding = .error cause)
      (within : verdict.good running reached)
  | stopped (failed : verdict.bad running cause reached)
  | refused (table : OptionTable) (views : Views) (before : Running P)
      (drafted : draft running.executor.options binding = .ok (table, views))
      (within : verdict.good running before)
      (hands : Hands running.executor.options.traceModel table views before (.error cause) reached)

/-- What is done with the executable that was handed out: it is installed, whatever led to it. -/
theorem ends_finish {beside verdict : Verdict (Running P)} (covers : beside.Le verdict)
    {binding : Binding} {running state : Running P} {step : Attempt (Running P) P.Executable}
    {table : OptionTable} {views : Views}
    (device : ∀ {reached}, verdict.good running reached →
      reached.executor.device = running.executor.device)
    (drafted : draft running.executor.options binding = .ok (table, views))
    (captures : EndsHanded beside verdict running.executor.options.traceModel table views step state)
    (within : beside.good running state) :
    (do
      let executable ← step
      onSession (Session.setExecutable running.executor.device executable)
      noteRefreshes).Ends state (fun _ reached => Compiles beside verdict binding running reached)
      fun cause reached => Abandons verdict binding running cause reached := by
  rw [ends_bind]
  refine captures.mono (fun executable handed => ?_) fun cause reached => ?_
  · rintro ⟨before, later, ⟨start, graph, captured, began, performed, kept⟩, hands⟩
    have began := beside.trans within began
    have within := verdict.trans (covers.good within) later
    rw [← device within, ← hands.handsOver.executor]
    exact (ends_install executable handed).mono
      (fun _ reached same =>
        .mk table views before executable handed drafted within
          ⟨start, graph, captured, began, performed, kept⟩ hands same)
      fun _ _ => False.elim
  · rintro (failed | ⟨before, later, hands⟩)
    · exact .stopped (verdict.late (covers.good within) failed)
    · exact .refused table views before drafted (verdict.trans (covers.good within) later) hands

/-- Compiling abides until the graph is handed over; a success installs the executable that was
handed out. -/
theorem ends_compileBinding_handed {beside verdict : Verdict (Running P)}
    (patient : Patient beside) (covers : beside.Le verdict) (binding : Binding)
    (running : Running P)
    (device : ∀ {reached}, verdict.good running reached →
      reached.executor.device = running.executor.device)
    (captures : ∀ views, Views.of running.executor.options binding = .ok views →
      (capture (frontend P running.executor.options.traceModel views)).Abides verdict) :
    (compileBinding binding).Ends running
      (fun _ reached => Compiles beside verdict binding running reached)
      fun cause reached => Abandons verdict binding running cause reached := by
  unfold compileBinding
  rw [ends_bind, ends_get, ends_bind]
  refine ends_ofResult (fun table flat => ?_) fun cause flat => ?_
  · rw [ends_bind]
    rw [ends_notify_iff]
    have within := patient.notices running (running.session.notices ++
      [.compiling running.executor.options.deviceIterations running.executor.training])
    rw [ends_bind]
    refine (ends_views _ binding _).mono ?_ ?_
    · rintro views _ ⟨viewed, rfl⟩
      have drafted : draft running.executor.options binding = .ok (table, views) := by
        rw [draft_of_flatten flat, viewed]
        rfl
      dsimp only
      split
      · next tracing =>
          have captures := captures views viewed
          rw [tracing] at captures
          have handed := compileByTracing_handed patient covers table views captures
          rw [← tracing] at handed
          exact ends_finish covers device drafted (handed _) within
      · next scripting =>
          have scripting := Bool.eq_false_iff.mpr scripting
          have captures := captures views viewed
          rw [scripting] at captures
          have handed := compileByScripting_handed patient.toLenient covers table views captures
          rw [← scripting] at handed
          exact ends_finish covers device drafted (handed _) within
    · rintro cause _ ⟨viewed, rfl⟩
      exact .unfit (by rw [draft_of_flatten flat, viewed]; rfl) (covers.good within)
  · exact .unfit (by rw [draft, flat]; rfl) (verdict.refl running)

section Plain

variable {rel : Running P → Running P → Prop} [IsPreorder (Running P) rel]

/-- Compiling stays within a gentle relation until the graph is handed over; a success installs
the executable that was handed out. -/
theorem ends_compileBinding (gentle : Gentle rel) (binding : Binding) (running : Running P) :
    (compileBinding binding).Ends running
      (fun _ reached => ∃ before executable handed, rel running before ∧
        HandsOver before (.ok executable) handed ∧ reached = install executable handed)
      fun cause reached => rel running reached ∨
        ∃ before, rel running before ∧ HandsOver before (.error cause) reached := by
  refine (ends_compileBinding_handed gentle.patient (.refl _) binding running gentle.device
    fun views _ => gentle.captures _ views).mono ?_ ?_
  · rintro _ _ ⟨_, _, before, executable, handed, _, within, -, hands, same⟩
    exact ⟨before, executable, handed, within, hands.handsOver, same⟩
  · rintro cause reached (⟨_, within⟩ | within | ⟨_, _, before, _, within, hands⟩)
    · exact .inl within
    · exact .inl within
    · exact .inr ⟨before, within, hands.handsOver⟩

end Plain

end Executor

end Offload
