/-
# The course of a compilation by tracing

A compilation that captures the model by running it promotes the layers of reduced precision, runs
the model, casts the same layers back on the model and then on the graph, and has the graph
compiled. Every one of these things can fail. The layers of the model are cast back even if the
capture failed, and a cast that fails then is what the compilation fails with. `Course` lists the
ways in which this can end, each with all that is told of it; nothing else is told of a
compilation, and nothing in another order.

Nothing is assumed of the layers that the model answers with, nor of what fails. Where casts convert
whole layers, the model that is run shows no layer of reduced precision.
-/

import Offload.Proofs.Chronicle.Casts
import Offload.Rehearsal.Platform

namespace Offload.Executor

open Attempt Chronicled ParameterTypes

variable {P : Platform}

/-- The layers of a plan, each with full precision. -/
def inFull (plan : List (String × DType)) : List (String × DType) :=
  plan.map fun (layer, _) => (layer, .f32)

/-- A model shows no layer of reduced precision, if casts convert whole layers. -/
def Full (model : P.Model) : Prop :=
  ∀ shown, P.model.Converts shown → ∀ info ∈ shown model, info.half? = none

/-- All layers of a plan were promoted, which left no layer of reduced precision. -/
structure FullyPromoted (model : P.Model) (plan : List (String × DType)) (ready : P.Model)
    (told : List (Happening P)) : Prop where
  casts : Casts .castLayer model (inFull plan) ready told
  full : Full ready

section Course

variable (model : P.Model) (plan : List (String × DType)) (inputs : List Tree)
  (request : CompileRequest)

/-- What is told of a compilation of a model by tracing, by how it ends. The plan lists the layers
that are promoted, with their own types. -/
inductive Course : List (Happening P) → Result P.Executable → Prop where
  /-- A layer could not be promoted. -/
  | unpromoted {cause : Error} {promotions : List (Happening P)}
      (breaks : Breaks .castLayer model (inFull plan) cause promotions) :
      Course promotions (.error cause)
  /-- A layer of the model could not be cast back, whatever came of the capture. -/
  | unrestored {ready : P.Model} {captured : Result P.Graph} {cause : Error}
      {promotions restorations : List (Happening P)}
      (promotes : FullyPromoted model plan ready promotions)
      (breaks : Breaks .castLayer ready plan cause restorations) :
      Course (promotions ++ [.trace inputs captured] ++ restorations) (.error cause)
  /-- The capture failed, and the layers of the model were cast back. -/
  | uncaptured {ready restored : P.Model} {cause : Error}
      {promotions restorations : List (Happening P)}
      (promotes : FullyPromoted model plan ready promotions)
      (restores : Casts .castLayer ready plan restored restorations) :
      Course (promotions ++ [.trace inputs (.error cause)] ++ restorations) (.error cause)
  /-- A layer of the graph could not be cast back. -/
  | uncorrected {ready restored : P.Model} {graph : P.Graph} {cause : Error}
      {promotions restorations corrections : List (Happening P)}
      (promotes : FullyPromoted model plan ready promotions)
      (restores : Casts .castLayer ready plan restored restorations)
      (breaks : Breaks .castGraphLayer graph plan cause corrections) :
      Course (promotions ++ [.trace inputs (.ok graph)] ++ restorations ++ corrections)
        (.error cause)
  /-- The graph was compiled, or could not be. -/
  | submitted {ready restored : P.Model} {graph corrected : P.Graph}
      {outcome : Result P.Executable} {promotions restorations corrections : List (Happening P)}
      (promotes : FullyPromoted model plan ready promotions)
      (restores : Casts .castLayer ready plan restored restorations)
      (corrects : Casts .castGraphLayer graph plan corrected corrections) :
      Course (promotions ++ [.trace inputs (.ok graph)] ++ restorations ++ corrections ++
        [.compileTraced corrected request outcome]) outcome

/-- A compilation by tracing ends before anything is told of it, or takes its course. -/
inductive Tracing (free : Bool) (planned : Result (List (String × DType))) :
    List (Happening P) → Result P.Executable → Prop where
  /-- The model did not answer for its layers. -/
  | unanswered {cause : Error} (failed : planned = .error cause) :
      Tracing free planned [] (.error cause)
  /-- The first layer could not be promoted, because somebody holds the model. -/
  | held {plan : List (String × DType)} (made : planned = .ok plan) (some : plan ≠ [])
      (held : free = false) : Tracing free planned [] (.error .held)
  | course {plan : List (String × DType)} {told : List (Happening P)}
      {outcome : Result P.Executable} (made : planned = .ok plan)
      (unheld : plan = [] ∨ free = true) (takes : Course model plan inputs request told outcome) :
      Tracing free planned told outcome

end Course

/-- The layers that a promotion is going to cast, going by what the subject answers, each with the
type of reduced precision that is reported for it. -/
def plan? (running : Running P) : Result (List (String × DType)) :=
  ((answers (P := P)).layers.perform running).1.map record

/-- The inputs that a graph captured by running the model is compiled with. -/
def Views.handed (views : Views) : Binding :=
  if views.promotion.anyInput then views.narrowed else views.promoted

/-- What is told of a compilation by tracing for bound inputs. -/
inductive Compilation (before : Running P.chronicled) (binding : Binding) :
    List (Happening P) → Result P.Executable → Prop where
  /-- The inputs do not suit the options. -/
  | unfit {cause : Error} (drafted : draft before.executor.options binding = .error cause) :
      Compilation before binding [] (.error cause)
  | traced {table : OptionTable} {views : Views} {told : List (Happening P)}
      {outcome : Result P.Executable}
      (drafted : draft before.executor.options binding = .ok (table, views))
      (traces : Tracing (hostOf before) views.promoted.arguments
        (requestOf before.executor table views.handed) (hostFree before) (plan? before) told
          outcome) :
      Compilation before binding told outcome

/-! ## Promotion -/

section Promote

variable {running : Running P.chronicled}

/-- What the subject answers for its layers is what its model shows. -/
theorem eq_shown_of_layers {shown : P.Model → List LayerInfo} (converts : P.model.Converts shown)
    {infos : List LayerInfo}
    (answered : ((answers (P := P.chronicled)).layers.perform running).1 = .ok infos) :
    infos = shown (hostOf running) := by
  have ends : (answers (P := P.chronicled)).layers.Ends running
      (fun infos _ => infos = shown (hostOf running)) fun _ _ => True :=
    ends_layers_of_host fun state => ends_within.mpr (converts.layers (hostOf running) state.world)
  exact ends.ok (Prod.ext answered rfl)

/-- Some layers were promoted and recorded, which needs that nobody holds the model. -/
structure Promoting (running : Running P.chronicled) (promotion : Promotion)
    (done : List LayerInfo) (told : List (Happening P))
    (state : Promotion × Running P.chronicled) : Prop where
  layers : state.1.layers = promotion.layers ++ record done
  inputs : state.1.anyInput = promotion.anyInput
  casts : Casts .castLayer (hostOf running) (inFull (record done)) (hostOf state.2) told
  passes : Passes told running state.2
  free : record done = [] ∨ hostFree running = true
  converted : ∀ shown, P.model.Converts shown → shown (hostOf state.2) =
    (shown (hostOf running)).map (LayerInfo.convert (promoted done) .f32)

/-- When all layers are promoted, none of reduced precision is left. -/
theorem Promoting.full {promotion : Promotion} {infos : List LayerInfo}
    {told : List (Happening P)} {state : Promotion × Running P.chronicled}
    (promotes : Promoting running promotion infos told state)
    (answered : ((answers (P := P.chronicled)).layers.perform running).1 = .ok infos) :
    Full (hostOf state.2) := by
  intro shown converts info there
  rw [promotes.converted shown converts, ← eq_shown_of_layers converts answered] at there
  obtain ⟨other, listed, rfl⟩ := List.mem_map.mp there
  exact LayerInfo.half?_convert_promoted listed

/-- How a promotion ends badly: at a layer that could not be promoted. -/
def Stops (running : Running P.chronicled) (infos : List LayerInfo) (cause : Error)
    (reached : Running P.chronicled) : Prop :=
  (record infos ≠ [] ∧ hostFree running = false ∧ cause = .held ∧ Passes [] running reached) ∨
    hostFree running = true ∧ ∃ told,
      Breaks .castLayer (hostOf running) (inFull (record infos)) cause told ∧
        Passes told running reached

section Layer

variable {promotion : Promotion} {infos earlier later : List LayerInfo} {info : LayerInfo}
  {told : List (Happening P)} {state : Promotion × Running P.chronicled}

/-- A layer of full precision is passed over. -/
theorem Promoting.skip (promotes : Promoting running promotion earlier told state)
    (half : info.half? = none) : Promoting running promotion (earlier ++ [info]) told state := by
  have skipped : record (earlier ++ [info]) = record earlier := by simp [record, half]
  exact
    { layers := by rw [promotes.layers, skipped]
      inputs := promotes.inputs
      casts := by rw [skipped]; exact promotes.casts
      passes := promotes.passes
      free := by rw [skipped]; exact promotes.free
      converted := by rw [promoted, skipped]; exact promotes.converted }

/-- A layer of reduced precision is cast and recorded. -/
theorem Promoting.cast {dtype : DType} {reached : Running P.chronicled} {world world' : P.World}
    (promotes : Promoting running promotion earlier told state) (half : info.half? = some dtype)
    (free : hostFree running = true)
    (passes : Passes (told ++ [.castLayer (hostOf state.2) info.name .f32 (.ok ()) (hostOf reached)])
      running reached)
    (performed : (P.model.castLayer info.name .f32).perform (hostOf state.2, world) =
      (.ok (), hostOf reached, world')) :
    Promoting running promotion (earlier ++ [info])
      (told ++ [.castLayer (hostOf state.2) info.name .f32 (.ok ()) (hostOf reached)])
      ({ state.1 with layers := state.1.layers ++ [(info.name, dtype)] }, reached) := by
  have recorded : record (earlier ++ [info]) = record earlier ++ [(info.name, dtype)] := by
    simp [record, half]
  have names : promoted (earlier ++ [info]) = promoted earlier ++ [info.name] := by
    rw [promoted, recorded, List.map_append]
    rfl
  refine
    { layers := by simp [recorded, promotes.layers]
      inputs := promotes.inputs
      casts := by
        rw [recorded, inFull, List.map_append]
        exact promotes.casts.next info.name .f32 (hostOf reached)
      passes := passes
      free := .inr free
      converted := fun shown converts => ?_ }
  have convert := (converts.cast (hostOf state.2) world info.name .f32).ok performed
  change shown (hostOf reached) = _
  rw [convert, promotes.converted shown converts, List.map_map, names]
  exact List.map_congr_left fun other _ => LayerInfo.convert_append_singleton _ _ _ other

/-- Where somebody holds the model, nothing was cast so far. -/
theorem Promoting.untold (promotes : Promoting running promotion earlier told state)
    (held : ¬ hostFree running = true) : told = [] := by
  have first : record earlier = [] := promotes.free.resolve_right held
  exact List.eq_nil_of_length_eq_zero (promotes.casts.length.trans (by rw [first]; rfl))

/-- Promoting one layer after the earlier ones. -/
private theorem ends_promoteLayer_told (listed : infos = earlier ++ info :: later)
    (promotes : Promoting running promotion earlier told state) :
    (Promotion.promoteLayer (layerAccess (P := P.chronicled)) info).Ends state
      (fun _ next => ∃ told, Promoting running promotion (earlier ++ [info]) told next)
      fun cause next => Stops running infos cause next.2 := by
  unfold Promotion.promoteLayer
  cases half : info.half? with
  | none => exact ⟨told, promotes.skip half⟩
  | some dtype =>
      have split : inFull (record infos) =
          inFull (record earlier) ++ (info.name, .f32) :: inFull (record later) := by
        rw [listed, record_append, record_cons, half]
        simp [inFull]
      dsimp only
      rw [ends_bind, onRest, ends_within]
      refine ends_notify_told promotes.passes.loss fun noticed notes host => ?_
      have way := promotes.passes.trans notes
      rw [List.append_nil] at way
      rw [ends_bind, onRest, ends_within]
      apply (ends_castLayer_told way.loss info.name .f32).mono
      · intro _ reached ended
        obtain ⟨free, cast, world, world', performed⟩ := ended
        rw [host] at cast performed
        exact ⟨_, promotes.cast half (way.free ▸ free) (way.trans cast) performed⟩
      · intro cause reached ended
        rw [way.free] at ended
        split at ended
        · next free =>
            rw [host] at ended
            exact .inr ⟨free, _, .failed split promotes.casts _, way.trans ended⟩
        · next held =>
            obtain ⟨rfl, rfl⟩ := ended
            have some : record infos ≠ [] := by simp [listed, record_append, record_cons, half]
            exact .inl ⟨some, by simpa using held, rfl, promotes.untold held ▸ way⟩

end Layer

/-- Promotion casts and records every layer of reduced precision that the subject answers with, or
stops at one. -/
theorem ends_promoteModel_told (loss : running.executor.subject.LossWithin Silent)
    (promotion : Promotion) :
    (Promotion.promoteModel (layerAccess (P := P.chronicled))).Ends (promotion, running)
      (fun _ state => ∃ infos told,
        ((answers (P := P.chronicled)).layers.perform running).1 = .ok infos ∧
          Promoting running promotion infos told state)
      fun cause state =>
        (((answers (P := P.chronicled)).layers.perform running).1 = .error cause ∧
          Passes [] running state.2) ∨
        ∃ infos, ((answers (P := P.chronicled)).layers.perform running).1 = .ok infos ∧
          Stops running infos cause state.2 := by
  rw [Promotion.promoteModel, ends_bind, onRest, ends_within]
  have reads : ((answers (P := P.chronicled)).layers).Obeys (Reads Silent) :=
    obeys_layers_reads (reads_silent P)
  refine ((ends_perform _ _).and (reads.ends running)).mono ?_ ?_
  · rintro infos asked ⟨answered, reads⟩
    have answered : ((answers (P := P.chronicled)).layers.perform running).1 = .ok infos :=
      congrArg Prod.fst answered
    have host : hostOf asked = hostOf running := reads.hostOf loss
    have unconverted : LayerInfo.convert (promoted []) .f32 = id := rfl
    have begins : Promoting running promotion [] [] (promotion, asked) :=
      { layers := by simp [record]
        inputs := rfl
        casts := by rw [host]; exact .none
        passes := reads.passes loss
        free := .inl rfl
        converted := fun shown _ => by
          rw [unconverted, List.map_id]
          exact congrArg shown host }
    have loops : (infos.forM (Promotion.promoteLayer (layerAccess (P := P.chronicled)))).Ends
        (promotion, asked)
        (fun _ state => ∃ told, Promoting running promotion infos told state)
        fun cause state => Stops running infos cause state.2 := by
      refine ends_forM (fun done state => ∃ told, Promoting running promotion done told state)
        ⟨[], begins⟩ ?_
      rintro earlier info later listed state ⟨told, promotes⟩
      exact ends_promoteLayer_told listed promotes
    apply loops.mono
    · rintro _ state ⟨told, promotes⟩
      exact ⟨infos, told, answered, promotes⟩
    · intro cause state stops
      exact .inr ⟨infos, answered, stops⟩
  · rintro cause asked ⟨answered, reads⟩
    exact .inl ⟨congrArg Prod.fst answered, reads.passes loss⟩

end Promote

/-! ## Compilation -/

section Compile

/-- The plan of a promotion is what is recorded of the layers that the subject answers with. -/
theorem plan?_eq_ok {running : Running P} {infos : List LayerInfo}
    (answered : ((answers (P := P)).layers.perform running).1 = .ok infos) :
    plan? running = .ok (record infos) := by
  rw [plan?, answered]
  rfl

theorem plan?_eq_error {running : Running P} {cause : Error}
    (failed : ((answers (P := P)).layers.perform running).1 = .error cause) :
    plan? running = .error cause := by
  rw [plan?, failed]
  rfl

/-- The application was told some notices. -/
def noticing (notices : List Notice) (running : Running P) : Running P :=
  { running with session := { running.session with notices := notices } }

/-- What the application was told does not matter for what the subject answers. -/
theorem plan?_noticing (notices : List Notice) (running : Running P) :
    plan? (noticing notices running) = plan? running := by
  have borrowed (handle : Handle) :
      ((Session.layers handle).perform { running.session with notices := notices }).1 =
        ((Session.layers handle).perform running.session).1 := by
    have same : Session.cell { running.session with notices := notices } handle =
        running.session.cell handle := rfl
    simp only [Session.layers, Session.borrow, perform_bind, perform_get, same]
    cases (running.session.cell handle).writing <;> rfl
  obtain ⟨executor, session⟩ := running
  obtain ⟨subject, options, training, device, optimizer, requested, seen, warned⟩ := executor
  rw [plan?, plan?]
  cases subject with
  | own model => rfl
  | shared handle => exact congrArg (Except.map record) (borrowed handle)
  | training handle loss => exact congrArg (Except.map record) (borrowed handle)

variable {running : Running P.chronicled} (loss : running.executor.subject.LossWithin Silent)

/-- A step was told of as a compilation by tracing that had a certain outcome. -/
def Unfolds (table : OptionTable) (views : Views) (running : Running P.chronicled)
    (outcome : Result P.Executable) (reached : Running P.chronicled) : Prop :=
  ∃ told, Tracing (hostOf running) views.promoted.arguments
      (requestOf running.executor table views.handed) (hostFree running) (plan? running) told
      outcome ∧
    Passes told running reached

/-- What the application was told before does not matter. -/
theorem Unfolds.of_noticing {table : OptionTable} {views : Views} (notices : List Notice)
    {outcome : Result P.Executable} {reached : Running P.chronicled}
    (unfolds : Unfolds table views (noticing notices running) outcome reached) :
    Unfolds table views running outcome reached := by
  obtain ⟨told, traces, way⟩ := unfolds
  rw [plan?_noticing] at traces
  exact ⟨told, traces, way.executor, way.loss, way.free, way.happenings⟩

include loss

/-- A compilation by tracing is told of as one, whether it succeeds or fails. -/
theorem ends_compileByTracing_told (table : OptionTable) {views : Views}
    (fresh : views.promotion.layers = []) :
    (compileByTracing (P := P.chronicled) table views).Ends running
      (fun executable => Unfolds table views running (.ok executable))
      fun cause => Unfolds table views running (.error cause) := by
  unfold compileByTracing
  rw [ends_bind, ends_notify_iff]
  let notices := running.session.notices ++ [.tracing]
  suffices ends : Ends _ (noticing notices running)
      (fun executable => Unfolds table views (noticing notices running) (.ok executable))
      fun cause => Unfolds table views (noticing notices running) (.error cause) from
    ends.mono (fun _ _ => Unfolds.of_noticing notices) fun _ _ => Unfolds.of_noticing notices
  have loss : (noticing notices running).executor.subject.LossWithin Silent := loss
  generalize noticing notices running = noticed at *
  rw [ends_bind, ends_withOwn]
  refine (ends_promoteModel_told loss views.promotion).mono ?_ ?_
  · rintro _ ⟨promotion, ready⟩ ⟨infos, promotions, answered, promoting⟩
    have takes {told : List (Happening P)} {outcome : Result P.Executable}
        {reached : Running P.chronicled}
        (course : Course (hostOf noticed) (record infos) views.promoted.arguments
          (requestOf noticed.executor table views.handed) told outcome)
        (way : Passes told noticed reached) : Unfolds table views noticed outcome reached :=
      ⟨told, .course (plan?_eq_ok answered) promoting.free course, way⟩
    have layers : promotion.layers = record infos := by
      rw [promoting.layers, fresh, List.nil_append]
    have promotes : FullyPromoted (hostOf noticed) (record infos) (hostOf ready) promotions :=
      ⟨promoting.casts, promoting.full answered⟩
    have way := promoting.passes
    rw [ends_bind]
    refine (ends_trace_told way.loss _).mono ?_ fun _ _ => False.elim
    rintro captured traced ⟨traces, host⟩
    have free : promotion.layers = [] ∨ hostFree traced = true := by
      rw [layers, traces.free, way.free]
      exact promoting.free
    have way := way.trans traces
    rw [ends_bind]
    have restores := ends_restore_told way.loss promotion free
    rw [layers, host] at restores
    refine restores.mono ?_ ?_
    · rintro _ restored ⟨restorations, restores, back⟩
      have way := way.trans back
      rw [ends_bind]
      refine ends_ofResult ?_ ?_
      · rintro graph rfl
        have corrects := ends_restoreGraph_told way.loss promotion graph
        rw [layers] at corrects
        rw [ends_bind, ends_withOwn]
        refine corrects.mono ?_ ?_
        · rintro _ ⟨corrected, settled⟩ ⟨corrections, corrects, settles⟩
          have way := way.trans settles
          simp only [request, ends_bind, ends_get, ends_pure]
          have inputs : (if promotion.anyInput then views.narrowed else views.promoted) =
              views.handed := by
            rw [promoting.inputs]
            rfl
          have asks := way.requestOf table views.handed
          rw [inputs]
          exact (ends_compileTraced_told way.loss corrected _).mono
            (fun _ _ submits =>
              takes (.submitted promotes restores corrects) (asks ▸ way.trans submits))
            fun _ _ submits =>
              takes (.submitted promotes restores corrects) (asks ▸ way.trans submits)
        · rintro cause ⟨_, stopped⟩ ⟨corrections, breaks, stops⟩
          exact takes (.uncorrected promotes restores breaks) (way.trans stops)
      · rintro cause rfl
        exact takes (.uncaptured promotes restores) way
    · rintro cause stopped ⟨restorations, breaks, stops⟩
      exact takes (.unrestored promotes breaks) (way.trans stops)
  · rintro cause ⟨_, stopped⟩ (⟨failed, way⟩ | ⟨infos, answered, stops⟩)
    · exact ⟨[], .unanswered (plan?_eq_error failed), way⟩
    · have planned := plan?_eq_ok answered
      rcases stops with ⟨some, held, rfl, way⟩ | ⟨free, told, breaks, way⟩
      · exact ⟨[], .held planned some held, way⟩
      · exact ⟨told, .course planned (.inr free) (.unpromoted breaks), way⟩

/-- Compiling for bound inputs is told of as a compilation by tracing, and a success leaves its
executable on the device. -/
theorem ends_compileBinding_told (tracing : running.executor.options.traceModel = true)
    (binding : Binding) :
    (compileBinding (P := P.chronicled) binding).Ends running
      (fun _ reached => ∃ told executable, Compilation running binding told (.ok executable) ∧
        reached.session.world.happenings = running.session.world.happenings ++ told ∧
        (reached.session.device running.executor.device).executable = some executable)
      fun cause reached => ∃ told, Compilation running binding told (.error cause) ∧
        reached.session.world.happenings = running.session.world.happenings ++ told := by
  unfold compileBinding
  rw [ends_bind, ends_get, ends_bind]
  refine ends_ofResult (fun table flat => ?_) fun cause flat => ?_
  · rw [ends_bind, ends_notify_iff, ends_bind]
    let notices := running.session.notices ++
      [.compiling running.executor.options.deviceIterations running.executor.training]
    have loss : (noticing notices running).executor.subject.LossWithin Silent := loss
    refine ((ends_views _ binding _).and (ends_views_unpromoted _ binding _)).mono ?_ ?_
    · rintro views _ ⟨⟨viewed, rfl⟩, fresh, -⟩
      have drafted : draft running.executor.options binding = .ok (table, views) := by
        rw [draft_of_flatten flat, viewed]
        rfl
      dsimp only
      rw [if_pos tracing, ends_bind]
      refine (ends_compileByTracing_told loss table fresh).mono ?_ ?_
      · intro executable traced unfolds
        have unfolds : Unfolds table views running (.ok executable) traced :=
          unfolds.of_noticing notices
        obtain ⟨told, traces, way⟩ := unfolds
        have device : traced.executor.device = running.executor.device := by rw [way.executor]
        rw [← device]
        refine (ends_install executable traced).mono ?_ fun _ _ => False.elim
        rintro _ _ rfl
        refine ⟨told, executable, .traced drafted traces, way.happenings, ?_⟩
        simp [Session.device, install]
      · intro cause reached unfolds
        have unfolds : Unfolds table views running (.error cause) reached :=
          unfolds.of_noticing notices
        obtain ⟨told, traces, way⟩ := unfolds
        exact ⟨told, .traced drafted traces, way.happenings⟩
    · rintro cause _ ⟨⟨viewed, rfl⟩, -⟩
      exact ⟨[], .unfit (by rw [draft_of_flatten flat, viewed]; rfl), (List.append_nil _).symm⟩
  · exact ⟨[], .unfit (by rw [draft, flat]; rfl), (List.append_nil _).symm⟩

end Compile

/-- A compilation by tracing takes its course: every layer with a parameter of reduced precision
is promoted, the model is captured once, the same layers are cast back on the model whether or not
the capture succeeded, and then on the graph, which is compiled last. Each loop goes in the order
of the layers and stops at its first failure, which is what the compilation fails with; nothing
else is done to the model or to a graph. -/
theorem layers_promoted_and_cast_back_in_step (executor : Executor P)
    (session : Session P.chronicled) (binding : Binding)
    (tracing : executor.options.traceModel = true) :
    let before : Running P.chronicled := ⟨executor.chronicled, session⟩
    let ended := (compileBinding binding).perform before
    ∃ told outcome, Compilation before binding told outcome ∧
      ended.2.session.world.happenings = session.world.happenings ++ told ∧
      ended.1 = outcome.map (fun _ => ()) ∧
      ∀ executable, outcome = .ok executable →
        (ended.2.session.device executor.device).executable = some executable := by
  intro before ended
  have loss : before.executor.subject.LossWithin Silent := executor.subject.lossWithin_silent
  have ends := ends_compileBinding_told loss tracing binding
  rcases comes : ended with ⟨cause | _, reached⟩
  · obtain ⟨told, compilation, happened⟩ := ends.error comes
    exact ⟨told, _, compilation, happened, rfl, nofun⟩
  · obtain ⟨told, executable, compilation, happened, installed⟩ := ends.ok comes
    refine ⟨told, _, compilation, happened, rfl, ?_⟩
    rintro _ ⟨⟩
    exact installed

section Brittle

/-- Why something failed, if it did. -/
def failure? : Happening P → Option Error
  | .castLayer _ _ _ (.error cause) _ => some cause
  | .trace _ (.error cause) => some cause
  | .script (.error cause) => some cause
  | .castGraphLayer _ _ _ (.error cause) _ => some cause
  | .compileTraced _ _ (.error cause) => some cause
  | .compileScripted _ _ (.error cause) => some cause
  | _ => none

/-- A rehearsal with models that are nothing but their layers. They cannot be run, and casts of one
layer to reduced precision are refused. -/
@[reducible]
def brittle (refused : String) : Platform :=
  { Rehearsal.platform true with
    Model := List LayerInfo
    model := {
      signature := fun _ => .empty
      forward := fun _ _ => throw (.platform "forward failed")
      parameters := fun _ => return []
      layers := fun infos => return infos
      castLayer := fun layer dtype =>
        if layer = refused ∧ dtype.isHalf then throw (.unknownLayer layer)
        else modify fun state => (state.1.map (LayerInfo.convert [layer] dtype), state.2) }
    blankModel := [] }

/-- Such a model shows the layers it is, and casts that are not refused convert whole layers. -/
theorem converts_brittle (refused : String) : (brittle refused).model.Converts id where
  layers _ _ := rfl
  cast infos world layer dtype := by
    change Ends (if layer = refused ∧ dtype.isHalf then _ else _) _ _ _
    split
    · trivial
    · rfl

/-- A wrapper of a model with two layers of reduced precision, the second of which cannot be cast
back. -/
def fallen : Executor (brittle "b") :=
  ⟨.own [⟨"a", [.f16]⟩, ⟨"b", [.f32, .bf16]⟩],
    Options.initial.put "anchor_mode" (.int AnchorMode.all.code), false, ⟨0⟩, none, none, 0, false⟩

/-- A session in which nothing happened yet. -/
def quiet : Session (brittle "b").chronicled := .start (.start Rehearsal.World.initial)

/-- How the wrapper is compiled for no inputs. -/
def fellOnce : Result Unit × Running (brittle "b").chronicled :=
  (compileBinding ⟨[], []⟩).perform ⟨fallen.chronicled, quiet⟩

/-- The capture failed, and then the second layer could not be cast back: that is what the
compilation fails with. -/
theorem refused_restoration_outranks_capture :
    fallen.options.traceModel = true ∧ (brittle "b").model.Converts id ∧
      (∃ told outcome, Compilation ⟨fallen.chronicled, quiet⟩ ⟨[], []⟩ told outcome ∧
        fellOnce.2.session.world.happenings = quiet.world.happenings ++ told ∧
        fellOnce.1 = outcome.map fun _ => ()) ∧
      fellOnce.2.session.world.happenings.map failure? =
        [none, none, some (.platform "forward failed"), none, some (.unknownLayer "b")] ∧
      fellOnce.1 = .error (.unknownLayer "b") := by
  have tracing : fallen.options.traceModel = true := rfl
  obtain ⟨told, outcome, compilation, happened, same, -⟩ :=
    layers_promoted_and_cast_back_in_step fallen quiet ⟨[], []⟩ tracing
  refine ⟨tracing, converts_brittle "b", ?_, by decide +kernel, by decide +kernel⟩
  unfold fellOnce
  exact ⟨told, outcome, compilation, happened, same⟩

end Brittle

end Offload.Executor
