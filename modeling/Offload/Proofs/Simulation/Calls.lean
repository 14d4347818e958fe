/-
# Calls that cannot be told apart

Two executors at work on platforms that simulate each other are similar when their subjects and
sessions are and all else of them is equal. Where tensors may be strided in one run only, the mark that
the application was warned of them is left out of that. Calls with related arguments keep them similar,
and come to related results or fail for the same cause: what looks at more than is related is only
whether there is something to warn of, and what is handed to the platform is related again.
-/

import Offload.Proofs.Simulation.Sessions

namespace Offload

open Attempt

variable {like : Likeness} {P Q : Platform} {sim : Simulation like P Q} {α β : Type}

/-- Two executors cannot be told apart. -/
structure Executor.Similar (sim : Simulation like P Q) (executor : Executor P)
    (other : Executor Q) : Prop where
  subject : executor.subject.Similar sim other.subject
  options : executor.options = other.options
  training : executor.training = other.training
  device : executor.device = other.device
  optimizer : executor.optimizer = other.optimizer
  requested : executor.requested = other.requested
  refreshesSeen : executor.refreshesSeen = other.refreshesSeen
  warned : like.Flags executor.warned other.warned

/-- Two executors at work cannot be told apart. -/
structure Running.Similar (sim : Simulation like P Q) (running : Running P) (other : Running Q) :
    Prop where
  executor : running.executor.Similar sim other.executor
  session : running.session.Similar sim other.session

theorem Executor.Similar.toPush {executor : Executor P} {other : Executor Q}
    (similar : executor.Similar sim other) : executor.toPush = other.toPush := by
  rw [Executor.toPush, Executor.toPush, similar.requested, similar.optimizer]

section Similar

variable {running : Running P} {other : Running Q}

theorem Running.Similar.isCompiled (similar : running.Similar sim other) :
    Executor.isCompiled running = Executor.isCompiled other := by
  rw [Executor.isCompiled, Executor.isCompiled, similar.executor.device,
    similar.session.isCompiled]

theorem Running.Similar.followedRefreshes? (similar : running.Similar sim other) :
    Executor.followedRefreshes? running = Executor.followedRefreshes? other := by
  rw [Executor.followedRefreshes?, Executor.followedRefreshes?,
    similar.executor.subject.followed?]
  exact congrArg (other.executor.subject.followed?.map ·)
    (funext fun handle => (similar.session.cell handle).refreshes)

end Similar

namespace Executor

theorem alike_onSession {values : α → β → Prop} {step : Attempt (Session P) α}
    {step' : Attempt (Session Q) β} (steps : step.Alike values (Session.Similar sim) step') :
    (onSession step).Alike values (Running.Similar sim) (onSession step') :=
  alike_within steps (fun _ _ similar => similar.session) fun _ _ _ _ session similar =>
    ⟨similar.executor, session⟩

theorem alike_onWorld {values : α → β → Prop} {step : Attempt P.World α}
    {step' : Attempt Q.World β} (steps : step.Alike values sim.worlds step') :
    (onWorld step).Alike values (Running.Similar sim) (onWorld step') :=
  alike_within steps (fun _ _ similar => similar.session.world) fun _ _ _ _ world similar =>
    ⟨similar.executor, { similar.session with world := world }⟩

theorem alike_notify (notice : Notice) :
    (notify (P := P) notice).Alike Eq (Running.Similar sim) (notify notice) :=
  alike_onSession (Session.alike_notify notice)

theorem alike_update {change : Executor P → Executor P} {change' : Executor Q → Executor Q}
    (changes : ∀ executor other, executor.Similar sim other →
      (change executor).Similar sim (change' other)) :
    (update change).Alike Eq (Running.Similar sim) (update change') :=
  alike_modify fun _ _ similar => ⟨changes _ _ similar.executor, similar.session⟩

theorem alike_copyToHost :
    (copyToHost (P := P)).Alike Eq (Running.Similar sim) copyToHost := by
  apply alike_bind alike_get
  intro running other similar
  rw [similar.executor.device]
  exact alike_onSession (Session.alike_copyToHost _)

theorem alike_copyToDevice :
    (copyToDevice (P := P)).Alike Eq (Running.Similar sim) copyToDevice := by
  apply alike_bind alike_get
  intro running other similar
  rw [similar.executor.device]
  exact alike_onSession (Session.alike_copyToDevice _)

/-! ## Binding -/

/-- Being told of strided inputs is found out in both runs, or not compared. -/
theorem similar_heeding {running : Running P} {other : Running Q}
    (similar : running.Similar sim other) {densified densified' : Bool}
    (flags : like.Flags densified densified') :
    (heeding densified running).Similar sim (heeding densified' other) := by
  have warned := similar.executor.warned
  rw [heeding_eq, heeding_eq]
  refine ⟨{ similar.executor with warned := fun strict => by rw [warned strict, flags strict] },
    similar.session.told ?_⟩
  cases strict : like.strict with
  | true => rw [warned strict, flags strict]
  | false =>
      have unheard (told : Bool) :
          (if told then [Notice.stridedInput] else []).filter like.hears = [] := by
        cases told <;> simp [Likeness.hears, strict]
      rw [unheard, unheard]

/-- Related calls are bound alike. -/
theorem alike_bind_arguments {call call' : CallArguments}
    (held : CallArguments.Aligned like.Held call call') :
    (bind (P := P) call).Alike (Binding.Aligned like.Held) (Running.Similar sim) (bind call') := by
  intro running other similar
  have ends := ends_bind_arguments call running
  have ends' := ends_bind_arguments call' other
  have agree := Binding.agree_ofCall held (running.executor.subject.signature running.session)
  rw [← similar.executor.subject.signature similar.session] at ends'
  rcases ended : (bind call).perform running with ⟨cause | bound, reached⟩
  all_goals rcases ended' : (bind call').perform other with ⟨cause' | bound', reached'⟩
  · obtain ⟨called, rfl⟩ := ends.error ended
    obtain ⟨called', rfl⟩ := ends'.error ended'
    rw [called, called'] at agree
    cases agree
    exact .error similar
  · obtain ⟨called, -⟩ := ends.error ended
    obtain ⟨_, called', -⟩ := ends'.ok ended'
    rw [called, called'] at agree
    cases agree
  · obtain ⟨_, called, -⟩ := ends.ok ended
    obtain ⟨called', -⟩ := ends'.error ended'
    rw [called, called'] at agree
    cases agree
  · obtain ⟨densified, called, rfl⟩ := ends.ok ended
    obtain ⟨densified', called', rfl⟩ := ends'.ok ended'
    rw [called, called'] at agree
    cases agree with
    | ok called => exact .ok called.2 (similar_heeding similar called.1)

/-! ## Compilation -/

section Compile

theorem alike_layers :
    (answers (P := P)).layers.Alike Eq (Running.Similar sim) answers.layers :=
  alike_bind alike_get fun _ _ similar => alike_onSession similar.executor.subject.alike_layers

theorem alike_castLayer (layer : String) (dtype : DType) :
    (castLayer (P := P) layer dtype).Alike Eq (Running.Similar sim) (castLayer layer dtype) :=
  alike_within (Subject.alike_castLayer layer dtype)
    (fun _ _ similar => ⟨similar.executor.subject, similar.session⟩)
    fun _ _ _ _ part similar => ⟨{ similar.executor with subject := part.1 }, part.2⟩

/-- Similar subjects answer alike. -/
theorem alike_answers : (answers (P := P)).Alike like sim.worlds (Running.Similar sim) worldFocus
    worldFocus (answers (P := Q)) where
  signature _ _ similar := similar.executor.subject.signature similar.session
  layers := alike_layers
  parameters := alike_bind alike_get fun _ _ similar =>
    alike_onSession similar.executor.subject.alike_parameters
  forward _ _ handed := alike_bind alike_get fun _ _ similar =>
    alike_onSession (similar.executor.subject.alike_forward handed)
  looks _ _ similar := similar.session.world
  moves _ _ _ _ similar world := ⟨similar.executor, { similar.session with world := world }⟩
  rests _ := rfl

theorem alike_onGraph {step : Attempt (P.Graph × P.World) Unit}
    {step' : Attempt (Q.Graph × Q.World) Unit}
    (steps : step.Alike Eq (Both sim.graphs sim.worlds) step') :
    (onGraph step).Alike Eq (Both sim.graphs (Running.Similar sim)) (onGraph step') :=
  alike_within steps (fun _ _ similar => ⟨similar.1, similar.2.session.world⟩)
    fun _ _ _ _ part similar =>
      ⟨part.1, ⟨similar.2.executor, { similar.2.session with world := part.2 }⟩⟩

/-- The views of related bindings are made alike. -/
theorem alike_viewsOf {binding binding' : Binding}
    (held : Binding.Aligned like.Held binding binding') (options : Options) :
    (viewsOf (P := P) options binding).Alike (Views.Relates like) (Running.Similar sim)
      (viewsOf options binding') := by
  intro running other similar
  rw [perform_viewsOf, perform_viewsOf]
  exact alike_of_agree (Views.agree_of held options) running other similar

/-- A graph is compiled with the same, and with related inputs. -/
theorem alike_request (options : OptionTable) {inputs inputs' : Binding}
    (held : Binding.Aligned like.Held inputs inputs') :
    (request (P := P) options inputs).Alike (CompileRequest.Relates like.Handed)
      (Running.Similar sim) (request options inputs') :=
  alike_bind alike_get fun _ _ similar => alike_pure
    ⟨held.leaves.imp fun _ _ => Likeness.Held.handed, rfl, similar.executor.training,
      similar.executor.optimizer⟩

theorem alike_compileByTracing (options : OptionTable) {views views' : Views}
    (related : views.Relates like views') :
    (compileByTracing (P := P) options views).Alike sim.executables (Running.Similar sim)
      (compileByTracing options views') := by
  unfold compileByTracing
  apply alike_bind_eq (alike_notify _)
  intro _
  rw [related.promotion]
  refine alike_bind_eq (alike_withOwn (Promotion.alike_promoteModel alike_layers
    alike_castLayer alike_notify)) fun promoted => ?_
  obtain ⟨-, promotion⟩ := promoted
  have inputs := related.promoted.arguments.mono fun _ _ => Likeness.Held.handed
  refine alike_bind (alike_observe_agree (sim.trace inputs alike_answers))
    fun captured captured' graphs => ?_
  apply alike_bind_eq (Promotion.alike_restore alike_castLayer promotion)
  intro _
  apply alike_bind (alike_of_agree graphs)
  intro graph graph' captured
  refine alike_bind (alike_withOwn_both captured (Promotion.alike_restore
    (fun layer dtype => alike_onGraph (sim.castGraphLayer layer dtype)) promotion))
    fun _ _ cast => ?_
  have handed : Binding.Aligned like.Held
      (if promotion.anyInput then views.narrowed else views.promoted)
      (if promotion.anyInput then views'.narrowed else views'.promoted) := by
    split
    · exact related.narrowed
    · exact related.promoted
  exact alike_bind (alike_request options handed)
    fun _ _ request => alike_onWorld (sim.compileTraced cast.2 request)

theorem alike_compileByScripting (options : OptionTable) {views views' : Views}
    (related : views.Relates like views') :
    (compileByScripting (P := P) options views).Alike sim.executables (Running.Similar sim)
      (compileByScripting options views') := by
  unfold compileByScripting
  apply alike_bind_eq (alike_notify _)
  intro _
  apply alike_bind (sim.script alike_answers)
  intro graph graph' captured
  have samples := (related.promoted.arguments.mono fun _ _ => Likeness.Held.handed).samples
  dsimp only
  rw [sim.inputCount captured]
  refine alike_bind (alike_withOwn_both captured (alike_onGraph
    (sim.alike_annotateInputs _ samples 1))) fun _ _ annotated => ?_
  exact alike_bind (alike_request options related.promoted)
    fun _ _ request => alike_onWorld (sim.compileScripted annotated.2 request)

theorem alike_noteRefreshes :
    (noteRefreshes (P := P)).Alike Eq (Running.Similar sim) noteRefreshes := by
  apply alike_bind alike_get
  intro running other similar
  rw [similar.followedRefreshes?]
  cases followedRefreshes? other with
  | none => exact alike_pure rfl
  | some refreshes =>
      exact alike_update fun _ _ similar => { similar with refreshesSeen := rfl }

theorem alike_compileBinding {binding binding' : Binding}
    (held : Binding.Aligned like.Held binding binding') :
    (compileBinding (P := P) binding).Alike Eq (Running.Similar sim) (compileBinding binding') := by
  unfold compileBinding
  apply alike_bind alike_get
  intro running other similar
  dsimp only
  rw [similar.executor.options, similar.executor.training, similar.executor.device]
  apply alike_bind_eq (alike_ofResult _)
  intro options
  apply alike_bind_eq (alike_notify _)
  intro _
  apply alike_bind (alike_viewsOf held _)
  intro views views' related
  have installs (executable : P.Executable) (executable' : Q.Executable)
      (related : sim.executables executable executable') : (do
        onSession (Session.setExecutable other.executor.device executable)
        noteRefreshes).Alike Eq (Running.Similar sim) (do
        onSession (Session.setExecutable other.executor.device executable')
        noteRefreshes) :=
    alike_bind_eq (alike_onSession (Session.alike_updateDevice _ fun _ _ similar =>
      { similar with executable := .some related })) fun _ => alike_noteRefreshes
  exact alike_ite (alike_bind (alike_compileByTracing options related) installs)
    (alike_bind (alike_compileByScripting options related) installs)

theorem alike_ensureCompiled {binding binding' : Binding}
    (held : Binding.Aligned like.Held binding binding') :
    (ensureCompiled (P := P) binding).Alike Eq (Running.Similar sim) (ensureCompiled binding') := by
  apply alike_bind alike_get
  intro running other similar
  rw [similar.isCompiled]
  exact alike_ite (alike_pure rfl) (alike_compileBinding held)

/-- Compilations for related arguments cannot be told apart. -/
theorem alike_compile {arguments arguments' : CallArguments}
    (held : CallArguments.Aligned like.Held arguments arguments') :
    (compile (P := P) arguments).Alike Eq (Running.Similar sim) (compile arguments') := by
  apply alike_bind alike_get
  intro running other similar
  rw [similar.isCompiled]
  exact alike_ite (alike_pure rfl)
    (alike_bind (alike_bind_arguments held) fun _ _ => alike_compileBinding)

end Compile

/-! ## Calls -/

theorem alike_followModel :
    (followModel (P := P)).Alike Eq (Running.Similar sim) followModel := by
  apply alike_bind alike_get
  intro running other similar
  rw [similar.executor.subject.followed?]
  cases other.executor.subject.followed? with
  | none => exact alike_pure rfl
  | some handle =>
      apply alike_bind_eq (alike_onSession (Session.alike_resolve handle))
      intro _
      apply alike_bind alike_get
      intro resolved resolved' similar
      rw [(similar.session.cell handle).refreshes, similar.executor.refreshesSeen]
      refine alike_ite ?_ (alike_pure rfl)
      exact alike_bind_eq (alike_notify _) fun _ =>
        alike_bind_eq alike_copyToDevice fun _ => alike_noteRefreshes

theorem alike_sendModified :
    (sendModified (P := P)).Alike Eq (Running.Similar sim) sendModified := by
  apply alike_bind alike_get
  intro running other similar
  rw [similar.executor.device, (similar.session.device _).deviceStale]
  refine alike_ite ?_ (alike_pure rfl)
  exact alike_bind_eq (alike_notify _) fun _ => alike_copyToDevice

theorem alike_execute {inputs inputs' : List Value}
    (handed : List.Forall₂ like.Handed inputs inputs') :
    (execute (P := P) inputs).Alike (Tree.AlignedItems (Value.Relates sim.results))
      (Running.Similar sim) (execute inputs') := by
  apply alike_bind alike_get
  intro running other similar
  dsimp only
  rw [similar.executor.device, similar.executor.training, similar.executor.toPush]
  refine alike_bind (alike_onSession (Session.alike_withExecutable _
    fun _ _ related => sim.execute related handed _)) fun results results' outputs => ?_
  refine alike_bind_eq (alike_update fun _ _ similar => ?_) fun _ => ?_
  · exact { similar with
      optimizer := by rw [similar.requested, similar.optimizer]
      requested := rfl }
  · refine alike_ite ?_ (alike_pure outputs)
    exact alike_bind_eq (alike_onSession (Session.alike_updateDevice _ fun _ _ similar =>
      { similar with hostStale := rfl })) fun _ => alike_pure outputs

/-- Calls with related arguments cannot be told apart. -/
theorem alike_call {arguments arguments' : CallArguments}
    (held : CallArguments.Aligned like.Held arguments arguments') :
    (call (P := P) arguments).Alike (Output.Relates (Value.Relates sim.results))
      (Running.Similar sim) (call arguments') := by
  unfold call
  apply alike_bind (alike_bind_arguments held)
  intro binding binding' bindings
  apply alike_bind_eq (alike_ensureCompiled bindings)
  intro _
  apply alike_bind alike_get
  intro running other similar
  dsimp only
  rw [similar.executor.options, similar.executor.training]
  have leaves := bindings.leaves.imp fun _ _ => Likeness.Held.handed
  have executes : (do
      sendModified
      return .ofResults (← execute binding.leaves) : Attempt (Running P) Output).Alike
        (Output.Relates (Value.Relates sim.results)) (Running.Similar sim) (do
      sendModified
      return .ofResults (← execute binding'.leaves)) :=
    alike_bind_eq alike_sendModified fun _ =>
      alike_bind (alike_execute leaves) fun _ _ outputs =>
        alike_pure (Output.relates_ofResults outputs)
  refine alike_ite (alike_bind_eq (alike_notify _) fun _ => alike_pure .notExecuted) ?_
  exact alike_ite (alike_bind_eq alike_followModel fun _ => executes) executes

end Executor

end Offload
