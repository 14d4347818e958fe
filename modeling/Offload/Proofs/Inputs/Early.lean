/-
# Refusals come before everything else

A turn that looks at its arguments binds them first. If there is no executable yet, it flattens the
options next and narrows the binding to one micro-batch, and only then is anything asked of the
platform. So a turn that fails in one of these steps fails for the first of them and leaves
everything alone, but for what the application was told.

The other direction needs a platform that does not claim, by itself, that options or a batch do not
suit. Then a turn never fails for that once there is an executable, and an executor that came from a
wrapper, whose anchor mode was picked when it was made, never fails for one that is missing.
-/

import Offload.Proofs.Inputs.Refusal
import Offload.Proofs.Inputs.Tidy
import Offload.Proofs.Rehearsal

namespace Offload

open Attempt

/-- The options or the batch do not suit. -/
def Error.Unsuited (cause : Error) : Prop :=
  cause.Flattening ∨ cause.Dividing ∨ ∃ dimension rank, cause = .dimensionOutOfRange dimension rank

/-- Why the arguments of a turn are rejected, in the order in which it is found out: they do not
bind; or the executor is not compiled, and its options do not go into one table, or else the first
tensor that cannot be narrowed cannot be narrowed for this cause. -/
inductive Turn.Rejects {P : Platform} (turn : Turn P) (before : Running P) (cause : Error) :
    Prop where
  | unbound
      (called : Binding.ofCall (before.executor.subject.signature before.session) turn.arguments =
        .error cause)
  | unflattened {densified : Bool} {binding : Binding}
      (called : Binding.ofCall (before.executor.subject.signature before.session) turn.arguments =
        .ok (densified, binding))
      (fresh : Executor.isCompiled before = false)
      (refused : before.executor.options.Refuses cause)
  | undivided {densified : Bool} {binding : Binding}
      (called : Binding.ofCall (before.executor.subject.signature before.session) turn.arguments =
        .ok (densified, binding))
      (fresh : Executor.isCompiled before = false)
      (accepted : ∀ cause, ¬ before.executor.options.Refuses cause)
      (rejected : (Batch.ofOptions before.executor.options).Rejects binding cause)

namespace Executor

section Rejected

variable {P : Platform}

/-- The application may have been told something and warned, and nothing else happened: nothing was
asked of the platform, and the executor is the one it was. -/
def TellsMore (before reached : Running P) : Prop :=
  ∃ notices warned, (before.executor.warned = true → warned = true) ∧
    reached = ⟨{ before.executor with warned := warned },
      { before.session with notices := before.session.notices ++ notices }⟩

theorem TellsMore.refl (running : Running P) : TellsMore running running :=
  ⟨[], running.executor.warned, id, by rw [List.append_nil]⟩

theorem TellsMore.trans {first second third : Running P} (tells : TellsMore first second)
    (tells' : TellsMore second third) : TellsMore first third := by
  obtain ⟨notices, warned, stays, rfl⟩ := tells
  obtain ⟨notices', warned', stays', rfl⟩ := tells'
  exact ⟨notices ++ notices', warned', stays' ∘ stays, by rw [List.append_assoc]⟩

theorem tellsMore_heeding (densified : Bool) (running : Running P) :
    TellsMore running (heeding densified running) :=
  ⟨_, _, fun warned => by rw [warned, Bool.true_or], heeding_eq densified running⟩

/-- What compilation works with cannot be made if the options are refused. -/
theorem draft_of_refuses {options : Options} {cause : Error} (refused : options.Refuses cause)
    (binding : Binding) : draft options binding = .error cause := by
  rw [draft, Options.flatten_eq_error_iff.mpr refused]
  rfl

/-- What compilation works with cannot be made if the batch rejects the binding. -/
theorem draft_of_rejects {options : Options} {binding : Binding} {cause : Error}
    (accepted : ∀ cause, ¬ options.Refuses cause)
    (rejected : (Batch.ofOptions options).Rejects binding cause) :
    draft options binding = .error cause := by
  obtain ⟨table, flat⟩ := Options.exists_flatten accepted
  rw [draft_of_flatten flat, Views.of_eq_error rejected]
  rfl

/-- Compiling fails before it asks for anything if it cannot make what it works with. -/
theorem ends_compileBinding_undrafted {binding : Binding} {running : Running P} {cause : Error}
    (undrafted : draft running.executor.options binding = .error cause) :
    (compileBinding binding).Ends running (fun _ _ => False)
      fun failed reached => failed = cause ∧ TellsMore running reached := by
  unfold compileBinding
  rw [ends_bind, ends_get, ends_bind]
  refine ends_ofResult (fun table flat => ?_) fun failed flat => ?_
  · rw [draft_of_flatten flat] at undrafted
    rw [ends_bind, ends_notify_iff, ends_bind]
    refine (ends_views _ binding _).mono ?_ ?_
    · rintro views _ ⟨made, rfl⟩
      rw [made] at undrafted
      exact nomatch undrafted
    · rintro failed _ ⟨failing, rfl⟩
      rw [failing] at undrafted
      exact ⟨Except.error.inj undrafted, [_], _, id, rfl⟩
  · rw [draft, flat] at undrafted
    exact ⟨Except.error.inj undrafted, .refl running⟩

variable {turn : Turn P} {before : Running P} {cause : Error}

/-- The arguments of a turn that is rejected do not bind, or there is nothing to compile with. -/
theorem ends_bind_rejected (rejects : turn.Rejects before cause) :
    (bind turn.arguments).Ends before
      (fun binding reached => isCompiled reached = false ∧
        (compileBinding binding).Ends reached (fun _ _ => False)
          fun failed reached => failed = cause ∧ TellsMore before reached)
      fun failed reached => failed = cause ∧ TellsMore before reached := by
  have undrafted {densified : Bool} {binding : Binding}
      (called : Binding.ofCall (before.executor.subject.signature before.session) turn.arguments =
        .ok (densified, binding))
      (fresh : isCompiled before = false)
      (undrafted : draft before.executor.options binding = .error cause) :
      (bind turn.arguments).Ends before
        (fun binding reached => isCompiled reached = false ∧
          (compileBinding binding).Ends reached (fun _ _ => False)
            fun failed reached => failed = cause ∧ TellsMore before reached)
        fun failed reached => failed = cause ∧ TellsMore before reached := by
    refine (ends_bind_arguments turn.arguments before).mono ?_ ?_
    · rintro bound _ ⟨densified', called', rfl⟩
      obtain ⟨rfl, rfl⟩ := Prod.mk.inj (Except.ok.inj (called.symm.trans called'))
      rw [← options_heeding densified before] at undrafted
      exact ⟨(isCompiled_heeding densified before).trans fresh,
        (ends_compileBinding_undrafted undrafted).mono (fun _ _ => id)
          fun _ _ ended => ended.imp_right (tellsMore_heeding densified before).trans⟩
    · rintro _ _ ⟨failed, -⟩
      exact nomatch failed.symm.trans called
  cases rejects with
  | unbound called =>
      refine (ends_bind_arguments turn.arguments before).mono ?_ ?_
      · rintro _ _ ⟨_, other, -⟩
        exact nomatch called.symm.trans other
      · rintro _ _ ⟨failed, rfl⟩
        exact ⟨Except.error.inj (failed.symm.trans called), .refl _⟩
  | unflattened called fresh refused =>
      exact undrafted called fresh (draft_of_refuses refused _)
  | undivided called fresh accepted rejected =>
      exact undrafted called fresh (draft_of_rejects accepted rejected)

/-- A turn that is rejected fails for that, and leaves everything alone. -/
theorem ends_take_rejected (binds : turn.Binds before) (rejects : turn.Rejects before cause) :
    (take turn).Ends before (fun _ _ => False)
      fun failed reached => failed = cause ∧ TellsMore before reached := by
  unfold take
  split
  · next compiles =>
      have fresh : isCompiled before = false := binds.resolve_left (by simp [compiles])
      rw [ends_bind, compile, ends_bind, ends_get, if_neg (by simp [fresh]), ends_bind]
      exact (ends_bind_rejected rejects).mono
        (fun _ _ ended => ended.2.mono (fun _ _ => False.elim) fun _ _ => id) fun _ _ => id
  · rw [ends_bind, call, ends_bind]
    refine (ends_bind_rejected rejects).mono (fun binding reached ended => ?_) fun _ _ => id
    rw [ends_bind, ensureCompiled, ends_bind, ends_get, if_neg (by simp [ended.1])]
    exact ended.2.mono (fun _ _ => False.elim) fun _ _ => id

end Rejected

end Executor

/-! ## Causes that the platform spares -/

section Sparing

variable {P : Platform} {spared : Error} {α τ : Type}

namespace Journaled

variable {World : Type} {operation : Operation}

theorem noting_spares {step : Attempt World α} (spares : step.Abides (.sparing spared)) :
    (noting operation step).Abides (.sparing spared) :=
  fun state => (ends_noting operation step state).mono (fun _ _ _ => trivial)
    fun _ _ ⟨_, ended, _⟩ => (spares state.world).error ended

theorem notingBeside_spares {step : Attempt (τ × World) Unit}
    (spares : step.Abides (.sparing spared)) :
    (notingBeside operation step).Abides (.sparing spared) :=
  fun state => (ends_notingBeside operation step state).mono (fun _ _ _ => trivial)
    fun _ _ ⟨_, ended, _⟩ => (spares (state.1, state.2.world)).error ended

theorem compiling_spares {Executable : Type} {request : CompileRequest}
    {step : Attempt World Executable} (spares : step.Abides (.sparing spared)) :
    (compiling request step).Abides (.sparing spared) :=
  fun state => (ends_compiling request step state).mono (fun _ _ _ => trivial)
    fun _ _ ⟨_, _, ended, _⟩ => (spares state.world).error ended

end Journaled

theorem Session.abides_onWorld_sparing {step : Attempt P.World α}
    (spares : step.Abides (.sparing spared)) :
    (Session.onWorld step).Abides (.sparing spared) :=
  abides_within spares (fun _ _ _ => trivial) fun _ _ _ => id

theorem Session.abides_beside_sparing {step : Attempt (τ × P.World) Unit}
    (spares : step.Abides (.sparing spared)) :
    (within Session.focusBeside step).Abides (Verdict.sparing spared).onRest :=
  abides_within spares (fun _ _ _ => trivial) fun _ _ _ => id

/-- What the platform spares is spared by all that is done on the way of a call, unless the library
itself refuses something for it. -/
theorem Session.endures_sparing (spares : P.Spares spared) (apart : ¬ Session.Refuses spared) :
    Session.Endures (P := P.journaled) (.sparing spared) where
  tells _ _ _ := trivial
  refuses _ _ refuses same := apart (same ▸ refuses)
  devices _ _ := trivial
  models _ _ := trivial
  forward model inputs := abides_onWorld_sparing (Journaled.noting_spares (spares.forward model inputs))
  parameters model := abides_onWorld_sparing (Journaled.noting_spares (spares.parameters model))
  layers model := abides_onWorld_sparing (Journaled.noting_spares (spares.layers model))
  castLayer layer dtype :=
    abides_beside_sparing (Journaled.notingBeside_spares (spares.castLayer layer dtype))
  inferInput position sample _ :=
    abides_beside_sparing (Journaled.notingBeside_spares (spares.inferInput position sample))
  castGraphLayer layer dtype :=
    abides_beside_sparing (Journaled.notingBeside_spares (spares.castGraphLayer layer dtype))
  compileTraced graph request _ :=
    abides_onWorld_sparing (Journaled.compiling_spares (spares.compileTraced graph request))
  compileScripted graph request _ :=
    abides_onWorld_sparing (Journaled.compiling_spares (spares.compileScripted graph request))
  execute _ inputs optimizer _ :=
    abides_onWorld_sparing (Journaled.noting_spares (spares.execute _ inputs optimizer))
  copyToHost _ := abides_onWorld_sparing (Journaled.noting_spares (spares.copyToHost _))
  copyToDevice _ :=
    abides_onWorld_sparing (Journaled.noting_spares (spares.copyToDevice _))
  refresh hook := abides_onWorld_sparing (Journaled.noting_spares (spares.refresh hook))

namespace Executor

/-- A loss that spares a cause is a loss that a session puts up with. -/
theorem endures_of_spares {subject : Subject P} (spares : subject.Spares spared) :
    subject.Endures (.sparing spared) :=
  fun loss has output target => Session.abides_onWorld_sparing (spares loss has output target)

/-- The loss of the subject does not give the cause. -/
def Fits (spared : Error) (running : Running P) : Prop :=
  running.executor.subject.Endures (.sparing spared)

theorem Fits.of_working {before reached : Running P}
    (good : (working (.sparing spared)).good before reached) (fits : Fits spared before) :
    Fits spared reached :=
  good.1.endures.mpr fits

/-- The cause is not given while an executor works, unless its loss gives it. -/
def workingSparing (spared : Error) : Verdict (Running P) :=
  .barring (working (.sparing spared)).good (Fits spared) Fits.of_working spared

theorem workingSparing_le : (workingSparing (P := P) spared).Le (working (.sparing spared)) :=
  ⟨id, fun bad => ⟨bad.1.1, bad.2⟩⟩

theorem le_workingSparing : (working (.sparing spared)).Le (workingSparing (P := P) spared) :=
  ⟨id, fun bad => ⟨⟨bad.1, fun _ => trivial⟩, bad.2⟩⟩

/-- A dialogue that spares a cause spares it while an executor works. -/
theorem abides_capture_sparing (spares : P.Spares spared) (apart : ¬ Session.Refuses spared)
    {operation : Operation} {dialogue : Capture P.World P.Graph} (dialogues : dialogue.Spares spared) :
    (capture (P := P.journaled) (dialogue.journaled operation)).Abides
      (working (.sparing spared)) := by
  have endures := Session.endures_sparing spares apart
  have moves {running reached : Running P.journaled} (same : reached.executor = running.executor) :
      (working (.sparing spared)).good running reached :=
    ⟨same ▸ .refl _, fun _ => trivial⟩
  have layers : (answers (P := P.journaled)).layers.Abides (workingSparing spared) :=
    (abides_answers_layers_working endures).le le_workingSparing
  have parameters : (answers (P := P.journaled)).parameters.Abides (workingSparing spared) :=
    (abides_answers_parameters_working endures).le le_workingSparing
  have forward (inputs : List Tree) :
      ((answers (P := P.journaled)).forward inputs).Abides (workingSparing spared) :=
    (abides_answers_forward_working endures inputs).le le_workingSparing
  have held : (capture (P := P.journaled) (dialogue.journaled operation)).Abides
      (workingSparing spared) :=
    Capture.abides_journaled layers parameters forward (fun _ _ => moves rfl)
      (fun _ _ => moves rfl) dialogue fun _ _ => dialogues
  exact held.le workingSparing_le

theorem endures_sparing (spares : P.Spares spared) (apart : ¬ Session.Refuses spared) :
    Endures (P := P.journaled) (.sparing spared) where
  toEndures := Session.endures_sparing spares apart
  trace inputs _ := abides_capture_sparing spares apart (spares.trace inputs)
  script := abides_capture_sparing spares apart spares.script

end Executor

end Sparing

/-! ## Options and batches that suit -/

section Suited

theorem Error.Unsuited.not_naming {cause : Error} (unsuited : cause.Unsuited) :
    ¬ cause.Naming := by
  rintro ⟨⟩
  all_goals exact unsuited.elim nofun fun others => others.elim nofun nofun

theorem Error.Unsuited.not_reading {cause : Error} (unsuited : cause.Unsuited) :
    ¬ cause.Reading := by
  rintro ⟨⟩
  all_goals exact unsuited.elim nofun fun others => others.elim nofun nofun

theorem Error.Unsuited.not_refuses {cause : Error} (unsuited : cause.Unsuited) :
    ¬ Session.Refuses cause := by
  rintro ⟨⟩
  all_goals exact unsuited.elim nofun fun others => others.elim nofun nofun

/-- An anchor mode that is picked where there was none is there. -/
theorem Options.isDefaultAnchorMode_of_resolve {options resolved : Options} {mode : AnchorMode}
    (picks : mode ≠ .default) (made : options.resolveAnchorMode mode = .ok resolved) :
    resolved.isDefaultAnchorMode = false := by
  unfold resolveAnchorMode at made
  split at made
  · obtain ⟨period, -, rfl⟩ := Result.exists_of_map_ok made
    have stored : ((options.put "anchor_mode" (.int mode.code)).put "anchor_return_period"
        (.int period)).table.intAt "anchor_mode" = mode.code := by
      simp [put, OptionTable.intAt, OptionValue.int?]
    rw [isDefaultAnchorMode, anchorMode?, stored]
    cases mode with
    | default => exact absurd rfl picks
    | _ => rfl
  · next picked =>
      obtain rfl := Except.ok.inj made
      simpa using picked

namespace Executor

variable {P : Platform} {spared : Error}

/-- The executor was given another task neither by its options nor by its loss. -/
def KeepsTask (before reached : Running P) : Prop :=
  reached.executor.options = before.executor.options ∧
    reached.executor.subject.loss? = before.executor.subject.loss?

theorem KeepsTask.of_heeding {verdict : Verdict (Session P)} {densified : Bool}
    {before reached : Running P}
    (good : (working verdict).good (heeding densified before) reached) :
    KeepsTask before reached := by
  rw [heeding_eq] at good
  exact ⟨good.1.options, good.1.loss⟩

/-- If neither the platform nor the loss claims that options or a batch do not suit, a turn fails
for that only while there is no executable, and because what compilation works with cannot be
made. -/
theorem ends_take_unsuited (unsuited : spared.Unsuited) (spares : P.Spares spared)
    (turn : Turn P.journaled) (before : Running P.journaled)
    (losses : before.executor.subject.Spares spared) :
    (take turn).Ends before (fun _ reached => KeepsTask before reached)
      fun cause reached => KeepsTask before reached ∧ (cause = spared →
        isCompiled before = false ∧ ∃ binding,
          draft before.executor.options binding = .error spared) := by
  have endures := endures_sparing spares unsuited.not_refuses
  refine (ends_take_working endures turn before).mono ?_ ?_
  · rintro - reached (⟨-, rfl⟩ | ⟨-, densified, binding, -, good⟩)
    · exact ⟨rfl, rfl⟩
    · exact .of_heeding good
  · rintro cause reached ⟨-, fails⟩
    cases fails with
    | unbound called same =>
        subst same
        refine ⟨⟨rfl, rfl⟩, ?_⟩
        rintro rfl
        exact absurd called (ofCall_spares unsuited.not_naming unsuited.not_reading _ _)
    | unfit densified binding called fresh drafted within =>
        refine ⟨.of_heeding within, ?_⟩
        rintro rfl
        exact ⟨fresh, binding, drafted⟩
    | stopped densified binding called failed =>
        refine ⟨.of_heeding ((working _).good_of_bad failed), ?_⟩
        rintro rfl
        have fit : (heeding densified before).executor.subject.Endures (.sparing cause) := by
          rw [heeding_eq]
          exact endures_of_spares losses
        exact absurd rfl (failed.2 fit)

/-- A wrapper has an anchor mode. -/
theorem isDefaultAnchorMode_inferenceModel {handle : Handle} {options : Options}
    {session made : Session P} {executor : Executor P}
    (wrapped : (inferenceModel handle options).perform session = (.ok executor, made)) :
    executor.options.isDefaultAnchorMode = false := by
  have ends : (inferenceModel handle options).Ends session
      (fun executor _ => executor.options.isDefaultAnchorMode = false) fun _ _ => True := by
    rw [inferenceModel, ends_bind]
    refine ends_ofResult (fun resolved picked => ?_) fun _ _ => trivial
    rw [make, ends_bind]
    exact (ends_somehow _ _).mono
      (fun _ _ _ => Options.isDefaultAnchorMode_of_resolve (by simp) picked) fun _ _ _ => trivial
  exact ends.ok wrapped

theorem isDefaultAnchorMode_trainingModel {handle : Handle} {options : Options}
    {loss : Option (Loss P)} {optimizer : Option HostOptimizer} {session made : Session P}
    {executor : Executor P}
    (wrapped : (trainingModel handle options loss optimizer).perform session =
      (.ok executor, made)) : executor.options.isDefaultAnchorMode = false := by
  have ends : (trainingModel handle options loss optimizer).Ends session
      (fun executor _ => executor.options.isDefaultAnchorMode = false) fun _ _ => True := by
    rw [trainingModel, ends_bind]
    refine ends_ofResult (fun resolved picked => ?_) fun _ _ => trivial
    rw [ends_bind]
    refine ends_ofResult (fun descriptor _ => ?_) fun _ _ => trivial
    rw [ends_bind, make, ends_bind]
    refine (ends_somehow _ _).mono (fun _ _ _ => ?_) fun _ _ _ => trivial
    rw [ends_pure, ends_bind]
    exact (ends_somehow _ _).mono
      (fun _ _ _ => Options.isDefaultAnchorMode_of_resolve (by simp) picked) fun _ _ _ => trivial
  exact ends.ok wrapped

/-- An executor that was made by wrapping a model. -/
inductive Wraps (executor : Executor P) : Prop where
  | inference {handle : Handle} {options : Options} {session made : Session P}
      (wrapped : (inferenceModel handle options).perform session = (.ok executor, made))
  | training {handle : Handle} {options : Options} {loss : Option (Loss P)}
      {optimizer : Option HostOptimizer} {session made : Session P}
      (wrapped : (trainingModel handle options loss optimizer).perform session =
        (.ok executor, made))

theorem Wraps.isDefaultAnchorMode {executor : Executor P} (wraps : executor.Wraps) :
    executor.options.isDefaultAnchorMode = false := by
  cases wraps with
  | inference wrapped => exact isDefaultAnchorMode_inferenceModel wrapped
  | training wrapped => exact isDefaultAnchorMode_trainingModel wrapped

/-- What compilation works with is not missing for an anchor mode that was picked. -/
theorem draft_ne_unresolved {options : Options} (picked : options.isDefaultAnchorMode = false)
    (binding : Binding) : draft options binding ≠ .error .unresolvedAnchorMode := by
  have flattens : options.flatten ≠ .error .unresolvedAnchorMode := by
    intro flat
    cases Options.flatten_eq_error_iff.mp flat with
    | unresolved default => exact nomatch picked.symm.trans default
  have views : Views.of options binding ≠ .error .unresolvedAnchorMode :=
    views_spares (by nofun) (by nofun) (by nofun) options binding
  exact bind_spares flattens fun _ => bind_spares views fun _ => nofun

/-- Turns do not take the anchor mode away. The induction is on the turns, and the invariant is that
a mode was picked and that the loss is the one it was. -/
theorem episodes_ne_unresolved {executor : Executor P.journaled}
    (picked : executor.options.isDefaultAnchorMode = false)
    (spares : P.Spares .unresolvedAnchorMode)
    (losses : executor.subject.Spares .unresolvedAnchorMode) (turns : List (Turn P.journaled)) :
    ∀ episode ∈ executor.episodes turns, episode.outcome ≠ .error .unresolvedAnchorMode := by
  let holds (executor : Executor P.journaled) : Prop :=
    executor.options.isDefaultAnchorMode = false ∧ executor.subject.Spares .unresolvedAnchorMode
  refine @forall_episodes P.journaled holds _ (fun executor turn ⟨picked, losses⟩ => ?_) executor
    ⟨picked, losses⟩ turns
  have kept {reached : Running P.journaled} (keeps : KeepsTask (executor.opening turn) reached) :
      holds reached.executor :=
    ⟨keeps.1 ▸ picked, fun loss has => losses loss (keeps.2 ▸ has)⟩
  refine (ends_take_unsuited (.inl .unresolved) spares turn (executor.opening turn) losses).mono
    (fun _ _ keeps => ⟨nofun, kept keeps⟩) ?_
  rintro cause reached ⟨keeps, undrafted⟩
  refine ⟨fun failed => ?_, kept keeps⟩
  obtain ⟨-, binding, drafted⟩ := undrafted (Except.error.inj failed)
  exact draft_ne_unresolved picked binding drafted

/-- Arguments that do not bind, options that are refused and batches that cannot be divided are
rejected in this order, before anything is asked of the platform; only an executor that is compiled
already is content with any arguments when it is to compile. If the platform and the loss do not
claim that options or a batch do not suit, no turn fails for that once there is an executable, and no
executor that wraps a model ever fails for an anchor mode that was not picked. -/
theorem rejected_before_anything (P : Platform) :
    (∀ (turn : Turn P.journaled) (before : Running P.journaled),
      (∀ cause, turn.Binds before → turn.Rejects before cause →
        ∃ reached, (take turn).perform before = (.error cause, reached) ∧
          TellsMore before reached) ∧
      (¬ turn.Binds before → (take turn).perform before = (.ok none, before))) ∧
    (∀ cause : Error, cause.Unsuited → P.Spares cause →
      ∀ (turn : Turn P.journaled) (before : Running P.journaled),
        before.executor.subject.Spares cause → isCompiled before = true →
          ((take turn).perform before).1 ≠ .error cause) ∧
    (P.Spares .unresolvedAnchorMode → ∀ executor : Executor P.journaled, executor.Wraps →
      executor.subject.Spares .unresolvedAnchorMode → ∀ turns,
        ∀ episode ∈ executor.episodes turns, episode.outcome ≠ .error .unresolvedAnchorMode) := by
  refine ⟨fun turn before => ⟨fun cause binds rejects => ?_, fun idle => ?_⟩,
    fun cause unsuited spares turn before losses compiled failed => ?_,
    fun spares executor wraps losses turns => ?_⟩
  · have ends := ends_take_rejected binds rejects
    rcases ended : (take turn).perform before with ⟨failed | value, reached⟩
    · obtain ⟨rfl, tells⟩ := ends.error ended
      exact ⟨reached, rfl, tells⟩
    · exact (ends.ok ended).elim
  · obtain ⟨compiles, compiled⟩ := not_or.mp idle
    have compiles : turn.compiles = true := by simpa using compiles
    have compiled : isCompiled before = true := by simpa using compiled
    rw [take, if_pos compiles, compile, perform_bind, perform_bind, perform_get]
    simp only [if_pos compiled]
    rfl
  · have ends := ends_take_unsuited unsuited spares turn before losses
    rcases ended : (take turn).perform before with ⟨other | value, reached⟩
    · rw [ended] at failed
      obtain rfl := Except.error.inj failed
      exact nomatch compiled.symm.trans ((ends.error ended).2 rfl).1
    · rw [ended] at failed
      exact nomatch failed
  · exact episodes_ne_unresolved wraps.isDefaultAnchorMode spares losses turns

section Rehearsed

/-- Options by which one call feeds two iterations. -/
def pairing : Options :=
  (Options.initial.put "anchor_mode" (.int AnchorMode.all.code)).put "device_iterations" (.int 2)

/-- A rehearsed session with one model, which has one input. -/
def shelved : Session (Rehearsal.platform true).journaled :=
  { Session.start (P := (Rehearsal.platform true).journaled) (.start Rehearsal.World.initial) with
    models := (Store.empty.add ⟨⟨⟨[⟨"x", none⟩]⟩, [], false⟩, 0, false, none, 0⟩).2 }

/-- The session after the model was wrapped. -/
def staged : Session (Rehearsal.platform true).journaled :=
  ((inferenceModel ⟨0⟩ pairing).perform shelved).2

/-- The wrapper of the model. -/
def pairer : Executor (Rehearsal.platform true).journaled :=
  ⟨.shared ⟨0⟩, pairing, false, ⟨0⟩, none, none, 0, false⟩

/-- The wrapper when it has an executable. -/
def equipped : Running (Rehearsal.platform true).journaled :=
  ⟨pairer, { staged with
    devices := staged.devices.set 0 ⟨some ⟨⟨0, false⟩, ⟨0, false⟩⟩, false, false⟩ }⟩

/-- A call on a row of numbers. -/
def feeding (numbers : List (Cell .f32)) : Turn (Rehearsal.platform true).journaled :=
  ⟨staged, none, false,
    ⟨[.leaf (.tensor (.dense (.made 0) .f32 numbers ⟨[numbers.length]⟩))], []⟩⟩

/-- Three numbers cannot be divided among two iterations. -/
theorem feeding_uneven_rejects :
    (feeding [1, 2, 3]).Rejects (pairer.opening (feeding [1, 2, 3]))
      (.batchDimension ⟨[3]⟩ 3 2 1 1 2) := by
  have flattens : pairing.flatten.isOk = true := by decide +kernel
  have accepted (cause : Error) : ¬ pairing.Refuses cause := by
    intro refused
    rw [Options.flatten_eq_error_iff.mpr refused] at flattens
    cases flattens
  let numbers : Tensor := .dense (.made 0) .f32 [1, 2, 3] ⟨[3]⟩
  have called : Binding.ofCall (pairer.subject.signature staged) (feeding [1, 2, 3]).arguments =
      .ok (false, ⟨["x"], [.leaf (.tensor numbers)]⟩) := rfl
  have refused : (Batch.ofOptions pairing).Refuses numbers (.batchDimension ⟨[3]⟩ 3 2 1 1 2) :=
    Batch.narrow_eq_error_iff.mp rfl
  exact .undivided called rfl accepted (.first (List.nil_append _).symm nofun refused)

/-- So a call on them fails while there is no executable, and the platform is not asked; it does not
fail for that once there is one. -/
theorem uneven_rejected_before_anything :
    (∃ reached, (take (feeding [1, 2, 3])).perform (pairer.opening (feeding [1, 2, 3])) =
        (.error (.batchDimension ⟨[3]⟩ 3 2 1 1 2), reached) ∧
      TellsMore (pairer.opening (feeding [1, 2, 3])) reached) ∧
      ((take (feeding [1, 2, 3])).perform equipped).1 ≠
        .error (.batchDimension ⟨[3]⟩ 3 2 1 1 2) ∧
      ∀ episode ∈ pairer.episodes [feeding [1, 2, 3], feeding [1, 2]],
        episode.outcome ≠ .error .unresolvedAnchorMode := by
  obtain ⟨rejections, suited, picked⟩ := rejected_before_anything (Rehearsal.platform true)
  have wraps : pairer.Wraps :=
    .inference (show (inferenceModel ⟨0⟩ pairing).perform shelved = (.ok pairer, staged) from rfl)
  have lossless (cause : Error) : pairer.subject.Spares cause := nofun
  exact ⟨(rejections _ _).1 _ (.inl rfl) feeding_uneven_rejects,
    suited _ (.inr (.inl (.indivisible _ _ _ _ _ _))) (Rehearsal.spares_of_not_fails (by nofun) true)
      _ _ (lossless _) rfl,
    picked (Rehearsal.spares_of_not_fails (by nofun) true) pairer wraps (lossless _) _⟩

/-- An executor that is compiled already does not notice that arguments do not bind when it is to
compile for them. -/
theorem compiled_ignores_arguments :
    (⟨staged, none, true, ⟨[], []⟩⟩ : Turn (Rehearsal.platform true).journaled).Rejects equipped
        (.missingArgument "x") ∧
      ((take (⟨staged, none, true, ⟨[], []⟩⟩ : Turn (Rehearsal.platform true).journaled)).perform
        equipped).1 = .ok none :=
  ⟨.unbound rfl, rfl⟩

end Rehearsed

end Executor

end Suited

end Offload
