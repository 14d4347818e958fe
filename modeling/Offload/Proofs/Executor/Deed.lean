/-
# What an executor does

A deed is one elementary step of an executor in a session of a journaled platform: preparing a
graph, handing it over, refreshing the model it follows, sending or fetching weights, taking note
of something. `Does` lists them all, each with what it needs and what it leaves. A compilation and
the way of a call up to its execution are chains of deeds, and a call that succeeds without
executing has found that the executor never connects. So what holds of every run of an executor is
proved from what one deed and one execution do.
-/

import Offload.Proofs.Executor.Preparing

namespace Offload

namespace Executor

open Attempt Session Relation

variable {P : Platform}

/-- The executable of the executor. -/
def executable? (running : Running P) : Option P.Executable :=
  (running.session.device running.executor.device).executable

/-- Calls of the executor go on to execute. -/
def Connects (executor : Executor P) : Prop :=
  executor.options.connectionType? ≠ some .never

/-- The inputs that the frontend of the executor hands over: a graph captured from the definition
comes with the promoted view. -/
def Picks (executor : Executor P) (views : Views) (inputs : Binding) : Prop :=
  executor.options.traceModel = false → inputs = views.promoted

/-- The weights on the device are behind: those on the host were modified by hand, or the executor
follows a model that was refreshed since it took note. -/
def Behind (running : Running P) : Prop :=
  (running.session.device running.executor.device).deviceStale = true ∨
    running.executor.training = false ∧
      ∃ refreshes ∈ followedRefreshes? running, refreshes ≠ running.executor.refreshesSeen

/-- One elementary step of an executor, with a binding at hand. What a connection needs is done
when the executor connects or the application demands it, and weights are sent when the device is
behind or the application demands it. -/
inductive Does (binding : Binding) (before : Running P.journaled) : Running P.journaled → Prop where
  | tells (reached : Running P.journaled) (tells : Tells before reached) :
      Does binding before reached
  | prepares (reached : Running P.journaled) (fresh : executable? before = none)
      (prepares : Prepares true before reached) : Does binding before reached
  /-- A graph was handed over and refused. -/
  | refused (table : OptionTable) (views : Views) (inputs : Binding) (tag : Tag) (world : P.World)
      (fresh : executable? before = none)
      (drafted : draft before.executor.options binding = .ok (table, views))
      (picks : Picks before.executor views inputs) :
      Does binding before { before with
        session := before.session.asked
          (.compile tag (requestOf before.executor table inputs)) false world }
  /-- A graph was handed over and compiled. -/
  | compiled (table : OptionTable) (views : Views) (inputs : Binding)
      (tagged : Tagged P.Executable) (world : P.World) (fresh : executable? before = none)
      (drafted : draft before.executor.options binding = .ok (table, views))
      (picks : Picks before.executor views inputs)
      (tag : tagged.tag = ⟨before.session.compiled, before.executor.training⟩) :
      Does binding before (install tagged { before with
        session := before.session.asked
          (.compile tagged.tag (requestOf before.executor table inputs)) true world })
  /-- The model that the executor follows was refreshed. -/
  | refreshes (session : Session P.journaled) (errands : Errands false before.session session) :
      Does binding before { before with session := session }
  /-- It was noted how many refreshes the device has seen. -/
  | notes (refreshes : Nat) :
      Does binding before { before with
        executor := { before.executor with refreshesSeen := refreshes } }
  | sends (tagged : Tagged P.Executable) (world : P.World)
      (there : executable? before = some tagged)
      (allowed : before.session.world.demanding = true ∨ Connects before.executor)
      (due : before.session.world.demanding = true ∨ Behind before) :
      Does binding before { before with
        session := before.session.did (.copyToDevice tagged.tag) world before.executor.device
          fun device => { device with deviceStale := false } }
  /-- The weights could not be sent. -/
  | withholds (tagged : Tagged P.Executable) (world : P.World)
      (there : executable? before = some tagged)
      (allowed : before.session.world.demanding = true ∨ Connects before.executor)
      (due : before.session.world.demanding = true ∨ Behind before) :
      Does binding before { before with
        session := before.session.asked (.copyToDevice tagged.tag) false world }
  /-- The weights were fetched since the application demanded it. -/
  | fetches (tagged : Tagged P.Executable) (world : P.World)
      (there : executable? before = some tagged)
      (demanded : before.session.world.demanding = true) :
      Does binding before { before with
        session := before.session.did (.copyToHost tagged.tag) world before.executor.device
          fun device => { device with hostStale := false } }
  /-- The weights could not be fetched. -/
  | misses (tagged : Tagged P.Executable) (world : P.World)
      (there : executable? before = some tagged)
      (demanded : before.session.world.demanding = true) :
      Does binding before { before with
        session := before.session.asked (.copyToHost tagged.tag) false world }
  /-- The program was asked for. -/
  | reads (tagged : Tagged P.Executable) (succeeded : Bool) (world : P.World)
      (there : executable? before = some tagged) :
      Does binding before { before with
        session := before.session.asked (.programText tagged.tag) succeeded world }

/-- Any number of deeds, one after the other. -/
def Deeds (binding : Binding) : Running P.journaled → Running P.journaled → Prop :=
  ReflTransGen (Does binding)

/-- What a successful execution makes of the device: the host falls behind if it trains. -/
def executedSession (tag : Tag) (inputs : List Value) (world : P.World)
    (before : Running P.journaled) : Session P.journaled :=
  let operation := .execute tag inputs (toPush before.executor)
  if before.executor.training then
    before.session.did operation world before.executor.device fun device =>
      { device with hostStale := true }
  else before.session.asked operation true world

/-- The executor executed on some inputs, with an outcome. -/
inductive Executes (inputs : List Value) (before : Running P.journaled) :
    Bool → Running P.journaled → Prop where
  | succeeds (tagged : Tagged P.Executable) (world : P.World)
      (there : executable? before = some tagged) :
      Executes inputs before true
        { executor :=
            { before.executor with
              optimizer := before.executor.requested.orElse fun _ => before.executor.optimizer
              requested := none }
          session := executedSession tagged.tag inputs world before }
  | fails (tagged : Tagged P.Executable) (world : P.World)
      (there : executable? before = some tagged) :
      Executes inputs before false { before with
        session := before.session.asked
          (.execute tagged.tag inputs (toPush before.executor)) false world }

section Keeping

variable {binding : Binding} {before reached : Running P.journaled}

/-- What the executor stays, whatever it does. -/
structure SameRole (before reached : Executor P.journaled) : Prop where
  device : reached.device = before.device
  options : reached.options = before.options
  training : reached.training = before.training
  loss : reached.subject.loss? = before.subject.loss?
  journaled : before.subject.IsJournaled → reached.subject.IsJournaled

theorem SameRole.trans {first second third : Executor P.journaled} (role : SameRole first second)
    (later : SameRole second third) : SameRole first third where
  device := later.device.trans role.device
  options := later.options.trans role.options
  training := later.training.trans role.training
  loss := later.loss.trans role.loss
  journaled := later.journaled ∘ role.journaled

theorem SameRole.connects {before reached : Executor P.journaled} (role : SameRole before reached) :
    Connects reached ↔ Connects before := by
  rw [Connects, Connects, role.options]

theorem Does.role (does : Does binding before reached) :
    SameRole before.executor reached.executor := by
  cases does with
  | tells _ tells =>
      obtain ⟨notices, warned, rfl⟩ := tells
      exact ⟨rfl, rfl, rfl, rfl, id⟩
  | prepares _ fresh prepares =>
      have same : reached.executor = _ := prepares.executor
      exact ⟨by rw [same], by rw [same], by rw [same], prepares.subject.loss,
        prepares.subject.journaled⟩
  | _ => exact ⟨rfl, rfl, rfl, rfl, id⟩

theorem Deeds.role (deeds : Deeds binding before reached) :
    SameRole before.executor reached.executor := by
  induction deeds with
  | refl => exact ⟨rfl, rfl, rfl, rfl, id⟩
  | tail _ does ih => exact ih.trans does.role

/-- An executable stays the executable. -/
theorem Does.executable? {tagged : Tagged P.Executable} (does : Does binding before reached)
    (there : Executor.executable? before = some tagged) :
    Executor.executable? reached = some tagged := by
  have used (fresh : Executor.executable? before = none) : False :=
    nomatch fresh.symm.trans there
  cases does with
  | tells _ tells =>
      obtain ⟨notices, warned, rfl⟩ := tells
      exact there
  | prepares _ fresh prepares => exact (used fresh).elim
  | refused _ _ _ _ _ fresh => exact (used fresh).elim
  | compiled _ _ _ _ _ fresh => exact (used fresh).elim
  | refreshes session errands => exact (errands.ran.executable _).trans there
  | notes refreshes => exact there
  | sends => simpa [Executor.executable?] using there
  | withholds => exact there
  | fetches => simpa [Executor.executable?] using there
  | misses => exact there
  | reads => exact there

theorem Deeds.executable? {tagged : Tagged P.Executable} (deeds : Deeds binding before reached)
    (there : Executor.executable? before = some tagged) :
    Executor.executable? reached = some tagged := by
  induction deeds with
  | refl => exact there
  | tail _ does ih => exact does.executable? ih

/-- Whatever an executor does short of executing, only compiled devices are marked as ahead. -/
theorem Does.supplied (does : Does binding before reached)
    (journaled : before.executor.subject.IsJournaled) (supplied : before.session.Supplied) :
    reached.session.Supplied := by
  intro id stale
  cases does with
  | tells _ tells =>
      obtain ⟨notices, warned, rfl⟩ := tells
      exact supplied id stale
  | prepares _ fresh prepares => exact (prepares.errands journaled).supplied supplied id stale
  | refused => exact supplied id stale
  | compiled =>
      simp only [install, device_update] at stale ⊢
      split at stale
      · next same => rw [if_pos same]; rfl
      · next apart => rw [if_neg apart]; exact supplied id stale
  | refreshes session errands => exact errands.supplied supplied id stale
  | notes refreshes => exact supplied id stale
  | sends =>
      simp only [did_device] at stale ⊢
      split at stale
      · next same => rw [if_pos same]; exact supplied _ stale
      · next apart => rw [if_neg apart]; exact supplied id stale
  | withholds => exact supplied id stale
  | fetches =>
      simp only [did_device] at stale ⊢
      split at stale
      · cases stale
      · next apart => rw [if_neg apart]; exact supplied id stale
  | misses => exact supplied id stale
  | reads => exact supplied id stale

theorem Deeds.civil (deeds : Deeds binding before reached) (civil : Civil before) :
    Civil reached := by
  induction deeds with
  | refl => exact civil
  | tail _ does ih =>
      exact
        { platform := ih.platform
          subject := fun own has => ih.subject own (does.role.loss ▸ has)
          journaled := does.role.journaled ih.journaled
          supplied := does.supplied ih.journaled ih.supplied }

end Keeping

section Compile

/-- What handing a graph over leaves: the entry of its compilation, and a tag if it succeeded. -/
def Submits (request : CompileRequest) (before reached : Running P.journaled) :
    Result (Tagged P.Executable) → Prop
  | .ok tagged => ∃ world, tagged.tag = ⟨before.session.compiled, before.executor.training⟩ ∧
      reached = { before with
        session := before.session.asked (.compile tagged.tag request) true world }
  | .error cause => (P.Spares .notCompiled → cause ≠ .notCompiled) ∧ ∃ tag world,
      reached = { before with
        session := before.session.asked (.compile tag request) false world }

theorem submits_compiling {request : CompileRequest} {step : Attempt P.World P.Executable}
    {before reached : Running P.journaled} {outcome : Result (Tagged P.Executable)}
    (role : request.training = before.executor.training)
    (spares : P.Spares .notCompiled → step.Abides (.sparing .notCompiled))
    (ended : (onWorld (P := P.journaled) (Journaled.compiling request step)).perform before =
      (outcome, reached)) :
    Submits request before reached outcome := by
  have ends : (onWorld (P := P.journaled) (Journaled.compiling request step)).Ends before
      (fun tagged reached => Submits request before reached (.ok tagged))
      fun cause reached => Submits request before reached (.error cause) := by
    rw [onWorld, ends_within]
    apply (Journaled.ends_compiling request step _).mono
    · rintro tagged _ ⟨tag, world, -, rfl⟩
      exact ⟨world, by rw [tag, role]; rfl, rfl⟩
    · rintro cause _ ⟨tag, world, failed, rfl⟩
      exact ⟨fun holds => (spares holds _).error failed, tag, world, rfl⟩
  cases outcome with
  | ok tagged => exact ends.ok ended
  | error cause => exact ends.error ended

/-- What is handed over on a journaled platform, and the inputs that go along. -/
theorem Hands.submits {tracing : Bool} {table : OptionTable} {views : Views}
    {before reached : Running P.journaled} {outcome : Result (Tagged P.Executable)}
    (hands : Hands (P := P.journaled) tracing table views before outcome reached) :
    ∃ inputs, (tracing = false → inputs = views.promoted) ∧
      Submits (requestOf before.executor table inputs) before reached outcome := by
  cases hands with
  | traced graph inputs frontend _ ended =>
      refine ⟨inputs, fun other => ?_,
        submits_compiling rfl (fun holds => holds.compileTraced _ _) ended⟩
      rw [frontend] at other
      exact nomatch other
  | scripted graph _ ended =>
      exact ⟨views.promoted, fun _ => rfl,
        submits_compiling rfl (fun holds => holds.compileScripted _ _) ended⟩

theorem Prepares.executable? {before reached : Running P.journaled}
    (prepares : Prepares true before reached) (journaled : before.executor.subject.IsJournaled) :
    Executor.executable? reached = Executor.executable? before := by
  rw [Executor.executable?, show reached.executor.device = before.executor.device by
    rw [show reached.executor = _ from prepares.executor]]
  exact (prepares.errands journaled).ran.executable _

/-- Compiling is a chain of deeds. A civil executor does not fail for a missing executable. -/
theorem ends_compileBinding_deeds {running : Running P.journaled} (binding : Binding)
    (journaled : running.executor.subject.IsJournaled) (fresh : executable? running = none) :
    (compileBinding binding).Ends running
      (fun _ reached => Deeds binding running reached ∧ (executable? reached).isSome = true)
      fun cause reached => Deeds binding running reached ∧
        (Civil running → cause ≠ .notCompiled) := by
  have starts {reached : Running P.journaled} (prepares : Prepares true running reached) :
      Deeds binding running reached := .single (.prepares reached fresh prepares)
  have drafts {before : Running P.journaled} {table : OptionTable} {views : Views}
      (prepares : Prepares true running before)
      (drafted : draft running.executor.options binding = .ok (table, views)) :
      draft before.executor.options binding = .ok (table, views) := by
    rw [show before.executor = _ from prepares.executor]
    exact drafted
  have picks {before : Running P.journaled} {views : Views} {inputs : Binding}
      (prepares : Prepares true running before)
      (picks : running.executor.options.traceModel = false → inputs = views.promoted) :
      Picks before.executor views inputs := by
    rw [Picks, show before.executor = _ from prepares.executor]
    exact picks
  refine (ends_compileBinding_handed patient_preparing (.refl _) binding running
    (fun prepares => by rw [show _ = _ from prepares.executor])
    fun views _ => abides_frontend _ views).mono ?_ ?_
  · rintro _ _ ⟨table, views, before, tagged, handed, drafted, prepares, -, hands, rfl⟩
    obtain ⟨inputs, picked, world, tag, rfl⟩ := hands.submits
    have unused := (prepares.executable? journaled).trans fresh
    refine ⟨.tail (starts prepares) (.compiled table views inputs tagged world unused
      (drafts prepares drafted) (picks prepares picked) tag), ?_⟩
    simp [install, executable?]
  · rintro cause reached (⟨drafted, prepares⟩ | ⟨prepares, spares⟩ |
      ⟨table, views, before, drafted, prepares, hands⟩)
    · exact ⟨starts prepares, fun _ same => draft_spares _ _ (same ▸ drafted)⟩
    · exact ⟨starts prepares, spares⟩
    · obtain ⟨inputs, picked, spares, tag, world, rfl⟩ := hands.submits
      have unused := (prepares.executable? journaled).trans fresh
      exact ⟨.tail (starts prepares) (.refused table views inputs tag world unused
        (drafts prepares drafted) (picks prepares picked)),
        fun civil => spares (prepares.civil civil).platform⟩

/-- An executor has an executable, or it does not. -/
theorem isCompiled_eq (running : Running P) :
    isCompiled running = (executable? running).isSome := rfl

/-- Making sure that there is an executable is a chain of deeds. -/
theorem ends_ensureCompiled_deeds {running : Running P.journaled} (binding : Binding)
    (journaled : running.executor.subject.IsJournaled) :
    (ensureCompiled (P := P.journaled) binding).Ends running
      (fun _ reached => Deeds binding running reached ∧ (executable? reached).isSome = true)
      fun cause reached => Deeds binding running reached ∧
        (Civil running → cause ≠ .notCompiled) := by
  rw [ensureCompiled, ends_bind, ends_get, isCompiled_eq]
  split
  · next compiled => exact ⟨.refl, compiled⟩
  · next fresh =>
      exact ends_compileBinding_deeds binding journaled (Option.not_isSome_iff_eq_none.mp fresh)

/-- Compiling without executing is a chain of deeds. -/
theorem ends_compile_deeds {running : Running P.journaled} (arguments : CallArguments)
    (journaled : running.executor.subject.IsJournaled) :
    (compile (P := P.journaled) arguments).Ends running
      (fun _ reached => ∃ binding, Deeds binding running reached)
      fun _ reached => ∃ binding, Deeds binding running reached := by
  rw [compile, ends_bind, ends_get, isCompiled_eq]
  split
  · exact ⟨default, .refl⟩
  · next fresh =>
      rw [ends_bind]
      refine (ends_bind_arguments arguments running).mono ?_ ?_
      · rintro binding _ ⟨densified, -, rfl⟩
        have tells := tells_heeding densified running
        have unused : executable? (heeding densified running) = none := by
          obtain ⟨notices, warned, same⟩ := tells
          rw [same]
          exact Option.not_isSome_iff_eq_none.mp fresh
        have told : Deeds binding running (heeding densified running) := .single (.tells _ tells)
        exact (ends_compileBinding_deeds binding (told.role.journaled journaled) unused).mono
          (fun _ _ ended => ⟨binding, told.trans ended.1⟩)
          fun _ _ ended => ⟨binding, told.trans ended.1⟩
      · rintro cause _ ⟨-, rfl⟩
        exact ⟨default, .refl⟩

end Compile

section Call

variable {running : Running P.journaled} {tagged : Tagged P.Executable}

/-- Sending weights is a deed of an executor that connects and whose device is behind. Afterwards
the device is not marked. -/
theorem ends_sending (binding : Binding) (there : executable? running = some tagged)
    (allowed : running.session.world.demanding = true ∨ Connects running.executor)
    (due : running.session.world.demanding = true ∨ Behind running) :
    (copyToDevice (P := P.journaled)).Ends running
      (fun _ reached => Does binding running reached ∧
        (reached.session.device reached.executor.device).deviceStale = false)
      fun cause reached => Does binding running reached ∧
        (Civil running → cause ≠ .notCompiled) := by
  rw [copyToDevice, ends_bind, ends_get, ends_onSession]
  refine (ends_copying running.executor.device _ running.session).mono ?_ ?_
  · rintro _ _ ⟨found, world, found_there, -, rfl⟩
    exact ⟨.sends found world found_there allowed due, by rw [did_device, if_pos rfl]⟩
  · rintro cause _ (⟨none, -, -⟩ | ⟨found, world, found_there, failed, rfl⟩)
    · exact nomatch none.symm.trans there
    · exact ⟨.withholds found world found_there allowed due, fun civil =>
        (civil.platform.copyToDevice found.executable _).error failed⟩

/-- Taking note of refreshes is a deed. -/
theorem ends_noteRefreshes (binding : Binding) (running : Running P.journaled) :
    (noteRefreshes (P := P.journaled)).Ends running
      (fun _ reached => Deeds binding running reached) fun _ _ => False := by
  rw [noteRefreshes, ends_bind, ends_get]
  split
  · next refreshes _ => exact .single (.notes refreshes)
  · exact .refl

/-- Telling the application something does not bring a device up to date. -/
theorem Tells.behind {before reached : Running P.journaled} (tells : Tells before reached)
    (behind : Behind before) : Behind reached := by
  obtain ⟨notices, warned, rfl⟩ := tells
  exact behind

/-- Bringing the device up to date with the model is a chain of deeds. -/
theorem ends_followModel_deeds (binding : Binding) (there : executable? running = some tagged)
    (connects : Connects running.executor) (watches : running.executor.training = false) :
    (followModel (P := P.journaled)).Ends running
      (fun _ reached => Deeds binding running reached)
      fun cause reached => Deeds binding running reached ∧
        (Civil running → cause ≠ .notCompiled) := by
  rw [followModel, ends_bind, ends_get]
  split
  · exact .refl
  · next handle follows =>
      have resolves : (resolve (P := P.journaled) handle).Abides
          (errandsVerdict false (P.Spares .notCompiled)) := abides_resolve id handle
      rw [ends_bind, ends_onSession]
      refine (resolves running.session).mono ?_ ?_
      · intro _ session errands
        have resolved : Deeds binding running { running with session := session } :=
          .single (.refreshes session errands)
        rw [ends_bind, ends_get]
        split
        · next unseen =>
          have behind : Behind { running with session := session } :=
            .inr ⟨watches, _, by rw [followedRefreshes?, follows]; rfl, unseen⟩
          rw [ends_bind]
          refine ends_notify fun told tells => ?_
          have told_deeds : Deeds binding running told := resolved.tail (.tells told tells)
          rw [ends_bind]
          refine (ends_sending binding (told_deeds.executable? there) (.inr ?_)
            (.inr (tells.behind behind))).mono ?_ ?_
          · exact told_deeds.role.connects.mpr connects
          · intro _ sent sends
            exact (ends_noteRefreshes binding sent).mono
              (fun _ _ notes => (told_deeds.tail sends.1).trans notes) fun _ _ => False.elim
          · exact fun cause sent ended =>
              ⟨told_deeds.tail ended.1, fun civil => ended.2 (told_deeds.civil civil)⟩
        · exact resolved
      · exact fun cause session failed => ⟨.single (.refreshes session failed.1), fun civil =>
          failed.2 ⟨civil.platform, civil.supplied⟩⟩

/-- Sending weights that were modified by hand is a chain of deeds, after which the device is not
marked. -/
theorem ends_sendModified_deeds (binding : Binding) (there : executable? running = some tagged)
    (connects : Connects running.executor) :
    (sendModified (P := P.journaled)).Ends running
      (fun _ reached => Deeds binding running reached ∧
        (reached.session.device reached.executor.device).deviceStale = false)
      fun cause reached => Deeds binding running reached ∧
        (Civil running → cause ≠ .notCompiled) := by
  rw [sendModified, ends_bind, ends_get]
  split
  · next modified =>
    rw [ends_bind]
    refine ends_notify fun told tells => ?_
    have told_deeds : Deeds binding running told := .single (.tells told tells)
    refine (ends_sending binding (told_deeds.executable? there) (.inr ?_)
      (.inr (tells.behind (.inl modified)))).mono ?_ ?_
    · exact told_deeds.role.connects.mpr connects
    · exact fun _ sent sends => ⟨told_deeds.tail sends.1, sends.2⟩
    · exact fun cause sent ended =>
        ⟨told_deeds.tail ended.1, fun civil => ended.2 (told_deeds.civil civil)⟩
  · next unmodified => exact ⟨.refl, Bool.eq_false_iff.mpr unmodified⟩

/-- An execution leaves one entry; a success pushes what was to be pushed. -/
theorem ends_execute_executes (inputs : List Value) (there : executable? running = some tagged) :
    (execute (P := P.journaled) inputs).Ends running
      (fun _ reached => Executes inputs running true reached)
      fun cause reached => Executes inputs running false reached ∧
        (Civil running → cause ≠ .notCompiled) := by
  have found : (running.session.device running.executor.device).executable = some tagged := there
  simp only [execute, ends_bind, ends_get, ends_onSession, ends_withExecutable, found]
  apply (ends_onWorld_noted _ _ _).mono
  · rintro results _ ⟨world, -, rfl⟩
    have succeeds : Executes inputs running true _ := .succeeds tagged world there
    unfold executedSession at succeeds
    rw [update, ends_modify]
    split
    · next trains =>
        rw [if_pos trains] at succeeds
        rw [ends_bind, ends_onSession, markHostStale, updateDevice, ends_modify, ends_pure]
        exact succeeds
    · next watches =>
        rw [if_neg watches] at succeeds
        exact succeeds
  · rintro cause _ ⟨world, failed, rfl⟩
    exact ⟨.fails tagged world there, fun civil =>
      (civil.platform.execute tagged.executable _ _ _).error failed⟩

/-- How a call comes to a state in which it can be executed: it is bound, the executor is compiled
for its binding, and only deeds follow. -/
inductive Readies (arguments : CallArguments) (binding : Binding)
    (before ready : Running P.journaled) : Prop where
  | mk (densified : Bool) (compiled : Running P.journaled)
      (bound : Binding.ofCall (before.executor.subject.signature before.session) arguments =
        .ok (densified, binding))
      (ensured : (ensureCompiled binding).perform (heeding densified before) = (.ok (), compiled))
      (deeds : Deeds binding compiled ready)

theorem Readies.trans {arguments : CallArguments} {binding : Binding}
    {before ready later : Running P.journaled} (readies : Readies arguments binding before ready)
    (deeds : Deeds binding ready later) : Readies arguments binding before later := by
  obtain ⟨densified, compiled, bound, ensured, earlier⟩ := readies
  exact ⟨densified, compiled, bound, ensured, earlier.trans deeds⟩

/-- How a call may go. Up to the execution, if it comes to one, it is a chain of deeds, and only a
failed or a successful execution follows, of a device that is not marked. -/
inductive Called (arguments : CallArguments) (before : Running P.journaled) :
    Result Output → Running P.journaled → Prop where
  | failed (binding : Binding) (cause : Error) (reached : Running P.journaled)
      (deeds : Deeds binding before reached) (spares : Civil before → cause ≠ .notCompiled) :
      Called arguments before (.error cause) reached
  | refused (binding : Binding) (ready : Running P.journaled) (cause : Error)
      (reached : Running P.journaled) (deeds : Deeds binding before ready)
      (connects : Connects before.executor) (executes : Executes binding.leaves ready false reached)
      (spares : Civil before → cause ≠ .notCompiled)
      (settled : (ready.session.device ready.executor.device).deviceStale = false)
      (readies : Readies arguments binding before ready) :
      Called arguments before (.error cause) reached
  | stopped (binding : Binding) (reached : Running P.journaled)
      (deeds : Deeds binding before reached) (never : ¬ Connects before.executor) :
      Called arguments before (.ok .notExecuted) reached
  | executed (binding : Binding) (ready : Running P.journaled) (results : List Tree)
      (reached : Running P.journaled) (deeds : Deeds binding before ready)
      (connects : Connects before.executor)
      (executes : Executes binding.leaves ready true reached)
      (settled : (ready.session.device ready.executor.device).deviceStale = false)
      (readies : Readies arguments binding before ready) :
      Called arguments before (.ok (.ofResults results)) reached

/-- The last steps of a call that connects. -/
theorem ends_executing {before : Running P.journaled} {arguments : CallArguments}
    {binding : Binding} (deeds : Deeds binding before running)
    (readies : Readies arguments binding before running) (there : executable? running = some tagged)
    (connects : Connects before.executor) :
    (do
      sendModified
      return .ofResults (← execute binding.leaves) : Attempt (Running P.journaled) Output).Ends
      running (fun output reached => Called arguments before (.ok output) reached)
      fun cause reached => Called arguments before (.error cause) reached := by
  rw [ends_bind]
  refine (ends_sendModified_deeds binding there (deeds.role.connects.mpr connects)).mono ?_ ?_
  · rintro _ ready ⟨sends, settled⟩
    have deeds : Deeds binding before ready := deeds.trans sends
    have readies := readies.trans sends
    rw [ends_bind]
    refine (ends_execute_executes binding.leaves (sends.executable? there)).mono ?_ ?_
    · exact fun results reached executes => .executed binding ready results reached deeds connects
        executes settled readies
    · exact fun cause reached ended => .refused binding ready cause reached deeds connects ended.1
        (fun civil => ended.2 (deeds.civil civil)) settled readies
  · exact fun cause reached ended => .failed binding cause reached (deeds.trans ended.1)
      fun civil => ended.2 (deeds.civil civil)

/-- Every call is a chain of deeds that may end in an execution. -/
theorem ends_call_called {before : Running P.journaled} (arguments : CallArguments)
    (journaled : before.executor.subject.IsJournaled) :
    (call (P := P.journaled) arguments).Ends before
      (fun output reached => Called arguments before (.ok output) reached)
      fun cause reached => Called arguments before (.error cause) reached := by
  rw [call, ends_bind]
  refine (ends_bind_arguments arguments before).mono ?_ ?_
  · rintro binding _ ⟨densified, bound, rfl⟩
    have told : Deeds binding before (heeding densified before) :=
      .single (.tells _ (tells_heeding densified before))
    rw [ends_bind]
    refine ((ends_ensureCompiled_deeds binding (told.role.journaled journaled)).and
      (ends_perform _ _)).mono ?_ ?_
    · rintro _ compiled ⟨⟨compiles, has⟩, ensured⟩
      have deeds : Deeds binding before compiled := told.trans compiles
      have readies : Readies arguments binding before compiled :=
        ⟨densified, compiled, bound, ensured, .refl⟩
      obtain ⟨tagged, there⟩ := Option.isSome_iff_exists.mp has
      rw [ends_bind, ends_get]
      dsimp only
      split
      · next never =>
          rw [ends_bind]
          refine ends_notify fun stopped tells => ?_
          refine .stopped binding stopped (deeds.tail (.tells stopped tells)) fun connects => ?_
          exact deeds.role.connects.mpr connects never
      · next connects =>
          have connects : Connects before.executor := deeds.role.connects.mp connects
          split
          · next watches =>
            rw [ends_bind]
            refine (ends_followModel_deeds binding there (deeds.role.connects.mpr connects)
              (by simpa using watches)).mono ?_ ?_
            · exact fun _ followed follows => ends_executing (deeds.trans follows)
                (readies.trans follows) (follows.executable? there) connects
            · exact fun cause reached ended => .failed binding cause reached
                (deeds.trans ended.1) fun civil => ended.2 (deeds.civil civil)
          · exact ends_executing deeds readies there connects
    · rintro cause reached ⟨⟨deeds, spares⟩, -⟩
      exact .failed binding cause reached (told.trans deeds) fun civil => spares (told.civil civil)
  · rintro cause _ ⟨bound, rfl⟩
    exact .failed default cause _ .refl fun _ same =>
      ofCall_spares (by nofun) (by nofun) _ _ (same ▸ bound)

theorem called_call {before : Running P.journaled} (arguments : CallArguments)
    (journaled : before.executor.subject.IsJournaled) :
    Called arguments before ((call (P := P.journaled) arguments).perform before).1
      ((call (P := P.journaled) arguments).perform before).2 := by
  have ends := ends_call_called arguments journaled
  unfold Ends at ends
  split at ends <;> rename_i ended <;> rw [ended] <;> exact ends

end Call

end Executor

end Offload
