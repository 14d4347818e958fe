/-
# What an executor does up to the hand-over

Up to the point where a graph is handed over, compiling tends to a model and to nothing else: the
executor stays as it is, its own model may be cast, and the session is attended to. Whether stale
weights may be refreshed on the way depends on the capture; a capture that asks for the model comes to
a good end only after they were.
-/

import Offload.Proofs.Executor.Compiling
import Offload.Proofs.Retry.Attending

namespace Offload

namespace Executor

open Attempt Session

variable {P : Platform}

/-- The subject is the one that it was; a model of its own may be another one, that declares the same
parameters. -/
inductive Recast : Subject P.journaled → Subject P.journaled → Prop where
  | same (subject : Subject P.journaled) : Recast subject subject
  | own (model model' : P.Model) (signature : P.model.signature model' = P.model.signature model) :
      Recast (.own model) (.own model')

variable (flag : P.World → Bool)

/-- The executor is what it was, but for a model of its own, and its session was attended to. -/
structure Tends (refreshing : Prop) (before reached : Running P.journaled) : Prop where
  executor : reached.executor = { before.executor with subject := reached.executor.subject }
  subject : Recast before.executor.subject reached.executor.subject
  session : Attends flag before.executor.subject.followed? refreshing before.session
    reached.session

/-- The subject came from the platform without its journal, and a hook outside the library keeps to its
flag. -/
structure Ready (running : Running P.journaled) : Prop where
  journaled : running.executor.subject.IsJournaled
  signalled : running.session.Signalled flag running.executor.subject.followed?

variable {flag} {refreshing : Prop} {before reached last : Running P.journaled}

theorem Recast.followed {before reached : Subject P.journaled} (recast : Recast before reached) :
    reached.followed? = before.followed? := by
  cases recast <;> rfl

theorem Recast.trans {first second third : Subject P.journaled} (recast : Recast first second)
    (later : Recast second third) : Recast first third := by
  cases recast with
  | same => exact later
  | own model model' signature =>
      cases later with
      | same => exact .own model model' signature
      | own _ model'' signature' => exact .own model model'' (signature'.trans signature)

theorem Recast.journaled {before reached : Subject P.journaled} (recast : Recast before reached)
    (journaled : before.IsJournaled) : reached.IsJournaled := by
  cases recast with
  | same => exact journaled
  | own model model' => exact ⟨.own model', rfl⟩

theorem Recast.signature {before reached : Subject P.journaled} (recast : Recast before reached)
    {session session' : Session P.journaled}
    (same : ∀ handle, session'.signature handle = session.signature handle) :
    reached.signature session' = before.signature session := by
  cases recast with
  | same =>
      cases before with
      | own model => rfl
      | shared handle => exact same handle
      | training handle loss => rfl
  | own model model' signature => exact signature

theorem Tends.followed (tends : Tends flag refreshing before reached) :
    reached.executor.subject.followed? = before.executor.subject.followed? :=
  tends.subject.followed

instance : IsPreorder (Running P.journaled) (Tends flag refreshing) where
  refl _ := ⟨rfl, .same _, .refl _⟩
  trans first second third tends later :=
    { executor := by
        rw [later.executor, show second.executor = _ from tends.executor]
      subject := tends.subject.trans later.subject
      session := tends.session.trans (tends.followed ▸ later.session) }

theorem Tends.mono {wider : Prop} (tends : Tends flag refreshing before reached)
    (weaker : refreshing → wider) : Tends flag wider before reached :=
  ⟨tends.executor, tends.subject, tends.session.mono weaker⟩

theorem Tends.ready (tends : Tends flag refreshing before reached) (ready : Ready flag before) :
    Ready flag reached where
  journaled := tends.subject.journaled ready.journaled
  signalled := by
    rw [tends.followed]
    exact tends.session.signalled ready.signalled

/-- What is done tends to the model, if hooks keep to their flag, and a failure is to blame on an entry
that failed or on somebody who holds the model. -/
def tending (flag : P.World → Bool) (refreshing : Prop) : Verdict (Running P.journaled) :=
  .blaming (Ready flag) (Tends flag refreshing)
    (fun before cause reached => Blamed before.session cause reached.session)
    (fun tends ready => tends.ready ready) (fun tends blamed => tends.session.blamed blamed)
    fun blamed tends => blamed.later tends.session

section Abides

variable {α τ : Type}

/-- Where a hook does not keep to its flag, nothing is said. -/
theorem abides_tending {step : Attempt (Running P.journaled) α}
    (ends : ∀ running, Ready flag running → step.Ends running
      (fun _ reached => Tends flag refreshing running reached)
      fun cause reached => Tends flag refreshing running reached ∧
        Blamed running.session cause reached.session) : step.Abides (tending flag refreshing) := by
  intro running
  by_cases ready : Ready flag running
  · exact (ends running ready).mono (fun _ _ tends _ => tends) fun _ _ failed _ => failed
  · exact (ends_somehow step running).mono (fun _ _ _ other => absurd other ready)
      fun _ _ _ other => absurd other ready

/-- The same of work on a captured graph. -/
theorem abides_tending_onRest {step : Attempt (τ × Running P.journaled) α}
    (ends : ∀ state, Ready flag state.2 → step.Ends state
      (fun _ reached => Tends flag refreshing state.2 reached.2)
      fun cause reached => Tends flag refreshing state.2 reached.2 ∧
        Blamed state.2.session cause reached.2.session) :
    step.Abides (tending flag refreshing).onRest := by
  intro state
  by_cases ready : Ready flag state.2
  · exact (ends state ready).mono (fun _ _ tends _ => tends) fun _ _ failed _ => failed
  · exact (ends_somehow step state).mono (fun _ _ _ other => absurd other ready)
      fun _ _ _ other => absurd other ready

end Abides

/-- What is done on the session tends to the model if it attends to it. -/
theorem tends_session {session : Session P.journaled}
    (attends : Attends flag before.executor.subject.followed? refreshing before.session session) :
    Tends flag refreshing before { before with session := session } :=
  ⟨rfl, .same _, attends⟩

/-- Asking for the layers of the subject. -/
theorem abides_layers_tending :
    (answers (P := P.journaled)).layers.Abides (tending flag refreshing) := by
  refine abides_tending fun running ready => ?_
  simp only [answers, ends_bind, ends_get, ends_onSession]
  refine Ends.mono ?_ (fun _ _ => tends_session)
    fun _ _ (failed : _ ∧ _) => ⟨tends_session failed.1, failed.2⟩
  have signalled := ready.signalled
  unfold Subject.layers
  cases subject : running.executor.subject with
  | own model =>
      refine ends_asking (fun _ _ => rfl) fun hook there => ?_
      cases there
  | shared handle => exact Session.ends_layers handle (subject ▸ signalled)
  | training handle loss => exact Session.ends_layers handle (subject ▸ signalled)

/-- Casting a layer of the subject. -/
theorem abides_castLayer_tending (signatures : P.KeepsSignatures) (layer : String) (dtype : DType) :
    (castLayer (P := P.journaled) layer dtype).Abides (tending flag refreshing) := by
  refine abides_tending fun running ready => ?_
  have shares (handle : Handle) (subject : Subject P.journaled)
      (same : running.executor.subject = subject) :
      (onRest (Session.castLayer handle layer dtype) : Attempt (Subject P.journaled × _) Unit).Ends
        (subject, running.session)
        (fun _ part => Tends flag refreshing running (subjectFocus.set part running))
        fun cause part => Tends flag refreshing running (subjectFocus.set part running) ∧
          Blamed running.session cause part.2 := by
    rw [onRest, ends_within, ← same]
    refine (Session.ends_castLayer handle layer dtype signatures ready.signalled).mono
      (fun _ _ => tends_session) fun _ _ failed => ⟨tends_session failed.1, failed.2⟩
  rw [castLayer, ends_within, Subject.castLayer, ends_bind, ends_get]
  simp only [subjectFocus] at shares ⊢
  cases same : running.executor.subject with
  | own model =>
      have unhooked (hook : P.journaled.Hook) :
          running.session.followedHook? running.executor.subject.followed? ≠
            some (.outside hook) := by
        rw [same]
        rintro ⟨⟩
      have casts (part : P.Model × P.World) (succeeded : Bool) {outcome : Result Unit}
          (ended : (P.model.castLayer layer dtype).perform
            (model, running.session.world.world) = (outcome, part)) :
          Tends flag refreshing running
            { executor := { running.executor with subject := .own part.1 }
              session := running.session.asked (.castLayer layer dtype) succeeded part.2 } := by
        have signature := signatures layer dtype model running.session.world.world
        rw [ended] at signature
        exact
          { executor := rfl
            subject := by
              rw [same]
              exact Recast.own (P := P) model part.1 signature
            session := attends_asked (fun _ => rfl) fun hook there => absurd there (unhooked hook) }
      rw [ends_within]
      refine (Journaled.ends_notingBeside _ _ _).mono ?_ ?_
      · rintro _ _ ⟨part, ended, rfl⟩
        exact casts part true ended
      · rintro cause _ ⟨part, ended, rfl⟩
        exact ⟨casts part false ended, blamed_asked⟩
  | shared handle => exact shares handle _ same
  | training handle loss => exact shares handle _ same

/-- Work on a captured graph. -/
theorem abides_onGraph_tending {operation : Operation} {step : Attempt (P.Graph × P.World) Unit}
    (kind : ∀ succeeded demanded, (⟨operation, succeeded, demanded⟩ : Entry).executes = false)
    (keeps : ∀ hook, P.Signals hook flag → step.Obeys (OnRest (SameFlag flag))) :
    (onGraph (P := P.journaled) (Journaled.notingBeside operation step)).Abides
      (tending flag refreshing).onRest := by
  refine abides_tending_onRest fun state ready => ?_
  have tends (part : P.Graph × P.World) (succeeded : Bool) {outcome : Result Unit}
      (ended : step.perform (state.1, state.2.session.world.world) = (outcome, part)) :
      Tends flag refreshing state.2
        (worldFocus.set (state.2.session.world.asked operation succeeded part.2) state.2) := by
    refine tends_session (attends_asked (kind _) fun hook there => ?_)
    have kept := keeps hook (ready.signalled hook there) (state.1, state.2.session.world.world)
    rw [ended] at kept
    exact kept
  rw [onGraph, ends_within]
  refine (Journaled.ends_notingBeside operation step _).mono ?_ ?_
  · rintro _ _ ⟨part, ended, rfl⟩
    exact tends part true ended
  · rintro cause _ ⟨part, ended, rfl⟩
    exact ⟨tends part false ended, blamed_asked⟩

theorem patient_tending (signatures : P.KeepsSignatures) :
    Patient (P := P.journaled) (tending flag refreshing) where
  notices _ notices _ := tends_session (attends_notices notices)
  inferInput position sample :=
    abides_onGraph_tending (fun _ _ => rfl) fun _ signals => signals.inferInput position sample
  layers := abides_layers_tending
  cast := abides_castLayer_tending signatures
  castGraph layer dtype :=
    abides_onGraph_tending (fun _ _ => rfl) fun _ signals => signals.castGraphLayer layer dtype

section Capture

/-- The weights of the model that is followed are not stale. -/
def Calm (flag : P.World → Bool) (running : Running P.journaled) : Prop :=
  (running.session.site flag running.executor.subject.followed?).stale = false

theorem Tends.calm (tends : Tends flag refreshing before reached) (calm : Calm flag before) :
    Calm flag reached := by
  rw [Calm, tends.followed]
  exact tends.session.calm calm

/-- An executor that follows no model is calm. -/
theorem calm_of_unfollowed (unfollowed : before.executor.subject.followed? = none) :
    Calm flag before := by
  rw [Calm, unfollowed]
  rfl

/-- What is done on the session tends to the model if it attends to it. -/
theorem ends_onSession_tending {α : Type} {step : Attempt (Session P.journaled) α}
    (ends : step.Ends before.session
      (fun _ session => Attends flag before.executor.subject.followed? True before.session session ∧
        (session.site flag before.executor.subject.followed?).stale = false)
      fun _ session => Attends flag before.executor.subject.followed? True before.session session)
    (may : refreshing) :
    (onSession step).Ends before
      (fun _ reached => Tends flag refreshing before reached ∧ Calm flag reached)
      fun _ reached => Tends flag refreshing before reached :=
  ends_onSession.mpr (ends.mono
    (fun _ _ ended => ⟨tends_session (ended.1.mono fun _ => may), ended.2⟩)
    fun _ _ attends => tends_session (attends.mono fun _ => may))

/-- A model that is refreshed and then used is fresh after a use that succeeded. -/
theorem ends_refreshing {α : Type} {handle : Handle} {session : Session P.journaled}
    {use : Attempt (Session P.journaled) α} (signalled : session.Signalled flag (some handle))
    (uses : ∀ reached : Session P.journaled, reached.Signalled flag (some handle) →
      use.Ends reached (fun _ last => Attends flag (some handle) True reached last)
        fun _ last => Attends flag (some handle) True reached last) :
    (do let _ ← resolve handle; use : Attempt (Session P.journaled) α).Ends session
      (fun _ last => Attends flag (some handle) True session last ∧
        (last.site flag (some handle)).stale = false)
      fun _ last => Attends flag (some handle) True session last := by
  rw [ends_bind]
  refine (ends_resolve signalled).mono (fun _ reached ⟨attends, _, refreshed⟩ => ?_)
    fun _ _ failed => failed.1.mono False.elim
  have calm : (reached.site flag (some handle)).stale = false := by
    rw [refreshed]
    exact Site.refreshed_calm rfl
  exact (uses reached (attends.signalled signalled)).mono
    (fun _ _ later => ⟨attends.trans later, later.calm calm⟩) fun _ _ later => attends.trans later

/-- Nothing is stale for an executor that follows no model. -/
theorem unfollowed_calm (session : Session P.journaled) : (session.site flag none).stale = false :=
  rfl

theorem signalled_none (session : Session P.journaled) : session.Signalled flag none := nofun

/-- A model of its own is asked. -/
theorem ends_asking_unfollowed {α : Type} {operation : Operation} {step : Attempt P.World α}
    {session : Session P.journaled}
    (kind : ∀ succeeded demanded, (⟨operation, succeeded, demanded⟩ : Entry).executes = false) :
    (Session.onWorld (P := P.journaled) (Journaled.noting operation step)).Ends session
      (fun _ reached => Attends flag none True session reached ∧
        (reached.site flag none).stale = false)
      fun _ reached => Attends flag none True session reached := by
  refine (ends_asking kind fun hook there => ?_).mono
    (fun _ reached attends => ⟨attends, unfollowed_calm reached⟩) fun _ _ => And.left
  exact nomatch there

/-- An answered question for the parameters leaves the weights fresh. -/
theorem ends_parameters_tending (ready : Ready flag before) (may : refreshing) :
    (answers (P := P.journaled)).parameters.Ends before
      (fun _ reached => Tends flag refreshing before reached ∧ Calm flag reached)
      fun _ reached => Tends flag refreshing before reached := by
  have signalled := ready.signalled
  simp only [answers, ends_bind, ends_get]
  refine ends_onSession_tending ?_ may
  unfold Subject.parameters
  cases subject : before.executor.subject with
  | own model =>
      exact ends_asking_unfollowed fun _ _ => rfl
  | shared handle =>
      rw [subject] at signalled
      exact ends_refreshing signalled fun _ => ends_parametersAsIs handle
  | training handle loss =>
      exact (ends_parametersAsIs handle (signalled_none _)).mono
        (fun _ session attends => ⟨attends, unfollowed_calm session⟩) fun _ _ => id

/-- The world became another one, with the same flag for a hook outside the library. -/
theorem attends_turned {followed : Option Handle} {session : Session P.journaled} {world : P.World}
    (flags : ∀ hook, session.followedHook? followed = some (.outside hook) →
      flag world = flag session.world.world) :
    Attends flag followed refreshing session
      { session with world := { session.world with world := world } } where
  cells _ := .refl _
  grows := ⟨rfl, [], (List.append_nil _).symm, by simp⟩
  site := .inl (site_eq rfl rfl (fun _ => rfl) flags)

/-- A model is run together with its loss. -/
theorem obeys_trainingForward (handle : Handle) (loss : Option (Loss P)) (inputs : List Tree)
    (session : Session P.journaled) :
    (Subject.trainingForward (P := P.journaled) handle (loss.map Loss.journaled) inputs).Ends session
      (fun _ reached => Attends flag none True session reached)
      fun _ reached => Attends flag none True session reached := by
  unfold Subject.trainingForward
  split
  · exact .refl _
  · rw [ends_bind]
    refine (ends_forwardAsIs handle _ (signalled_none _)).mono (fun output run attends => ?_)
      fun _ _ => id
    split
    · exact attends
    · next given =>
        obtain ⟨plain, -, rfl⟩ := Option.map_eq_some_iff.mp given
        rw [ends_bind, Session.onWorld, ends_within, Loss.journaled, ends_within]
        refine (ends_somehow _ _).mono (fun _ world _ => ?_) fun _ world _ => ?_
        · exact attends.trans (attends_turned nofun)
        · exact attends.trans (attends_turned nofun)

/-- An answered request to run the model leaves the weights fresh. -/
theorem ends_forward_tending (ready : Ready flag before) (may : refreshing) (inputs : List Tree) :
    ((answers (P := P.journaled)).forward inputs).Ends before
      (fun _ reached => Tends flag refreshing before reached ∧ Calm flag reached)
      fun _ reached => Tends flag refreshing before reached := by
  have signalled := ready.signalled
  have journaled := ready.journaled
  simp only [answers, ends_bind, ends_get]
  refine ends_onSession_tending ?_ may
  unfold Subject.forward
  cases subject : before.executor.subject with
  | own model =>
      exact ends_asking_unfollowed fun _ _ => rfl
  | shared handle =>
      rw [subject] at signalled
      exact ends_refreshing signalled fun _ => ends_forwardAsIs handle inputs
  | training handle loss =>
      rw [subject] at journaled
      obtain ⟨plain, same⟩ := journaled
      cases plain with
      | own model => cases same
      | shared handle => cases same
      | training handle plain =>
          obtain ⟨rfl, rfl⟩ := Subject.training.inj same
          exact (obeys_trainingForward _ plain inputs _).mono
            (fun _ session attends => ⟨attends, unfollowed_calm session⟩) fun _ _ => id

/-- In the course of a capture, with the dialogue as it goes on: the model was tended to, and either
the weights are fresh or the dialogue still has to ask for the model. -/
structure Talks (flag : P.World → Bool) (refreshing asking : Prop) (before : Running P.journaled)
    (dialogue : Capture P.World P.Graph) (state : Running P.journaled) : Prop where
  within : Tends flag refreshing before state
  silent : refreshing ∨ dialogue.Silent
  asks : asking → Calm flag state ∨ dialogue.Asks
  keeps : ∀ hook,
    before.session.followedHook? before.executor.subject.followed? = some (.outside hook) →
      dialogue.Keeps flag (flag state.session.world.world)

namespace Talks

variable {asking : Prop} {state : Running P.journaled} {β : Type}

theorem look {next : P.World → Capture P.World P.Graph}
    (talks : Talks flag refreshing asking before (.look next) state) :
    Talks flag refreshing asking before (next state.session.world.world) state where
  within := talks.within
  silent := talks.silent.imp_right fun silent => silent _
  asks asking := (talks.asks asking).imp_right fun asks => asks _
  keeps hook there := talks.keeps hook there _ rfl

theorem leave {world : P.World} {next : Capture P.World P.Graph}
    (talks : Talks flag refreshing asking before (.leave world next) state) :
    Talks flag refreshing asking before next
      (worldFocus.set { state.session.world with world := world } state) := by
  have turned : Tends flag refreshing state
      (worldFocus.set { state.session.world with world := world } state) := by
    refine tends_session (attends_turned fun hook there => ?_)
    rw [talks.within.followed, talks.within.session.hook] at there
    exact (talks.keeps hook there).1
  refine ⟨trans_of (Tends flag refreshing) talks.within turned, talks.silent,
    fun asking => (talks.asks asking).imp_left turned.calm, fun hook there => ?_⟩
  obtain ⟨same, keeps⟩ := talks.keeps hook there
  exact same.symm ▸ keeps

theorem signature {next : Signature → Capture P.World P.Graph} (answer : Signature)
    (talks : Talks flag refreshing asking before (.signature next) state) :
    Talks flag refreshing asking before (next answer) state where
  within := talks.within
  silent := talks.silent.imp_right fun silent => silent _
  asks asking := (talks.asks asking).imp_right fun asks => asks _
  keeps hook there := talks.keeps hook there _

theorem layers {next : Result (List LayerInfo) → Capture P.World P.Graph}
    {reached : Running P.journaled} (answer : Result (List LayerInfo))
    (talks : Talks flag refreshing asking before (.layers next) state)
    (tends : Tends flag False state reached) :
    Talks flag refreshing asking before (next answer) reached where
  within := trans_of (Tends flag refreshing) talks.within (tends.mono False.elim)
  silent := talks.silent.imp_right fun silent => silent _
  asks asking := (talks.asks asking).imp tends.calm fun asks => asks _
  keeps hook there := by
    rw [tends.session.flag_kept (talks.within.followed ▸ talks.within.session.hook ▸ there)]
    exact talks.keeps hook there _

/-- A question that refreshes stale weights before it is answered. -/
theorem ends_pulling {question : Attempt (Running P.journaled) β}
    {next : Result β → Capture P.World P.Graph} {operation : Operation}
    {good : P.Graph → Running P.journaled → Prop} {bad : Error → Running P.journaled → Prop}
    (within : Tends flag refreshing before state) (may : refreshing)
    (answered : question.Ends state
      (fun _ reached => Tends flag refreshing state reached ∧ Calm flag reached)
      fun _ reached => Tends flag refreshing state reached)
    (asks : asking → Calm flag state ∨ ∀ cause, (next (.error cause)).Asks)
    (keeps : ∀ hook,
      before.session.followedHook? before.executor.subject.followed? = some (.outside hook) →
        ∀ answer later, (next answer).Keeps flag later)
    (rest : ∀ answer reached, Talks flag refreshing asking before (next answer) reached →
      (capture (P := P.journaled) ((next answer).journaled operation)).Ends reached good bad) :
    (do capture (P := P.journaled) ((next (← question.observe)).journaled operation)).Ends state
      good bad := by
  refine ends_bind.mpr (ends_observe.mpr (answered.mono ?_ ?_))
  · rintro value reached ⟨tends, calm⟩
    exact rest _ reached ⟨trans_of (Tends flag refreshing) within tends, .inl may,
      fun _ => .inl calm, fun hook there => keeps hook there _ _⟩
  · intro cause reached tends
    exact rest _ reached ⟨trans_of (Tends flag refreshing) within tends, .inl may,
      fun asking => (asks asking).imp tends.calm fun asks => asks cause,
      fun hook there => keeps hook there _ _⟩

end Talks

/-- A capture tends to the model, and it fails with its entry. One that asks for the model comes to a
good end only when the weights are fresh. The induction is on the dialogue, from the state in which it
began. -/
theorem ends_capture_tending {operation : Operation} {asking : Prop}
    (kind : ∀ succeeded demanded, (⟨operation, succeeded, demanded⟩ : Entry).executes = false)
    (dialogue : Capture P.World P.Graph) (ready : Ready flag before)
    (silent : refreshing ∨ dialogue.Silent) (asks : asking → dialogue.Asks)
    (keeps : ∀ hook, P.Signals hook flag → ∀ now, dialogue.Keeps flag now) :
    (capture (P := P.journaled) (dialogue.journaled operation)).Ends before
      (fun _ reached => Tends flag refreshing before reached ∧ (asking → Calm flag reached))
      fun cause reached => Tends flag refreshing before reached ∧
        Blamed before.session cause reached.session := by
  have goes (dialogue : Capture P.World P.Graph) (state : Running P.journaled)
      (talks : Talks flag refreshing asking before dialogue state) :
      (capture (P := P.journaled) (dialogue.journaled operation)).Ends state
        (fun _ reached => Tends flag refreshing before reached ∧ (asking → Calm flag reached))
        fun cause reached => Tends flag refreshing before reached ∧
          Blamed before.session cause reached.session := by
    induction dialogue generalizing state with
    | done outcome =>
        have written (succeeded : Bool) : Tends flag refreshing state
            (worldFocus.set (state.session.world.write operation succeeded) state) :=
          tends_session (attends_asked (kind _) fun _ _ => rfl)
        refine ends_ofResult (fun graph same => ?_) fun cause same => ?_
        · subst same
          refine ⟨trans_of (Tends flag refreshing) talks.within (written true), fun asking => ?_⟩
          exact (written true).calm ((talks.asks asking).resolve_right fun asks => asks graph rfl)
        · subst same
          refine ⟨trans_of (Tends flag refreshing) talks.within (written false), ?_⟩
          exact talks.within.session.blamed blamed_asked
    | look next ih => exact ih _ state talks.look
    | leave world next ih => exact ih _ talks.leave
    | signature next ih => exact ih _ state (talks.signature _)
    | layers next ih =>
        have ready := talks.within.ready ready
        have abides : (answers (P := P.journaled)).layers.Abides (tending flag False) :=
          abides_layers_tending
        refine ends_bind.mpr (ends_observe.mpr ((abides state).mono ?_ ?_))
        · exact fun infos reached tends => ih _ reached (talks.layers _ (tends ready))
        · exact fun cause reached tends => ih _ reached (talks.layers _ (tends ready).1)
    | parameters next ih =>
        have may := talks.silent.resolve_right id
        exact Talks.ends_pulling talks.within may
          (ends_parameters_tending (talks.within.ready ready) may) talks.asks talks.keeps ih
    | forward inputs next ih =>
        have may := talks.silent.resolve_right id
        exact Talks.ends_pulling talks.within may
          (ends_forward_tending (talks.within.ready ready) may inputs) talks.asks talks.keeps ih
  exact goes dialogue before ⟨refl_of (Tends flag refreshing) before, silent,
    fun asking => .inr (asks asking), fun hook there => keeps hook (ready.signalled hook there) _⟩

/-- Capturing the subject tends to the model. -/
theorem ends_frontend_tending {tracing : Bool} {views : Views} {asking : Prop}
    (ready : Ready flag before) (silent : refreshing ∨ (frontend P tracing views).Silent)
    (asks : asking → (frontend P tracing views).Asks) :
    (capture (frontend P.journaled tracing views)).Ends before
      (fun _ reached => Tends flag refreshing before reached ∧ (asking → Calm flag reached))
      fun cause reached => Tends flag refreshing before reached ∧
        Blamed before.session cause reached.session := by
  cases tracing with
  | true =>
      exact ends_capture_tending (fun _ _ => rfl) _ ready silent asks fun _ signals =>
        signals.trace _
  | false =>
      exact ends_capture_tending (fun _ _ => rfl) _ ready silent asks fun _ signals =>
        signals.script

end Capture

section HandOver

/-- Something is asked of the platform that comes with nothing for the models or devices. -/
theorem ends_submitting_tending {request : CompileRequest} {step : Attempt P.World P.Executable}
    (ready : Ready flag before)
    (keeps : ∀ hook, P.Signals hook flag → step.Obeys (SameFlag flag)) :
    (onWorld (P := P.journaled) (Journaled.compiling request step)).Ends before
      (fun _ reached => Tends flag refreshing before reached)
      fun cause reached => Tends flag refreshing before reached ∧
        Blamed before.session cause reached.session := by
  have tends (tag : Tag) (succeeded : Bool) {outcome : Result P.Executable} {world : P.World}
      (ended : step.perform before.session.world.world = (outcome, world)) :
      Tends flag refreshing before (worldFocus.set
        (before.session.world.asked (.compile tag request) succeeded world) before) := by
    refine tends_session (attends_asked (fun _ => rfl) fun hook there => ?_)
    have kept := keeps hook (ready.signalled hook there) before.session.world.world
    rwa [ended] at kept
  rw [onWorld, ends_within]
  refine (Journaled.ends_compiling request step _).mono ?_ ?_
  · rintro tagged _ ⟨-, world, ended, rfl⟩
    exact tends tagged.tag true ended
  · rintro cause _ ⟨tag, world, ended, rfl⟩
    exact ⟨tends tag false ended, blamed_asked⟩

/-- Handing a graph over tends to the model, and it is only refused with an entry. -/
theorem Hands.tends {tracing : Bool} {table : OptionTable} {views : Views}
    {outcome : Result (Tagged P.Executable)} (ready : Ready flag before)
    (hands : Hands (P := P.journaled) tracing table views before outcome reached) :
    Tends flag refreshing before reached ∧
      ∀ cause, outcome = .error cause → Blamed before.session cause reached.session := by
  have judged {step : Attempt (Running P.journaled) (Tagged P.Executable)}
      (ends : step.Ends before (fun _ reached => Tends flag refreshing before reached)
        fun cause reached => Tends flag refreshing before reached ∧
          Blamed before.session cause reached.session)
      (ended : step.perform before = (outcome, reached)) :
      Tends flag refreshing before reached ∧
        ∀ cause, outcome = .error cause → Blamed before.session cause reached.session := by
    cases outcome with
    | ok tagged => exact ⟨ends.ok ended, nofun⟩
    | error cause =>
        exact ⟨(ends.error ended).1, fun _ same => Except.error.inj same ▸ (ends.error ended).2⟩
  cases hands with
  | traced graph inputs _ _ ended =>
      exact judged (ends_submitting_tending ready fun _ signals => signals.compileTraced _ _) ended
  | scripted graph _ ended =>
      exact judged (ends_submitting_tending ready fun _ signals => signals.compileScripted _ _) ended

end HandOver

end Executor

end Offload
