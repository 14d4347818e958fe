/-
# A call on its way

The phases of a call, one after the other: binding, compiling, following the model, sending weights
that were modified, executing. Each advances the standing or, if it fails, leaves it advanced as far
as it came; so a failed call keeps its destination. A phase of a call that is able to go on fails only
with an entry that failed. A call that succeeds has come to its destination.
-/

import Offload.Proofs.Retry.Tending

namespace Offload

/-- The inputs of an execution and the descriptor that was pushed with it. -/
def Entry.execution? (entry : Entry) : Option (List Value × Option Descriptor) :=
  match entry.operation with
  | .execute _ inputs optimizer => some (inputs, optimizer)
  | _ => none

theorem Entry.execution?_of_executes {entry : Entry} (other : entry.executes = false) :
    entry.execution? = none := by
  obtain ⟨operation, succeeded, demanded⟩ := entry
  cases operation <;> first | rfl | exact nomatch other

/-- What is known of a device. -/
def Device.marks {P : Platform} (device : Device P) : Marks :=
  ⟨device.executable.isSome, device.hostStale, device.deviceStale⟩

namespace Session

variable {P : Platform} {flag : P.World → Bool} {followed : Option Handle}

/-- Changing a device changes what is known of it. -/
theorem site_update {session : Session P.journaled} {id : DeviceId}
    {change : Device P.journaled → Device P.journaled} {mark : Marks → Marks}
    (marks : (change (session.device id)).marks = mark (session.device id).marks) :
    ({ session with devices := session.devices.update id.number change } :
      Session P.journaled).site flag followed = (session.site flag followed).update id mark := by
  unfold Session.site Site.update
  simp only [Site.mk.injEq, true_and]
  refine ⟨rfl, funext fun other => ?_, rfl, rfl⟩
  rw [device_update]
  split
  · exact marks
  · rfl

end Session

namespace Executor

open Attempt Session

variable {P : Platform} (flag : P.World → Bool)

/-- The standing of an executor at work. -/
def standing (running : Running P.journaled) : Standing P.journaled where
  optimizer := running.executor.optimizer
  requested := running.executor.requested
  refreshesSeen := running.executor.refreshesSeen
  warned := running.executor.warned
  site := running.session.site flag running.executor.subject.followed?

/-- The role of an executor, given whether capturing its subject asks for the model. -/
def role (asks : Bool) (executor : Executor P) : Role where
  device := executor.device
  training := executor.training
  connects := decide (executor.options.connectionType? ≠ some .never)
  asks := asks

variable (asks densified : Bool) (binding : Binding)

/-- A call came some of its way. -/
structure Underway (before reached : Running P.journaled) : Prop where
  executor : reached.executor =
    { before.executor with
      subject := reached.executor.subject
      refreshesSeen := reached.executor.refreshesSeen
      warned := reached.executor.warned }
  subject : Recast before.executor.subject reached.executor.subject
  cells : ∀ handle, SameCell (before.session.cell handle) (reached.session.cell handle)
  advances : Standing.Advances (role asks before.executor) densified (standing flag before)
    (standing flag reached)

/-- A call came some of its way, and did not execute. -/
structure Onward (before reached : Running P.journaled) : Prop extends
    Underway flag asks densified before reached where
  grows : Journaled.Grows (fun entry => entry.executes = false) before.session.world
    reached.session.world

/-- Nothing but the platform keeps a call from going on. -/
structure Able (running : Running P.journaled) : Prop where
  backed : (standing flag running).Backed (role asks running.executor)
  drafted : (standing flag running).isCompiled (role asks running.executor) = false →
    ∃ made, draft running.executor.options binding = .ok made

/-- A call failed on its way. If it was able to go on, an entry that failed is to blame, or somebody
who holds the model. -/
def Falls (before : Running P.journaled) (cause : Error) (reached : Running P.journaled) : Prop :=
  Underway flag asks densified before reached ∧
    (Able flag asks binding before → Blamed before.session cause reached.session)

variable {flag asks densified binding} {before reached last : Running P.journaled}

theorem Underway.role (underway : Underway flag asks densified before reached) :
    role asks reached.executor = role asks before.executor := by
  rw [underway.executor]
  rfl

theorem Underway.trans (underway : Underway flag asks densified before reached)
    (later : Underway flag asks densified reached last) : Underway flag asks densified before last where
  executor := by
    rw [later.executor, show reached.executor = _ from underway.executor]
  subject := underway.subject.trans later.subject
  cells handle := (underway.cells handle).trans (later.cells handle)
  advances := underway.advances.trans (underway.role ▸ later.advances)

theorem Underway.followed (underway : Underway flag asks densified before reached) :
    reached.executor.subject.followed? = before.executor.subject.followed? :=
  underway.subject.followed

theorem Underway.ready (underway : Underway flag asks densified before reached) (ready : Ready flag before) :
    Ready flag reached where
  journaled := underway.subject.journaled ready.journaled
  signalled hook there := by
    refine ready.signalled hook ?_
    rw [underway.followed] at there
    unfold followedHook? at there ⊢
    cases followed : before.executor.subject.followed? with
    | none => exact nomatch followed ▸ there
    | some handle =>
        rw [followed] at there
        exact (underway.cells handle).hook.symm.trans there

theorem Underway.signature (underway : Underway flag asks densified before reached) :
    reached.executor.subject.signature reached.session =
      before.executor.subject.signature before.session := by
  exact underway.subject.signature fun handle => (underway.cells handle).signature_eq

theorem Underway.toPush (underway : Underway flag asks densified before reached) :
    toPush reached.executor = toPush before.executor := by
  rw [underway.executor]
  rfl

theorem Underway.able (underway : Underway flag asks densified before reached) :
    Able flag asks binding before → Able flag asks binding reached := by
  rintro ⟨backed, drafted⟩
  refine ⟨?_, fun fresh => ?_⟩
  · rw [underway.role]
    exact underway.advances.backed.mpr backed
  · rw [underway.role] at fresh
    rw [show reached.executor.options = before.executor.options by rw [underway.executor]]
    refine drafted (Bool.eq_false_iff.mpr fun compiled => ?_)
    exact nomatch fresh.symm.trans (underway.advances.isCompiled compiled)

theorem Onward.refl (running : Running P.journaled) : Onward flag asks densified running running :=
  ⟨⟨rfl, .same _, fun _ => .refl _, .refl⟩, refl_of (Journaled.Grows _) _⟩

theorem Onward.trans (onward : Onward flag asks densified before reached)
    (later : Onward flag asks densified reached last) : Onward flag asks densified before last :=
  ⟨onward.toUnderway.trans later.toUnderway, trans_of (Journaled.Grows _) onward.grows later.grows⟩

theorem Onward.falls {cause : Error} (onward : Onward flag asks densified before reached)
    (falls : Falls flag asks densified binding reached cause last) :
    Falls flag asks densified binding before cause last := by
  refine ⟨onward.toUnderway.trans falls.1, fun able => ?_⟩
  obtain ⟨-, more, grown, -⟩ := onward.grows
  exact (falls.2 (onward.toUnderway.able able)).grown grown

/-- The next phase of a call is judged by what is left of the way. -/
theorem ends_bind_onward {α β : Type} {first : Attempt (Running P.journaled) α}
    {next : α → Attempt (Running P.journaled) β} {origin state : Running P.journaled}
    {good : α → Running P.journaled → Prop} {arrives : β → Running P.journaled → Prop}
    (within : Onward flag asks densified origin state)
    (ends : first.Ends state
      (fun value reached => Onward flag asks densified state reached ∧ good value reached)
      (Falls flag asks densified binding state))
    (rest : ∀ value reached, Onward flag asks densified state reached → good value reached →
      (next value).Ends reached arrives
        (Falls flag asks densified binding origin)) :
    (first >>= next).Ends state arrives
      (Falls flag asks densified binding origin) := by
  rw [ends_bind]
  exact ends.mono (fun value reached ⟨onward, held⟩ => rest value reached onward held)
    fun _ _ falls => within.falls falls

/-- Where the model was only tended to, the site alone may have changed. -/
theorem Tends.standing_eq {refreshing : Prop} (tends : Tends flag refreshing before reached) :
    standing flag reached =
      { standing flag before with
        site := reached.session.site flag before.executor.subject.followed? } := by
  unfold standing
  rw [tends.followed, tends.executor]

theorem Tends.isCompiled {refreshing : Prop} {role : Role}
    (tends : Tends flag refreshing before reached) :
    (standing flag reached).isCompiled role = (standing flag before).isCompiled role := by
  rw [tends.standing_eq]
  rcases tends.session.site with unchanged | ⟨-, -, refreshed⟩
  · rw [unchanged]
    rfl
  · rw [refreshed]
    exact Site.refreshed_compiled _

/-- What tends to the model is on the way, if it refreshes stale weights only as the call does. -/
theorem Tends.onward {refreshing : Prop} (tends : Tends flag refreshing before reached)
    (may : refreshing → (role asks before.executor).refreshes (standing flag before) = true ∨
      before.executor.subject.followed? = none) :
    Onward flag asks densified before reached := by
  refine ⟨⟨?_, tends.subject, tends.session.cells, ?_⟩, tends.session.grows⟩
  · rw [tends.executor]
  · rw [tends.standing_eq]
    rcases tends.session.site with unchanged | ⟨allowed, supplied, refreshed⟩
    · rw [unchanged]
      exact .refl
    · rw [refreshed]
      rcases may allowed with refreshes | unfollowed
      · exact Standing.Advances.refl.refreshed refreshes supplied
      · have calm : Calm flag before := calm_of_unfollowed unfollowed
        rw [Site.refreshed_of_calm calm]
        exact .refl

section Compile

/-- What a capture does is known where it matters: an executor that follows a model, and does not
bring its device up to date with it anyway, either always asks for the model to capture it, or never
does. -/
def Captures (asks : Bool) (executor : Executor P.journaled) (binding : Binding) : Prop :=
  executor.subject.followed? ≠ none → (role asks executor).settles = false →
    ∀ views, Views.of executor.options binding = .ok views →
      if asks then (frontend P executor.options.traceModel views).Asks
      else (frontend P executor.options.traceModel views).Silent

theorem Underway.captures (underway : Underway flag asks densified before reached)
    (captures : Captures asks before.executor binding) :
    Captures asks reached.executor binding := by
  unfold Captures
  rw [underway.role, underway.followed,
    show reached.executor.options = before.executor.options by rw [underway.executor]]
  exact captures

/-- Telling of strided inputs marks the application as warned. -/
theorem standing_heeding :
    standing flag (heeding densified before) = (standing flag before).heeded densified := by
  have warned : (heeding densified before).executor.warned =
      (densified || before.executor.warned) := by
    unfold heeding
    cases densified <;> cases told : before.executor.warned <;> simp [told]
  obtain ⟨notices, warned', same⟩ := tells_heeding densified before
  rw [same] at warned ⊢
  obtain rfl : warned' = (densified || before.executor.warned) := warned
  rfl

/-- Telling of strided inputs is on the way. -/
theorem onward_heeding : Onward flag asks densified before (heeding densified before) := by
  have advances : Standing.Advances (role asks before.executor) densified (standing flag before)
      (standing flag (heeding densified before)) := by
    rw [standing_heeding]
    exact Standing.Advances.refl.heeded
  obtain ⟨notices, warned, same⟩ := tells_heeding densified before
  rw [same] at advances ⊢
  exact ⟨⟨rfl, .same _, fun _ => .refl _, advances⟩, refl_of (Journaled.Grows _) _⟩

/-- Giving the device its executable is what compiling changes. -/
theorem standing_install (executable : Tagged P.Executable) (running : Running P.journaled) :
    standing flag (install (P := P.journaled) executable running) =
      (standing flag running).noted.equipped (role asks running.executor) := by
  have site : (install (P := P.journaled) executable running).session.site flag
        running.executor.subject.followed? =
      (running.session.site flag running.executor.subject.followed?).update running.executor.device
        fun marks => { marks with compiled := true } := site_update rfl
  have followed : (install (P := P.journaled) executable running).executor.subject.followed? =
      running.executor.subject.followed? := rfl
  rw [standing, followed, site]
  rfl

/-- An executable that was handed out is installed. -/
theorem onward_install (executable : Tagged P.Executable)
    (fresh : (standing flag before).isCompiled (role asks before.executor) = false)
    (calm : (role asks before.executor).settles = false → asks = true → Calm flag before) :
    Onward flag asks densified before (install (P := P.journaled) executable before) where
  executor := rfl
  subject := .same _
  cells _ := .refl _
  advances := by
    rw [standing_install]
    refine Standing.Advances.refl.compiled fresh fun waits asking => ?_
    rw [Standing.refreshed, show (standing flag before).site.refreshed = _ from
      Site.refreshed_of_calm (calm waits asking)]
  grows := refl_of (Journaled.Grows _) _

/-- The call refreshes the model that the executor follows, if there is one. -/
def Refreshing (flag : P.World → Bool) (asks : Bool) (running : Running P.journaled) : Prop :=
  (role asks running.executor).refreshes (standing flag running) = true ∨
    running.executor.subject.followed? = none

/-- The executor follows a model that is refreshed for capturing it and for nothing else. -/
def Asking (asks : Bool) (executor : Executor P.journaled) : Prop :=
  executor.subject.followed? ≠ none ∧ (role asks executor).settles = false ∧ asks = true

/-- Capturing the subject refreshes only what the call refreshes. -/
theorem ends_frontend_captured {views : Views} {state : Running P.journaled}
    (captures : Captures asks before.executor binding)
    (made : Views.of before.executor.options binding = .ok views)
    (fresh : (standing flag before).isCompiled (role asks before.executor) = false)
    (ready : Ready flag state) :
    (capture (frontend P.journaled before.executor.options.traceModel views)).Ends state
      (fun _ reached => Tends flag (Refreshing flag asks before) state reached ∧
        (Asking asks before.executor → Calm flag reached))
      fun cause reached => Tends flag (Refreshing flag asks before) state reached ∧
        Blamed state.session cause reached.session := by
  refine ends_frontend_tending ready ?_ fun asking => ?_
  · by_cases refreshing : Refreshing flag asks before
    · exact .inl refreshing
    · obtain ⟨idle, follows⟩ := not_or.mp refreshing
      simp only [Role.refreshes, fresh, Bool.not_false, Bool.true_and, Bool.or_eq_true, not_or,
        Bool.not_eq_true] at idle
      obtain ⟨waits, silent⟩ := idle
      obtain rfl : asks = false := silent
      exact .inr (captures follows waits views made)
  · obtain ⟨follows, waits, rfl⟩ := asking
    exact captures follows waits views made

/-- Compiling for the first time. -/
theorem ends_compileBinding_onward (signatures : P.KeepsSignatures) (ready : Ready flag before)
    (captures : Captures asks before.executor binding)
    (fresh : (standing flag before).isCompiled (role asks before.executor) = false) :
    (compileBinding (P := P.journaled) binding).Ends before
      (fun _ reached => Onward flag asks densified before reached ∧
        (standing flag reached).isCompiled (role asks before.executor) = true ∧
          ∃ made, draft before.executor.options binding = .ok made)
      (Falls flag asks densified binding before) := by
  have onward {reached : Running P.journaled}
      (tends : Tends flag (Refreshing flag asks before) before reached) :
      Onward flag asks densified before reached := tends.onward id
  have ends := ends_compileBinding_handed
    (patient_tending signatures : Patient (tending flag (Refreshing flag asks before))) (.refl _)
    binding before (fun tends => by rw [(tends ready).executor]) fun views made =>
      abides_tending fun state ready =>
        (ends_frontend_captured captures made fresh ready).mono (fun _ _ => And.left) fun _ _ => id
  refine ends.mono ?_ ?_
  · rintro _ _ ⟨table, views, handing, executable, handed, drafted, within, captured, hands, rfl⟩
    have made := views_of_draft drafted
    have tends : Tends flag (Refreshing flag asks before) before handing := within ready
    obtain ⟨handing_handed, -⟩ : Tends flag (Refreshing flag asks before) handing handed ∧ _ :=
      hands.tends (tends.ready ready)
    have tended := trans_of (Tends flag (Refreshing flag asks before)) tends handing_handed
    have calm (waits : (role asks before.executor).settles = false) (asking : asks = true) :
        Calm flag handed := by
      by_cases follows : before.executor.subject.followed? = none
      · exact calm_of_unfollowed (tended.followed.trans follows)
      · obtain ⟨start, graph, done, began, performed, kept⟩ := captured
        have ready := (began ready).ready ready
        have ⟨ended, calm⟩ := (ends_frontend_captured captures made fresh ready).ok performed
        exact handing_handed.calm ((kept (ended.ready ready)).calm (calm ⟨follows, waits, asking⟩))
    have onward := onward tended
    have same := onward.role
    have fresh : (standing flag handed).isCompiled (role asks handed.executor) = false := by
      rw [same, tended.isCompiled, fresh]
    refine ⟨onward.trans (onward_install executable fresh (same ▸ calm)), ?_, _, drafted⟩
    rw [standing_install, same]
    exact Role.isCompiled_equipped
  · rintro cause reached (⟨unfit, within⟩ | failed | ⟨table, views, handing, drafted, within, hands⟩)
    · refine ⟨(onward (within ready)).toUnderway, fun able => ?_⟩
      obtain ⟨made, drafted⟩ := able.drafted fresh
      exact nomatch unfit.symm.trans drafted
    · exact ⟨(onward (failed ready).1).toUnderway, fun _ => (failed ready).2⟩
    · have tends : Tends flag (Refreshing flag asks before) before handing := within ready
      obtain ⟨handed, refused⟩ : Tends flag (Refreshing flag asks before) handing reached ∧ _ :=
        hands.tends (tends.ready ready)
      exact ⟨(onward (trans_of (Tends flag _) tends handed)).toUnderway, fun _ =>
        tends.session.blamed (refused cause rfl)⟩

/-- Compiling unless that was done. -/
theorem ends_ensureCompiled_onward (signatures : P.KeepsSignatures) (ready : Ready flag before)
    (captures : Captures asks before.executor binding) :
    (ensureCompiled (P := P.journaled) binding).Ends before
      (fun _ reached => Onward flag asks densified before reached ∧
        (standing flag reached).isCompiled (role asks before.executor) = true ∧
          ((standing flag before).isCompiled (role asks before.executor) = false →
            ∃ made, draft before.executor.options binding = .ok made))
      (Falls flag asks densified binding before) := by
  have compiled : isCompiled before = (standing flag before).isCompiled (role asks before.executor) :=
    rfl
  rw [ensureCompiled, ends_bind, ends_get, compiled]
  split
  · next there => exact ⟨.refl _, there, fun fresh => by cases fresh.symm.trans there⟩
  · next fresh =>
      refine (ends_compileBinding_onward signatures ready captures
        (Bool.eq_false_iff.mpr fresh)).mono (fun _ _ ended => ?_) fun _ _ => id
      exact ⟨ended.1, ended.2.1, fun _ => ended.2.2⟩

end Compile

section Weights

/-- Something was asked of the platform, and changed a device if it succeeded. -/
theorem site_did {operation : Operation} {world : P.World} {id : DeviceId}
    {change : Device P.journaled → Device P.journaled} {mark : Marks → Marks}
    {followed : Option Handle} {session : Session P.journaled}
    (marks : (change (session.device id)).marks = mark (session.device id).marks)
    (flags : ∀ hook, session.followedHook? followed = some (.outside hook) →
      flag world = flag session.world.world) :
    (session.did operation world id change).site flag followed =
      (session.site flag followed).update id mark := by
  have asked : (session.asked operation true world).site flag followed =
      session.site flag followed := site_eq rfl rfl (fun _ => rfl) flags
  rw [← asked]
  exact site_update marks

/-- Sending the weights supplies the device. -/
theorem ends_copyToDevice_onward (ready : Ready flag before)
    (compiled : (standing flag before).isCompiled (role asks before.executor) = true)
    (connects : (role asks before.executor).connects = true) :
    (copyToDevice (P := P.journaled)).Ends before
      (fun _ reached => Onward flag asks densified before reached ∧
        reached.executor = before.executor ∧
          standing flag reached = (standing flag before).supplied (role asks before.executor))
      (Falls flag asks densified binding before) := by
  rw [copyToDevice, ends_bind, ends_get, ends_onSession]
  refine (ends_copying before.executor.device _ before.session).mono ?_ ?_
  · rintro _ _ ⟨tagged, world, there, ended, rfl⟩
    have site : (before.session.did (.copyToDevice tagged.tag) world before.executor.device
          fun device => { device with deviceStale := false }).site flag
          before.executor.subject.followed? =
        (before.session.site flag before.executor.subject.followed?).update before.executor.device
          fun marks => { marks with deviceStale := false } := by
      refine site_did rfl fun hook hooked => ?_
      have kept := (ready.signalled hook hooked).copyToDevice tagged.executable
        before.session.world.world
      rwa [ended] at kept
    have supplied : standing flag { before with
        session := before.session.did (.copyToDevice tagged.tag) world before.executor.device
          fun device => { device with deviceStale := false } } =
        (standing flag before).supplied (role asks before.executor) :=
      congrArg (fun site => { standing flag before with site := site }) site
    refine ⟨⟨⟨rfl, .same _, fun _ => .refl _, ?_⟩, Journaled.grows_asked world _ rfl⟩, rfl, supplied⟩
    rw [supplied]
    exact Standing.Advances.refl.supplied connects
  · rintro cause _ (⟨missing, -, -⟩ | ⟨tagged, world, there, ended, rfl⟩)
    · have present : (before.session.device before.executor.device).executable.isSome = true :=
        compiled
      rw [show (before.session.device before.executor.device).executable = none from missing]
        at present
      cases present
    · have tends : Tends flag False before { before with
          session := before.session.asked (.copyToDevice tagged.tag) false world } := by
        refine tends_session (attends_asked (fun _ => rfl) fun hook hooked => ?_)
        have kept := (ready.signalled hook hooked).copyToDevice tagged.executable
          before.session.world.world
        rwa [ended] at kept
      exact ⟨(tends.onward False.elim).toUnderway, fun _ => blamed_asked⟩

/-- The application is told something on the way. -/
theorem ends_notify_onward (notice : Notice) :
    (notify (P := P.journaled) notice).Ends before
      (fun _ told => Onward flag asks densified before told ∧
        told.executor = before.executor ∧ standing flag told = standing flag before)
      (Falls flag asks densified binding before) :=
  ends_notify_iff.mpr
    ⟨⟨⟨rfl, .same _, fun _ => .refl _, .refl⟩, refl_of (Journaled.Grows _) _⟩, rfl, rfl⟩

/-- The refreshes of the model that is followed are noted. -/
theorem ends_noteRefreshes_onward (settles : (role asks before.executor).settles = true) :
    (noteRefreshes (P := P.journaled)).Ends before
      (fun _ reached => Onward flag asks densified before reached ∧
        standing flag reached = (standing flag before).noted)
      fun _ _ => False := by
  have same : (standing flag before).site.followedRefreshes? = followedRefreshes? before := rfl
  have advances : Standing.Advances (role asks before.executor) densified (standing flag before)
      (standing flag before).noted := Standing.Advances.refl.noted settles
  rw [noteRefreshes, ends_bind, ends_get]
  split
  · next refreshes counted =>
      have noted : standing flag { before with
          executor := { before.executor with refreshesSeen := refreshes } } =
          (standing flag before).noted := by
        rw [Standing.noted, same, counted]
        rfl
      exact ⟨⟨⟨rfl, .same _, fun _ => .refl _, noted ▸ advances⟩, refl_of (Journaled.Grows _) _⟩,
        noted⟩
  · next none =>
      refine ⟨.refl _, ?_⟩
      rw [Standing.noted, same, none]
      rfl

/-- Weights that were modified by hand are sent. -/
theorem ends_sendModified_onward (ready : Ready flag before)
    (compiled : (standing flag before).isCompiled (role asks before.executor) = true)
    (connects : (role asks before.executor).connects = true) :
    (sendModified (P := P.journaled)).Ends before
      (fun _ reached => Onward flag asks densified before reached ∧
        standing flag reached = (standing flag before).supplied (role asks before.executor))
      (Falls flag asks densified binding before) := by
  rw [sendModified, ends_bind, ends_get]
  split
  · refine ends_bind_onward (.refl _) (ends_notify_onward _) fun _ told onward held => ?_
    obtain ⟨executor, same⟩ := held
    rw [← same, ← executor] at compiled ⊢
    rw [← executor] at connects
    exact (ends_copyToDevice_onward (onward.toUnderway.ready ready) compiled connects).mono
      (fun _ _ sent => ⟨onward.trans sent.1, sent.2.2⟩) fun _ _ => onward.falls
  · next fresh =>
      refine ⟨.refl _, ?_⟩
      have same : (standing flag before).supplied (role asks before.executor) =
          standing flag before := by
        rw [Standing.supplied, Site.update_of_same]
        have fresh := Bool.eq_false_iff.mpr fresh
        exact congrArg (fun stale => (⟨_, _, stale⟩ : Marks)) fresh.symm
      exact same.symm

/-- Weights that were refreshed are sent, and that is noted. -/
theorem ends_sendRefreshed_onward (ready : Ready flag before)
    (compiled : (standing flag before).isCompiled (role asks before.executor) = true)
    (settles : (role asks before.executor).settles = true)
    (calm : (standing flag before).refreshed = standing flag before) :
    (do
      notify .sendingRefreshedWeights
      copyToDevice
      noteRefreshes : Attempt (Running P.journaled) Unit).Ends before
      (fun _ reached => Onward flag asks densified before reached ∧
        (standing flag reached).refreshed = standing flag reached ∧
          (standing flag reached).noted = standing flag reached)
      (Falls flag asks densified binding before) := by
  have connects : (role asks before.executor).connects = true := (Bool.and_eq_true_iff.mp settles).1
  refine ends_bind_onward (.refl _) (ends_notify_onward _) fun _ told onward ⟨executor, same⟩ => ?_
  rw [← executor] at connects settles
  rw [← executor, ← same] at compiled
  rw [← same] at calm
  refine ends_bind_onward onward (ends_copyToDevice_onward (onward.toUnderway.ready ready) compiled
    connects) fun _ sent sending ⟨executor', supplied⟩ => ?_
  have onward := onward.trans sending
  rw [← executor'] at settles
  have noting : (noteRefreshes (P := P.journaled)).Ends sent
      (fun _ last => Onward flag asks densified sent last ∧
        standing flag last = (standing flag sent).noted) fun _ _ => False :=
    ends_noteRefreshes_onward settles
  refine noting.mono (fun _ last ⟨onward', noted⟩ => ⟨onward.trans onward', ?_, ?_⟩)
    fun _ _ => False.elim
  · have calm : (standing flag sent).refreshed = standing flag sent := by
      rw [supplied, Role.refreshed_supplied, calm]
    rw [noted, Role.refreshed_noted calm]
  · rw [noted, Role.noted_noted]

/-- Where no model is followed, there is nothing to refresh and nothing to note. -/
theorem standing_of_unfollowed (unfollowed : before.executor.subject.followed? = none) :
    (standing flag before).Backed (role asks before.executor) ∧
      (standing flag before).refreshed = standing flag before ∧
        (standing flag before).noted = standing flag before := by
  have calm : Calm flag before := calm_of_unfollowed unfollowed
  have hook : (standing flag before).site.hook = none := by
    show before.session.followedHook? before.executor.subject.followed? = none
    rw [unfollowed]
    rfl
  have counts : (standing flag before).site.followedRefreshes? = none := by
    show before.executor.subject.followed?.map _ = none
    rw [unfollowed]
    rfl
  refine ⟨fun _ id hooked => (by cases hook.symm.trans hooked), ?_, ?_⟩
  · exact congrArg (fun site => { standing flag before with site := site })
      (Site.refreshed_of_calm calm)
  · rw [Standing.noted, counts]
    rfl

/-- Where the refreshes of the model that is followed were seen, there are none to note. -/
theorem noted_of_seen {handle : Handle} (followed : before.executor.subject.followed? = some handle)
    (seen : (before.session.cell handle).refreshes = before.executor.refreshesSeen) :
    (standing flag before).noted = standing flag before := by
  have counts : (standing flag before).site.followedRefreshes? =
      some (before.session.cell handle).refreshes := by
    show before.executor.subject.followed?.map _ = _
    rw [followed]
    rfl
  rw [Standing.noted, counts]
  exact congrArg (fun refreshes => { standing flag before with refreshesSeen := refreshes }) seen

/-- The device is brought up to date with the model that the executor follows. -/
theorem ends_followModel_onward (ready : Ready flag before)
    (compiled : (standing flag before).isCompiled (role asks before.executor) = true)
    (settles : (role asks before.executor).settles = true) :
    (followModel (P := P.journaled)).Ends before
      (fun _ reached => Onward flag asks densified before reached ∧
        (standing flag before).Backed (role asks before.executor) ∧
          (standing flag reached).refreshed = standing flag reached ∧
            (standing flag reached).noted = standing flag reached)
      (Falls flag asks densified binding before) := by
  rw [followModel, ends_bind, ends_get]
  have signalled := ready.signalled
  split
  · next unfollowed =>
      exact ⟨.refl _, standing_of_unfollowed unfollowed⟩
  · next handle followed =>
      rw [followed] at signalled
      rw [ends_bind, ends_onSession]
      refine (ends_resolve signalled).mono ?_ ?_
      · rintro _ session ⟨attends, supplied, refreshed⟩
        have tends : Tends flag True before { before with session := session } :=
          tends_session (followed ▸ attends)
        have onward : Onward flag asks densified before { before with session := session } :=
          tends.onward fun _ => .inl (by rw [Role.refreshes, settles, Bool.true_or])
        have fetched : standing flag { before with session := session } =
            (standing flag before).refreshed := by
          rw [tends.standing_eq, followed, refreshed, ← followed]
          rfl
        have calm : (standing flag { before with session := session }).refreshed =
            standing flag { before with session := session } := by
          rw [fetched]
          exact congrArg (fun site => { standing flag before with site := site })
            Site.refreshed_refreshed
        have backed : (standing flag before).Backed (role asks before.executor) :=
          Standing.backed_of_supplied (by rwa [standing, followed])
        rw [ends_bind, ends_get]
        split
        · exact (ends_sendRefreshed_onward (onward.toUnderway.ready ready)
            (onward.advances.isCompiled compiled) settles calm).mono
            (fun _ _ sent => ⟨onward.trans sent.1, backed, sent.2⟩) fun _ _ => onward.falls
        · next seen =>
            exact ⟨onward, backed, calm, noted_of_seen followed (Decidable.of_not_not seen)⟩
      · rintro cause session ⟨attends, blamed⟩
        have tends : Tends flag False before { before with session := session } :=
          tends_session (followed ▸ attends)
        refine ⟨(tends.onward False.elim).toUnderway, fun able => blamed ?_⟩
        have supplied := able.backed.supplied settles compiled
        rwa [standing, followed] at supplied

end Weights

section Execute

/-- How a call that succeeded left things: at its destination, and with one execution if its executor
connects. -/
structure Arrives (flag : P.World → Bool) (asks densified : Bool) (binding : Binding)
    (before reached : Running P.journaled) : Prop where
  able : Able flag asks binding before
  standing : standing flag reached =
    (role asks before.executor).destination densified (standing flag before)
  executions : ∃ more,
    reached.session.world.entries = before.session.world.entries ++ more ∧
      more.filterMap Entry.execution? =
        if (role asks before.executor).connects then [(binding.leaves, toPush before.executor)]
        else []

/-- Nothing that was added before executing is an execution. -/
theorem Onward.executions (onward : Onward flag asks densified before reached) :
    ∃ more, reached.session.world.entries = before.session.world.entries ++ more ∧
      more.filterMap Entry.execution? = [] := by
  obtain ⟨-, more, grown, others⟩ := onward.grows
  refine ⟨more, grown, List.filterMap_eq_nil_iff.mpr fun entry there => ?_⟩
  exact Entry.execution?_of_executes (others entry there).2

/-- What was only asked of the platform leaves the standing as it is. -/
theorem standing_asked {operation : Operation} {succeeded : Bool} {world : P.World}
    (flags : ∀ hook, before.session.followedHook? before.executor.subject.followed? =
      some (.outside hook) → flag world = flag before.session.world.world) :
    standing flag { before with session := before.session.asked operation succeeded world } =
      standing flag before := by
  have site : (before.session.asked operation succeeded world).site flag
      before.executor.subject.followed? =
        before.session.site flag before.executor.subject.followed? :=
    site_eq rfl rfl (fun _ => rfl) flags
  exact congrArg (fun site => { standing flag before with site := site }) site

/-- An execution changes the standing if it succeeds. -/
theorem ends_execute_onward (inputs : List Value) (ready : Ready flag before)
    (compiled : (standing flag before).isCompiled (role asks before.executor) = true) :
    (execute (P := P.journaled) inputs).Ends before
      (fun _ reached => standing flag reached =
          (standing flag before).executed (role asks before.executor) ∧
        ∃ tag, reached.session.world.entries = before.session.world.entries ++
          [⟨.execute tag inputs (toPush before.executor), true, before.session.world.demanding⟩])
      (Falls flag asks densified binding before) := by
  have flags {outcome : Result (List Tree)} {world : P.World} {executable : P.Executable}
      (ended : (P.execute executable inputs (toPush before.executor)).perform
        before.session.world.world = (outcome, world)) (hook : P.journaled.Hook)
      (hooked : before.session.followedHook? before.executor.subject.followed? =
        some (.outside hook)) : flag world = flag before.session.world.world := by
    have kept := (ready.signalled hook hooked).execute executable inputs
      (toPush before.executor) before.session.world.world
    rwa [ended] at kept
  rw [execute, ends_bind, ends_get, ends_bind, ends_onSession, ends_withExecutable]
  split
  · next tagged there =>
      refine (ends_onWorld_noted _ _ _).mono ?_ ?_
      · rintro results _ ⟨world, ended, rfl⟩
        -- what success does to the executor, around what it does to the site
        let executed (site : Site P.journaled) : Standing P.journaled :=
          { standing flag before with
            optimizer := before.executor.requested.orElse fun _ => before.executor.optimizer
            requested := none
            site := site }
        rw [ends_bind, update, ends_modify]
        split
        · next training =>
            have site : (before.session.did (.execute tagged.tag inputs (toPush before.executor))
                  world before.executor.device fun device => { device with hostStale := true }).site
                  flag before.executor.subject.followed? =
                (before.session.site flag before.executor.subject.followed?).update
                  before.executor.device fun marks => { marks with hostStale := true } :=
              site_did rfl (flags ended)
            rw [ends_bind, ends_onSession, Session.markHostStale, Session.updateDevice, ends_modify]
            refine ⟨?_, tagged.tag, rfl⟩
            rw [Standing.executed, if_pos (by exact training)]
            exact congrArg executed site
        · next watching =>
            refine ⟨?_, tagged.tag, rfl⟩
            rw [Standing.executed, if_neg (by exact watching)]
            exact congrArg (fun standing => executed standing.site) (standing_asked (flags ended))
      · rintro cause _ ⟨world, ended, rfl⟩
        refine ⟨⟨rfl, .same _, fun _ => .refl _, ?_⟩, fun _ => blamed_asked⟩
        rw [standing_asked (flags ended)]
        exact .refl
  · next missing =>
      have present : (before.session.device before.executor.device).executable.isSome = true :=
        compiled
      rw [missing] at present
      cases present

/-- The last part of a call that executes, from a standing in which everything is ready. -/
theorem ends_sendAndExecute {origin : Running P.journaled}
    (onward : Onward flag asks densified origin before) (able : Able flag asks binding origin)
    (ready : Ready flag origin)
    (compiled : (standing flag before).isCompiled (role asks before.executor) = true)
    (connects : (role asks before.executor).connects = true)
    (warned : (standing flag before).heeded densified = standing flag before)
    (settled : (role asks before.executor).settles = true →
      (standing flag before).refreshed = standing flag before ∧
        (standing flag before).noted = standing flag before) :
    (do
      sendModified
      return .ofResults (← execute binding.leaves) :
        Attempt (Running P.journaled) Output).Ends before
      (fun _ reached => Arrives flag asks densified binding origin reached)
      (Falls flag asks densified binding origin) := by
  have destination := Role.destination_of_ready compiled warned settled
  rw [if_pos connects] at destination
  refine ends_bind_onward onward
    (ends_sendModified_onward (onward.toUnderway.ready ready) compiled connects)
    fun _ sent sending supplied => ?_
  have onward' := onward.trans sending
  have same : role asks sent.executor = role asks before.executor :=
    onward'.role.trans onward.role.symm
  have compiled : (standing flag sent).isCompiled (role asks sent.executor) = true := by
    rw [same, supplied, Role.isCompiled_supplied, compiled]
  rw [ends_bind]
  refine (ends_execute_onward binding.leaves (onward'.toUnderway.ready ready) compiled).mono
    (fun _ reached ⟨executed, tag, entries⟩ => ?_) fun _ _ => onward'.falls
  obtain ⟨more, grown, others⟩ := onward'.executions
  refine ⟨able, ?_, _, by rw [entries, grown, List.append_assoc], ?_⟩
  · rw [executed, same, supplied, ← destination, onward.role, onward.advances.destination]
  · rw [List.filterMap_append, others, if_pos (onward.role ▸ connects), onward'.toPush]
    rfl

/-- A call of an executor that never connects arrives without executing. -/
theorem Onward.arrives (onward : Onward flag asks densified before last)
    (able : Able flag asks binding before)
    (compiled : (standing flag last).isCompiled (role asks last.executor) = true)
    (idle : (role asks last.executor).connects = false)
    (warned : (standing flag last).heeded densified = standing flag last) :
    Arrives flag asks densified binding before last := by
  have waits : (role asks last.executor).settles = false := by
    rw [Role.settles, idle]
    rfl
  have destination := Role.destination_of_ready compiled warned
    fun settles => by cases waits.symm.trans settles
  rw [if_neg (by simp [idle]), onward.role, onward.advances.destination] at destination
  obtain ⟨more, grown, others⟩ := onward.executions
  rw [onward.role] at idle
  exact ⟨able, destination.symm, more, grown, by rw [others, if_neg (by simp [idle])]⟩

/-- A call whose arguments suit the signature arrives at its destination, or fails on its way. -/
theorem ends_call_onward (signatures : P.KeepsSignatures) (ready : Ready flag before)
    (captures : Captures asks before.executor binding) (args : CallArguments)
    (bound : Binding.ofCall (before.executor.subject.signature before.session) args =
      .ok (densified, binding)) :
    (call (P := P.journaled) args).Ends before
      (fun _ reached => Arrives flag asks densified binding before reached)
      (Falls flag asks densified binding before) := by
  rw [call, ends_bind]
  refine (ends_bind_arguments args before).mono ?_ ?_
  · rintro binding' _ ⟨densified', bound', rfl⟩
    obtain ⟨rfl, rfl⟩ := Prod.mk.inj (Except.ok.inj (bound'.symm.trans bound))
    have told : Onward flag asks densified' before (heeding densified' before) := onward_heeding
    have warned : (standing flag (heeding densified' before)).heeded densified' =
        standing flag (heeding densified' before) := by
      simp [standing_heeding, Standing.heeded]
    refine ends_bind_onward told (ends_ensureCompiled_onward signatures
      (told.toUnderway.ready ready) (told.toUnderway.captures captures))
      fun _ compiled compiling held => ?_
    obtain ⟨there, drafted⟩ := held
    have onward := told.trans compiling
    have warned := compiling.advances.heeds warned
    rw [← compiling.role] at there
    have able (backed : (standing flag before).Backed (role asks before.executor)) :
        Able flag asks binding' before := by
      refine ⟨backed, fun fresh => ?_⟩
      rw [told.role, standing_heeding, told.executor] at drafted
      exact drafted fresh
    have unwatched (waits : (role asks compiled.executor).settles = false) :
        Able flag asks binding' before := able fun settles => by
      rw [onward.role] at waits
      cases waits.symm.trans settles
    rw [ends_bind, ends_get]
    dsimp only
    split
    · next never =>
        have idle : (role asks compiled.executor).connects = false :=
          decide_eq_false (not_not_intro never)
        have waits : (role asks compiled.executor).settles = false := by rw [Role.settles, idle]; rfl
        rw [ends_bind, ends_notify_iff]
        obtain ⟨able, arrived, more, grown, executed⟩ :=
          onward.arrives (unwatched waits) there idle warned
        exact ⟨able, arrived, more, grown, executed⟩
    · next connecting =>
        have connects : (role asks compiled.executor).connects = true := decide_eq_true connecting
        split
        · next watching =>
            have settles : (role asks compiled.executor).settles = true := by
              rw [Role.settles, connects]
              exact watching
            refine ends_bind_onward onward (ends_followModel_onward
              (onward.toUnderway.ready ready) there settles)
              fun _ followed following held => ?_
            obtain ⟨backed, calm, noted⟩ := held
            have there := following.advances.isCompiled there
            rw [← following.role] at there connects
            rw [onward.role] at backed
            exact ends_sendAndExecute (onward.trans following)
              (able (onward.advances.backed.mp backed)) ready there connects
              (following.advances.heeds warned) fun _ => ⟨calm, noted⟩
        · next training =>
            have waits : (role asks compiled.executor).settles = false := by
              rw [Role.settles, connects]
              exact Bool.eq_false_iff.mpr training
            exact ends_sendAndExecute onward (unwatched waits) ready there connects warned
              fun settles => by cases waits.symm.trans settles
  · rintro cause _ ⟨unbound, rfl⟩
    cases unbound.symm.trans bound

end Execute

end Executor

end Offload
