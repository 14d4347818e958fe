/-
# Calls of attached executors

A call of a watching executor refreshes the model, sends the weights to its device if there was a
refresh the device has not seen, and then executes; a call of the trainer executes and marks the
host. Whatever fails on the way, the executor is carried. For an executor that was compiled before
the call, what the call asked of the platform is described entry by entry.
-/

import Offload.Proofs.Weights.Wrapper

namespace Offload.Executor

open Attempt Session

variable {P : Platform} {handle : Handle} {trainer : Option DeviceId}
  {running : Running P.journaled} {tagged : Tagged P.Executable}

/-- The weights of the host were sent to a device that had not seen the last refresh; nothing else
happened. -/
def Pushed (tag : Tag) (before reached : Session P.journaled) : Prop :=
  reached.world.entries = before.world.entries ++
    if before.ledger.refreshesAt tag.number = before.ledger.refreshes then []
    else [⟨.copyToDevice tag, true, false⟩]

/-- The device of a watching executor has the last refresh, and the host the newest weights. -/
def CaughtUp (tag : Tag) (session : Session P.journaled) : Prop :=
  session.ledger.refreshesAt tag.number = session.ledger.refreshes ∧
    session.ledger.host = session.ledger.trainer

/-- Sessions that differ idly or in spared devices only carry whoever works on them. -/
theorem carried_session (attached : Attached handle trainer running.executor running.session)
    {session : Session P.journaled} (balanced : Balanced handle trainer session)
    (spares : Spares (fun _ => False) running.session session) :
    Carried handle trainer running { running with session := session } where
  balanced := balanced
  attached := attached.spared spares id
  device := rfl
  spares := spares.mono fun _ => False.elim

/-- Sending the refreshed weights brings a watching executor up to date with the host. -/
theorem ends_push (running : Running P.journaled)
    (balanced : Balanced handle trainer running.session)
    (attached : Attached handle trainer running.executor running.session)
    (watches : running.executor.training = false)
    (there : (running.session.device running.executor.device).executable = some tagged) :
    (do
      notify .sendingRefreshedWeights
      copyToDevice
      noteRefreshes : Attempt (Running P.journaled) Unit).Ends running
      (fun _ reached => Carried handle trainer running reached ∧
        (reached.session.device reached.executor.device).executable = some tagged ∧
        reached.executor.training = false ∧
        reached.session.world.entries =
          running.session.world.entries ++ [⟨.copyToDevice tagged.tag, true, false⟩])
      fun _ reached => Carried handle trainer running reached := by
  have inference : trainer ≠ some running.executor.device := fun trains =>
    by simp [attached.role.mpr trains] at watches
  have silent : tagged.tag.training = false := by
    rw [Bool.eq_false_iff, ne_eq, balanced.registered.role _ tagged there]
    exact inference
  rw [notify, ends_bind, ends_onSession, Session.notify, ends_modify, copyToDevice, ends_bind,
    ends_bind, ends_get, ends_onSession]
  generalize noticed : ({ running.session with notices :=
    running.session.notices ++ [Notice.sendingRefreshedWeights] } : Session P.journaled) = told
  have tells : Idles handle running.session told := noticed ▸ bears_idles.notices running.session _
  have balanced' := tells.balanced balanced
  have attached' := attached.spared (tells.spares fun _ => False) id
  have there' : (told.device running.executor.device).executable = some tagged := by
    rw [tells.device, there]
  have entries : told.world.entries = running.session.world.entries := noticed ▸ rfl
  apply (ends_copyToDevice handle _ told).mono
  · intro _ reached ended
    obtain ⟨found, world, found_there, rfl⟩ := ended
    obtain rfl : tagged = found := by simpa [there'] using found_there
    have follows : running.executor.subject.followed? = some handle := by
      rw [attached.follows watches]
      rfl
    simp only [noteRefreshes, ends_bind, ends_get, followedRefreshes?, follows, Option.map_some,
      update, ends_modify]
    have sent : Balanced handle trainer (told.did (.copyToDevice tagged.tag) world
        running.executor.device fun device => { device with deviceStale := false }) :=
      balanced'.send inference there'
    refine ⟨⟨sent, ?_, rfl, ?_⟩, by simp [there'], watches, ?_⟩
    · refine
        { serves := attached.serves
          follows := attached.follows
          leads := attached.leads
          role := attached.role
          seen := fun _ other other_there => ?_ }
      obtain rfl : tagged = other := by simpa [there'] using other_there
      rw [did_ledger, Ledger.after_copyToDevice, Ledger.receive, if_neg (by simp [silent])]
      simp only [did_cell, Function.update_self]
      exact balanced'.refreshes
    · exact trans_of (Spares _) (tells.spares _) (balanced'.spares_send there')
    · rw [did_entries, entries, balanced'.undemanded]
  · rintro cause reached idles
    exact carried_session attached (idles.balanced balanced')
      (trans_of (Spares _) (tells.spares _) (idles.spares _))

/-- Following the model leaves a watching executor with the newest weights: the host refreshed
them if they were stale, and they were sent if the device had not seen the last refresh. -/
theorem ends_followModel (balanced : Balanced handle trainer running.session)
    (attached : Attached handle trainer running.executor running.session)
    (watches : running.executor.training = false)
    (there : (running.session.device running.executor.device).executable = some tagged) :
    followModel.Ends running
      (fun _ reached => Carried handle trainer running reached ∧
        (reached.session.device reached.executor.device).executable = some tagged ∧
        reached.executor.training = false ∧ CaughtUp tagged.tag reached.session ∧
        ∃ middle, Refreshed running.session middle ∧ Pushed tagged.tag middle reached.session)
      fun _ reached => Carried handle trainer running reached := by
  have follows : running.executor.subject.followed? = some handle := by
    rw [attached.follows watches]
    rfl
  simp only [followModel, ends_bind, ends_get, follows, ends_onSession]
  refine balanced.ends_resolve.mono ?_ fun _ session ended =>
    carried_session attached ended.1 ended.2
  intro refreshed middle ended
  obtain ⟨balanced', spares, refreshing⟩ := ended
  have carried := carried_session attached balanced' spares
  have there' : (middle.device running.executor.device).executable = some tagged := by
    rw [spares.executable _ id, there]
  have newest : middle.ledger.host = middle.ledger.trainer := by
    rw [refreshing.ledger balanced.ahead]
  have seen := carried.attached.seen watches tagged there'
  have counted := balanced'.refreshes
  split
  · next unseen =>
      have behind : middle.ledger.refreshesAt tagged.tag.number ≠ middle.ledger.refreshes :=
        fun equal => unseen (by rw [counted, ← equal, ← seen])
      have role : tagged.tag.training = false := by
        have := balanced'.registered.role _ tagged there'
        rw [← carried.attached.role, watches] at this
        simpa using this
      have pushes := ends_push { running with session := middle } balanced'
        carried.attached watches there'
      refine pushes.mono ?_ fun _ reached pushed => carried.trans pushed
      intro _ reached ended
      obtain ⟨pushed, compiled, watching, entries⟩ := ended
      refine ⟨carried.trans pushed, compiled, watching, ?_, middle, refreshing, ?_⟩
      · have ledger : reached.session.ledger = middle.ledger.receive tagged.tag := by
          rw [ledger, entries, Ledger.ofEntries_append_singleton]
          rfl
        rw [CaughtUp, ledger, Ledger.receive, if_neg (by simp [role])]
        exact ⟨Function.update_self _ _ _, newest⟩
      · rw [Pushed, if_neg behind, entries]
  · next same =>
      have equal : middle.ledger.refreshesAt tagged.tag.number = middle.ledger.refreshes := by
        rw [← seen, ← counted]
        exact (not_ne_iff.mp same).symm
      refine ⟨carried, there', watches, ⟨equal, newest⟩, middle, refreshing, ?_⟩
      rw [Pushed, if_pos equal, List.append_nil]

/-- Nothing was modified by hand, so nothing is sent. -/
theorem ends_sendModified (balanced : Balanced handle trainer running.session)
    {good : Unit → Running P.journaled → Prop} {bad : Error → Running P.journaled → Prop} :
    sendModified.Ends running good bad ↔ good () running := by
  simp only [sendModified, ends_bind, ends_get, balanced.unmarked]
  rfl

/-- An execution leaves its entry. One that trains makes new weights; any other needs its device
to have the newest. -/
theorem ends_execute (balanced : Balanced handle trainer running.session)
    (attached : Attached handle trainer running.executor running.session)
    (there : (running.session.device running.executor.device).executable = some tagged)
    (ready : running.executor.training = false → CaughtUp tagged.tag running.session)
    (inputs : List Value) :
    (execute inputs).Ends running
      (fun _ reached => Carried handle trainer running reached ∧
        reached.session.world.entries = running.session.world.entries ++
          [⟨.execute tagged.tag inputs (toPush running.executor), true, false⟩])
      fun _ reached => Carried handle trainer running reached := by
  have role : tagged.tag.training = running.executor.training := by
    rw [Bool.eq_iff_iff, balanced.registered.role _ tagged there, attached.role]
  have ready' : tagged.tag.training = false → CaughtUp tagged.tag running.session :=
    fun watches => ready (role ▸ watches)
  simp only [execute, ends_bind, ends_get, ends_onSession, ends_withExecutable, there]
  apply (ends_onWorld_noting _ _ running.session).mono
  · intro results _ ended
    obtain ⟨world, rfl⟩ := ended
    simp only [update, ends_modify]
    split
    · next training =>
        have trains := attached.role.mp training
        rw [ends_bind, ends_onSession, markHostStale, updateDevice, ends_modify]
        refine ⟨⟨balanced.train trains there, ?_, rfl, spares_train⟩, ?_⟩
        · exact
            { serves := attached.serves
              follows := attached.follows
              leads := attached.leads
              role := attached.role
              seen := fun watches => absurd (training.symm.trans watches) (by decide) }
        · rw [asked_entries, balanced.undemanded]
    · next watches =>
        have silent : tagged.tag.training = false := by rwa [role, Bool.eq_false_iff]
        have executed : Balanced handle trainer (running.session.asked
            (.execute tagged.tag inputs (toPush running.executor)) true world) :=
          balanced.execute (fun _ => silent) ready'
        have carried := carried_session attached executed (spares_execute (fun _ => silent) _)
        refine ⟨⟨carried.balanced, carried.attached.of_same rfl rfl rfl rfl, rfl,
          carried.spares⟩, ?_⟩
        rw [asked_entries, balanced.undemanded]
  · intro cause _ ended
    obtain ⟨world, rfl⟩ := ended
    have failed : false = true → tagged.tag.training = false := by simp
    exact carried_session attached (balanced.execute failed ready') (spares_execute failed _)

/-- An executor that was compiled stays as it is; any other gets an executable or fails. -/
theorem ends_ensureCompiled (balanced : Balanced handle trainer running.session)
    (attached : Attached handle trainer running.executor running.session) (binding : Binding) :
    (ensureCompiled binding).Ends running
      (fun _ reached => Carried handle trainer running reached ∧
        (∃ tagged, (reached.session.device reached.executor.device).executable = some tagged) ∧
        (isCompiled running = true → reached = running))
      fun _ reached => Carried handle trainer running reached := by
  simp only [ensureCompiled, ends_bind, ends_get]
  split
  · next compiled =>
      exact ⟨refl_of (Carries handle trainer) running balanced attached,
        Option.isSome_iff_exists.mp compiled, fun _ => rfl⟩
  · next fresh =>
      have none : (running.session.device running.executor.device).executable = none :=
        Option.not_isSome_iff_eq_none.mp fresh
      exact (ends_compileBinding_carries binding none balanced attached).mono
        (fun _ _ ended => ⟨ended.1, ended.2, fun compiled => absurd compiled fresh⟩)
        fun _ _ ended => ended

/-- Compiling without executing carries the executor. -/
theorem ends_compile (running : Running P.journaled)
    (balanced : Balanced handle trainer running.session)
    (attached : Attached handle trainer running.executor running.session) (call : CallArguments) :
    (compile call).Ends running
      (fun _ reached => Carried handle trainer running reached)
      fun _ reached => Carried handle trainer running reached := by
  simp only [compile, ends_bind, ends_get]
  split
  · exact refl_of (Carries handle trainer) running balanced attached
  · next fresh =>
      rw [ends_bind]
      refine ((obeys_bind_arguments call).ends running).mono (fun binding told tells => ?_)
        fun _ told tells => tells.quiet.carries balanced attached
      have carried := tells.quiet.carries balanced attached
      have none : (told.session.device told.executor.device).executable = none := by
        obtain ⟨notices, warned, rfl⟩ := tells
        exact Option.not_isSome_iff_eq_none.mp fresh
      have compiles := ends_compileBinding_carries binding none carried.balanced carried.attached
      exact compiles.mono (fun _ _ ended => carried.trans ended.1)
        fun _ _ ended => carried.trans ended

/-- What a call of a compiled and watching executor asked of the platform, if it executed: a
refresh, a send and the execution. -/
def Served (tag : Tag) (before reached : Session P.journaled) : Prop :=
  ∃ middle pushed inputs optimizer, Refreshed before middle ∧ Pushed tag middle pushed ∧
    reached.world.entries = pushed.world.entries ++ [⟨.execute tag inputs optimizer, true, false⟩]

/-- Calling carries the executor, and a watching one that was compiled serves the call as
described. -/
theorem ends_call (running : Running P.journaled)
    (balanced : Balanced handle trainer running.session)
    (attached : Attached handle trainer running.executor running.session)
    (arguments : CallArguments) :
    (call arguments).Ends running
      (fun output reached => Carried handle trainer running reached ∧
        ∀ tagged, (running.session.device running.executor.device).executable = some tagged →
          running.executor.training = false → output.isExecuted = true →
            Served tagged.tag running.session reached.session)
      fun _ reached => Carried handle trainer running reached := by
  unfold call
  rw [ends_bind]
  refine ((obeys_bind_arguments arguments).ends running).mono (fun binding told tells => ?_)
    fun _ told tells => tells.quiet.carries balanced attached
  have carried := tells.quiet.carries balanced attached
  obtain ⟨notices, warned, rfl⟩ := tells
  rw [ends_bind]
  refine (ends_ensureCompiled carried.balanced carried.attached binding).mono ?_
    fun _ _ ended => carried.trans ended
  intro _ ready ended
  obtain ⟨compiling, ⟨tagged, there⟩, unchanged⟩ := ended
  have carried := carried.trans compiling
  rw [ends_bind, ends_get]
  dsimp only
  split
  · rw [ends_bind]
    exact ((obeys_notify .notConnecting).ends ready).mono
      (fun _ _ tells => ⟨carried.trans (tells.quiet.carries carried.balanced carried.attached),
        fun _ _ _ executed => nomatch executed⟩)
      fun _ _ tells => carried.trans (tells.quiet.carries carried.balanced carried.attached)
  · split
    · next watches =>
        have watches : ready.executor.training = false := by simpa using watches
        rw [ends_bind]
        refine (ends_followModel carried.balanced carried.attached watches there).mono ?_
          fun _ _ ended => carried.trans ended
        rintro - caught ⟨following, there', watches', caughtUp, middle, refreshed, pushed⟩
        have carried' := carried.trans following
        rw [ends_bind, ends_sendModified carried'.balanced, ends_bind]
        refine (ends_execute carried'.balanced carried'.attached there' (fun _ => caughtUp) _).mono
          ?_ fun _ _ ended => carried'.trans ended
        rintro results reached ⟨executing, entries⟩
        refine ⟨carried'.trans executing, fun found found_there _ _ => ?_⟩
        have same := unchanged (Option.isSome_iff_exists.mpr ⟨found, found_there⟩)
        subst same
        obtain rfl : found = tagged := Option.some.inj (found_there.symm.trans there)
        exact ⟨middle, caught.session, _, _, refreshed, pushed, entries⟩
    · next trains =>
        have trains : ready.executor.training = true := by simpa using trains
        rw [ends_bind, ends_sendModified carried.balanced, ends_bind]
        refine (ends_execute carried.balanced carried.attached there
          (fun watches => absurd (trains.symm.trans watches) nofun) _).mono ?_
            fun _ _ ended => carried.trans ended
        intro results reached ended
        obtain ⟨executing, -⟩ := ended
        refine ⟨carried.trans executing, fun found found_there watches _ => ?_⟩
        have same := unchanged (Option.isSome_iff_exists.mpr ⟨found, found_there⟩)
        subst same
        exact absurd (trains.symm.trans watches) nofun

end Offload.Executor
